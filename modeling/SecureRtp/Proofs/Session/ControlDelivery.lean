import SecureRtp.Proofs.Session.Control
import SecureRtp.Proofs.Session.Run

namespace SecureRtp

open StreamCrypto

structure SentControl where
  ssrc : UInt32
  number : Nat
  text : Bytes
  wire : Bytes
  deriving DecidableEq

def indexWordStart (suite : Suite) (length : Nat) : Nat :=
  if suite.isAead then length + suite.rtcpTagLength else length

def SentControl.word (suite : Suite) (d : SentControl) : Bytes :=
  slice d.wire (indexWordStart suite d.text.length) (indexWordStart suite d.text.length + controlIndexLength)

def countOf (ssrc : UInt32) (packets : List SentControl) : Nat := packets.countP fun d => d.ssrc = ssrc

def Numbered : List SentControl → Prop
  | [] => True
  | d :: past => d.number = countOf d.ssrc past ∧ Numbered past

variable {sent past : List SentControl} {d : SentControl} {ssrc : UInt32}

theorem countOf_cons_self (d : SentControl) (past : List SentControl) :
    countOf d.ssrc (d :: past) = countOf d.ssrc past + 1 := by
  simp [countOf]

theorem countOf_cons_of_ne (h : d.ssrc ≠ ssrc) (past : List SentControl) :
    countOf ssrc (d :: past) = countOf ssrc past := by
  simp [countOf, h]

theorem Numbered.lt_countOf (hn : Numbered sent) (hd : d ∈ sent) : d.number < countOf d.ssrc sent := by
  induction sent with
  | nil => cases hd
  | cons e past ih =>
    rcases List.mem_cons.mp hd with rfl | hd
    · have := hn.1
      rw [countOf_cons_self]
      omega
    · have := ih hn.2 hd
      by_cases h : e.ssrc = d.ssrc
      · rw [← h] at this ⊢
        rw [countOf_cons_self]
        omega
      · rwa [countOf_cons_of_ne h]

theorem Numbered.eq_of_number_eq (hn : Numbered sent) {e : SentControl} (hd : d ∈ sent) (he : e ∈ sent)
    (hs : d.ssrc = e.ssrc) (h : d.number = e.number) : d = e := by
  induction sent with
  | nil => cases hd
  | cons f past ih =>
    have hf := hn.1
    rcases List.mem_cons.mp hd with rfl | hd'
    · rcases List.mem_cons.mp he with rfl | he'
      · rfl
      · have := hn.2.lt_countOf he'
        rw [← hs] at this
        omega
    · rcases List.mem_cons.mp he with rfl | he'
      · have := hn.2.lt_countOf hd'
        rw [hs] at this
        omega
      · exact ih hn.2 hd' he'

structure SessionCrypto.SealedControl (c : SessionCrypto) (d : SentControl) (index : UInt32)
    (header payload : Bytes) : Prop where
  length_header : header.length = Rtcp.headerLength
  stream : Rtcp.ssrc? header = some d.ssrc
  text : d.text = header ++ payload
  number : index.toNat = d.number % 0x80000000
  seals : c.rtcp.Seals (Rtcp.headerLength + controlIndexLength) payload.length
  wire : d.wire = Sender.rtcpWire { crypto := c } d.ssrc index header payload

namespace SessionCrypto.SealedControl

variable {c : SessionCrypto} {index : UInt32} {header payload : Bytes}

theorem ssrc?_text (hd : c.SealedControl d index header payload) : Rtcp.ssrc? d.text = some d.ssrc := by
  rw [hd.text, Rtcp.ssrc?_append (Nat.le_of_eq hd.length_header.symm), hd.stream]

theorem word (hd : c.SealedControl d index header payload) (hc : c.Fits) : d.word c.suite = indexWord index := by
  have hword := length_indexWord index
  have htag := hc.rtcp.length_rtcpTag d.ssrc index header (c.rtcp.rtcpPayload d.ssrc index payload) (indexWord index)
  have hbody := c.rtcp.length_rtcpPayload d.ssrc index payload
  have hf := hc.rtcp
  rw [SentControl.word, indexWordStart, hd.wire, hd.text, Sender.rtcpWire]
  dsimp only
  generalize c.rtcp.rtcpTag d.ssrc index header (c.rtcp.rtcpPayload d.ssrc index payload) (indexWord index) = tag
    at htag
  generalize c.rtcp.rtcpPayload d.ssrc index payload = body at hbody
  generalize c.rtcp = stream at hf
  have hend : (header ++ payload).length = (header ++ body).length := by simp [hbody]
  cases hf with
  | galois hs ht =>
    have := slice_mid (a := header ++ body ++ tag) (b := indexWord index) (c := []) rfl rfl
    simpa only [rtcpTrailer, hs, if_true, hend, ← htag, ← hword, ← List.length_append, List.append_assoc,
      List.append_nil] using this
  | counterMode hs hk ht =>
    have := slice_mid (a := header ++ body) (b := indexWord index) (c := tag) rfl rfl
    simpa only [rtcpTrailer, hs, hend, ← hword, List.append_assoc, Bool.false_eq_true, if_false] using this

theorem indexWord_eq (hd : c.SealedControl d index header payload) (hn : d.number < 0x80000000) :
    indexWord index = beBytes 4 (0x80000000 + d.number) := by
  have hnumber := hd.number
  have hw : (controlWord index).toNat = 0x80000000 + d.number := by
    rw [toNat_controlWord]
    omega
  rw [← hw]
  rfl

end SessionCrypto.SealedControl

theorem toNat_succ_controlIndex {index : UInt32} (n : Nat) (h : index.toNat = n % 0x80000000) :
    ((index + 1) &&& controlIndexMask).toNat = (n + 1) % 0x80000000 := by
  rw [toNat_and_controlIndexMask, UInt32.toNat_add, h]
  simp only [UInt32.reduceToNat]
  omega

namespace Sender

theorem controlIndex_recordRtp (s : Sender) (ssrc : UInt32) (p : Position) (asked : UInt32) :
    (s.recordRtp ssrc p).controlIndex asked = s.controlIndex asked := by
  rw [controlIndex, controlIndices_recordRtp]
  rfl

theorem controlIndex_protectRtp (s : Sender) (settings : Settings) (buffer : Bytes) (length : Nat) (ssrc : UInt32) :
    (s.protectRtp settings buffer length).state.controlIndex ssrc = s.controlIndex ssrc := by
  unfold protectRtp
  split
  · rfl
  · dsimp only
    split
    · rfl
    · exact controlIndex_recordRtp _ _ _ _

theorem controlIndex_recordRtcp_self (s : Sender) (ssrc index : UInt32) :
    (s.recordRtcp ssrc index).controlIndex ssrc = (index + 1) &&& controlIndexMask := by
  simp [recordRtcp, controlIndex]

theorem controlIndex_recordRtcp_of_ne {other : UInt32} (h : other ≠ ssrc) (s : Sender) (index : UInt32) :
    (s.recordRtcp other index).controlIndex ssrc = s.controlIndex ssrc := by
  rw [recordRtcp, controlIndex, Std.TreeMap.getD_insert, if_neg (by simpa using h)]
  rfl

def Counts (s : Sender) (sent : List SentControl) : Prop :=
  ∀ ssrc, (s.controlIndex ssrc).toNat = countOf ssrc sent % 0x80000000

theorem Counts.recordRtcp {s : Sender} (hs : s.Counts sent) (d : SentControl) :
    (s.recordRtcp d.ssrc (s.controlIndex d.ssrc)).Counts (d :: sent) := by
  intro ssrc
  by_cases h : d.ssrc = ssrc
  · subst h
    rw [controlIndex_recordRtcp_self, countOf_cons_self]
    exact toNat_succ_controlIndex _ (hs d.ssrc)
  · rw [controlIndex_recordRtcp_of_ne h, countOf_cons_of_ne h]
    exact hs ssrc

theorem SendsRtcp.sealed {s : Sender} {buffer header payload spare : Bytes} {length : Nat} (hc : s.crypto.Fits)
    (hs : s.SendsRtcp buffer length ssrc header payload spare) (hcounts : s.Counts sent) :
    s.crypto.SealedControl ⟨ssrc, countOf ssrc sent, buffer.take length,
      (s.protectRtcp buffer length).bytes.take (length + controlIndexLength + s.crypto.suite.rtcpTagLength)⟩
      (s.controlIndex ssrc) header payload := by
  refine ⟨hs.length_header, hs.stream, ?_, hcounts ssrc, hs.seals, ?_⟩
  · rw [hs.buffer_eq, ← hs.length_text, ← List.append_assoc]
    exact List.take_left' List.length_append
  · rw [hs.protectRtcp hc]
    apply List.take_left'
    rw [hs.length_rtcpWire hc]
    omega

end Sender

namespace Session

def sentControl? (s : Session) (sent : List SentControl) : Call → Option SentControl
  | .protectRtcp buffer length =>
    match (s.protectRtcp buffer length).outcome with
    | .ok n =>
      let ssrc := (Rtcp.ssrc? buffer).getD 0
      some ⟨ssrc, countOf ssrc sent, buffer.take length, (s.protectRtcp buffer length).bytes.take n⟩
    | .error _ => none
  | _ => none

def sentControls (s : Session) : List Call → List SentControl
  | [] => []
  | call :: past => ((s.after past).sentControl? (s.sentControls past) call).toList ++ s.sentControls past

theorem numbered_sentControls (s : Session) (calls : List Call) : Numbered (s.sentControls calls) := by
  induction calls with
  | nil => trivial
  | cons call past ih =>
    rw [sentControls]
    cases hd : (s.after past).sentControl? (s.sentControls past) call with
    | none => exact ih
    | some d =>
      refine ⟨?_, ih⟩
      unfold sentControl? at hd
      split at hd
      · split at hd
        · cases hd
          rfl
        · cases hd
      · cases hd

structure Counting (s : Session) (c : SessionCrypto) (sent : List SentControl) (sender : Sender) : Prop where
  role : s.role = .sending sender
  crypto : sender.crypto = c
  counts : sender.Counts sent

structure SendsControl (s : Session) (c : SessionCrypto) (sent : List SentControl) (call : Call) : Prop where
  counting : ∃ sender, (s.perform call).Counting c ((s.sentControl? sent call).toList ++ sent) sender
  forms : ∀ d ∈ s.sentControl? sent call, ∃ index header payload, c.SealedControl d index header payload

variable {s : Session} {c : SessionCrypto} {sender : Sender}

theorem Counting.sentControl?_eq (hs : s.Counting c sent sender) (hc : c.Fits)
    {buffer header payload spare : Bytes} {length : Nat}
    (hsends : sender.SendsRtcp buffer length ssrc header payload spare) :
    s.sentControl? sent (.protectRtcp buffer length) = some ⟨ssrc, countOf ssrc sent, buffer.take length,
      (sender.protectRtcp buffer length).bytes.take (length + controlIndexLength + c.suite.rtcpTagLength)⟩ := by
  obtain ⟨hrole, rfl, -⟩ := hs
  have hssrc : Rtcp.ssrc? buffer = some ssrc := by
    rw [hsends.buffer_eq, Rtcp.ssrc?_append (Nat.le_of_eq hsends.length_header.symm), hsends.stream]
  simp only [sentControl?, protectRtcp_of_sending hrole, PacketReply.mapState, hsends.protectRtcp hc, hssrc,
    Option.getD_some]

theorem Counting.protectRtcp (hs : s.Counting c sent sender) (hc : c.Fits) (buffer : Bytes) (length : Nat) :
    s.SendsControl c sent (.protectRtcp buffer length) := by
  obtain ⟨hrole, rfl, hcounts⟩ := hs
  have hreply := protectRtcp_of_sending hrole buffer length
  obtain ⟨n, hn⟩ | ⟨e, he, hstate⟩ := sender.protectRtcp_cases buffer length
  · obtain ⟨ssrc, header, payload, spare, hsends⟩ := Sender.exists_sendsRtcp hc hn
    have hsealed := hsends.sealed hc hcounts
    have hd := Counting.sentControl?_eq ⟨hrole, rfl, hcounts⟩ hc hsends
    constructor
    · refine ⟨sender.recordRtcp ssrc (sender.controlIndex ssrc), ?_, rfl, ?_⟩
      · simp only [perform, hreply, PacketReply.mapState, hsends.protectRtcp hc, withSender]
      · rw [hd]
        exact hcounts.recordRtcp ⟨ssrc, _, _, _⟩
    · rw [hd]
      rintro d ⟨⟩
      exact ⟨_, header, payload, hsealed⟩
  · have hd : s.sentControl? sent (.protectRtcp buffer length) = none := by
      simp only [sentControl?, hreply, PacketReply.mapState, he]
    constructor
    · refine ⟨sender, ?_, rfl, ?_⟩
      · simp only [perform, hreply, PacketReply.mapState, hstate, withSender]
      · rw [hd]
        exact hcounts
    · rw [hd]
      rintro d ⟨⟩

theorem Counting.perform (hs : s.Counting c sent sender) (hc : c.Fits) (call : Call) :
    s.SendsControl c sent call := by
  obtain ⟨settings, role⟩ := s
  obtain ⟨rfl, hcrypto, hcounts⟩ := hs
  cases call with
  | protectRtcp buffer length => exact Counting.protectRtcp ⟨rfl, hcrypto, hcounts⟩ hc buffer length
  | protectRtp buffer length =>
    refine ⟨⟨_, rfl, (sender.crypto_protectRtp settings buffer length).trans hcrypto, ?_⟩, nofun⟩
    intro ssrc
    rw [Sender.controlIndex_protectRtp]
    exact hcounts ssrc
  | configure direction suite material => exact ⟨⟨sender, rfl, hcrypto, hcounts⟩, nofun⟩
  | setEncryptedIds ids => exact ⟨⟨sender, rfl, hcrypto, hcounts⟩, nofun⟩
  | enableExternalAuth => exact ⟨⟨sender, rfl, hcrypto, hcounts⟩, nofun⟩
  | unprotectRtp packet => exact ⟨⟨sender, rfl, hcrypto, hcounts⟩, nofun⟩
  | unprotectRtcp packet => exact ⟨⟨sender, rfl, hcrypto, hcounts⟩, nofun⟩

theorem sealed_sentControls (hs : s.role = .sending { crypto := c }) (hc : c.Fits) (calls : List Call) :
    (∃ sender, (s.after calls).Counting c (s.sentControls calls) sender) ∧
      ∀ d ∈ s.sentControls calls, ∃ index header payload, c.SealedControl d index header payload := by
  induction calls with
  | nil =>
    refine ⟨⟨_, hs, rfl, ?_⟩, nofun⟩
    intro ssrc
    rfl
  | cons call past ih =>
    obtain ⟨⟨sender, hcounting⟩, hforms⟩ := ih
    have hstep := hcounting.perform hc call
    refine ⟨hstep.counting, ?_⟩
    intro d hd
    rcases List.mem_append.mp hd with hd | hd
    · exact hstep.forms d (by simpa using hd)
    · exact hforms d hd

end Session

namespace Receiver

variable {r : Receiver} {index : UInt32} {header payload : Bytes}

theorem unprotectRtcp_sealed (hc : r.crypto.Fits) (settings : Settings)
    (hd : r.crypto.SealedControl d index header payload) (hn : d.number < 0x80000000) :
    ∃ trailer, r.unprotectRtcp settings d.wire =
      if r.acceptsRtcp d.ssrc index then
        ⟨⟨.ok d.text.length, r.recordRtcp settings.replayWindow d.ssrc index, [.rtcpUnprotected d.ssrc index]⟩,
          d.text ++ trailer⟩
      else ⟨⟨.error (.replayDetected index.toUInt64), r, [.rtcpReplayed d.ssrc index]⟩, d.wire⟩ := by
  have hnumber := hd.number
  have hindex : index.toNat < 0x80000000 := by omega
  have htag := hc.rtcp.length_rtcpTag d.ssrc index header (r.crypto.rtcp.rtcpPayload d.ssrc index payload)
    (indexWord index)
  have hbody := r.crypto.rtcp.length_rtcpPayload d.ssrc index payload
  have hwire : d.wire = header ++ (r.crypto.rtcp.rtcpPayload d.ssrc index payload ++ r.crypto.rtcp.rtcpTrailer
      (r.crypto.rtcp.rtcpTag d.ssrc index header (r.crypto.rtcp.rtcpPayload d.ssrc index payload) (indexWord index))
      (beBytes 4 (controlWord index).toNat)) := hd.wire
  have hopens : r.crypto.rtcp.Opens (Rtcp.headerLength + controlIndexLength) payload.length := hd.seals.opens
  refine ⟨r.crypto.rtcp.rtcpTrailer (r.crypto.rtcp.rtcpTag d.ssrc index header
    (r.crypto.rtcp.rtcpPayload d.ssrc index payload) (indexWord index)) (indexWord index), ?_⟩
  rw [hwire, unprotectRtcp_append hc settings hd.length_header hd.stream htag]
  simp only [ControlTrailer.index_controlWord _ hindex, ControlTrailer.encrypted_controlWord, hbody, hopens,
    openedControl, rtcpPayload_rtcpPayload, Bool.true_eq_false, and_false, if_false, if_true, true_and,
    show beBytes 4 (controlWord index).toNat = indexWord index from rfl, hd.text, List.length_append,
    List.append_assoc]

def controlIds (packets : List SentControl) : List (UInt32 × UInt64) :=
  packets.map fun d => (d.ssrc, UInt64.ofNat d.number)

theorem Remembers.acceptsSent_iff {replayWindow : UInt64} {rtp : List (UInt32 × UInt64)}
    (hm : r.Remembers replayWindow rtp (controlIds past)) (hn : Numbered sent)
    (hfrom : ∀ e ∈ d :: past, e ∈ sent ∧ e.number < 0x80000000) (hi : index.toNat = d.number) :
    r.acceptsRtcp d.ssrc index = true ↔
      d ∉ past ∧ ∀ e ∈ past, e.ssrc = d.ssrc → e.number < d.number + (Replay.Window.clamp replayWindow).toNat := by
  obtain ⟨hd, hpast⟩ := List.forall_mem_cons.mp hfrom
  have hnumber : ∀ e ∈ past, (UInt64.ofNat e.number).toNat = e.number := by
    intro e he
    have := (hpast e he).2
    rw [UInt64.toNat_ofNat']
    omega
  have hmem : (d.ssrc, index.toUInt64) ∈ controlIds past ↔ d ∈ past := by
    simp only [controlIds, List.mem_map, Prod.mk.injEq]
    constructor
    · rintro ⟨e, he, hssrc, hindex⟩
      have heq : d.number = e.number := by
        rw [← hnumber e he, hindex, UInt32.toNat_toUInt64, hi]
      rwa [hn.eq_of_number_eq hd.1 (hpast e he).1 hssrc.symm heq]
    · intro h
      refine ⟨d, h, rfl, ?_⟩
      apply UInt64.toNat_inj.mp
      rw [hnumber d h, UInt32.toNat_toUInt64, hi]
  rw [hm.acceptsRtcp_iff, hmem, hi]
  apply and_congr_right
  intro _
  constructor
  · intro hall e he hssrc
    rw [← hnumber e he]
    exact hall _ (List.mem_map.mpr ⟨e, he, by rw [hssrc]⟩)
  · intro hall j hj
    obtain ⟨e, he, heq⟩ := List.mem_map.mp hj
    obtain ⟨hssrc, rfl⟩ := Prod.mk.inj heq
    rw [hnumber e he]
    exact hall e he hssrc

end Receiver

namespace Session

variable {s : Session} {c : SessionCrypto}

def controlDeliveries (packets : List SentControl) : List Call := packets.map fun d => .unprotectRtcp d.wire

structure ReceivedControl (s : Session) (c : SessionCrypto) (replayWindow : UInt64) (past : List SentControl)
    (r : Receiver) : Prop where
  role : s.role = .receiving r
  window : s.settings.replayWindow = replayWindow
  crypto : r.crypto = c
  remembers : r.Remembers replayWindow [] (Receiver.controlIds past)

theorem ReceivedControl.unprotectRtcp {replayWindow : UInt64} {r : Receiver}
    (hs : s.ReceivedControl c replayWindow past r) (hc : c.Fits) {index : UInt32} {header payload : Bytes}
    (hd : c.SealedControl d index header payload) (hn : d.number < 0x80000000) :
    (if r.acceptsRtcp d.ssrc index then
      (s.unprotectRtcp d.wire).outcome = .ok d.text.length ∧ (s.unprotectRtcp d.wire).bytes.take d.text.length = d.text
    else (s.unprotectRtcp d.wire).outcome = .error (.replayDetected (UInt64.ofNat d.number))) ∧
      ∃ r', (s.unprotectRtcp d.wire).state.ReceivedControl c replayWindow (d :: past) r' := by
  obtain ⟨hrole, rfl, rfl, hm⟩ := hs
  have hnumber := hd.number
  have hid : index.toUInt64 = UInt64.ofNat d.number := by
    apply UInt64.toNat_inj.mp
    rw [UInt32.toNat_toUInt64, UInt64.toNat_ofNat']
    omega
  obtain ⟨trailer, hreceiver⟩ := Receiver.unprotectRtcp_sealed hc s.settings hd hn
  have hreply := unprotectRtcp_of_receiving hrole d.wire
  rw [hreceiver] at hreply
  rw [hreply]
  by_cases ha : r.acceptsRtcp d.ssrc index = true
  · simp only [if_pos ha]
    refine ⟨⟨rfl, List.take_left⟩, _, rfl, rfl, rfl, ?_⟩
    have hrecord := hm.recordRtcp d.ssrc index
    rw [hid] at hrecord
    exact hrecord
  · simp only [if_neg ha]
    refine ⟨congrArg _ (congrArg _ hid), r, rfl, rfl, rfl, ?_⟩
    have hrefused := hm.of_refusedRtcp (by simpa using ha)
    rw [hid] at hrefused
    exact hrefused

theorem received_controlDeliveries {replayWindow : UInt64} (hs : s.role = .receiving { crypto := c })
    (hw : s.settings.replayWindow = replayWindow) (hc : c.Fits)
    (hd : ∀ d ∈ past, (∃ index header payload, c.SealedControl d index header payload) ∧ d.number < 0x80000000) :
    ∃ r, (s.after (controlDeliveries past)).ReceivedControl c replayWindow past r := by
  induction past with
  | nil => exact ⟨_, hs, hw, rfl, Receiver.remembers_nil _ _⟩
  | cons d past ih =>
    obtain ⟨⟨⟨index, header, payload, hform⟩, hn⟩, hpast⟩ := List.forall_mem_cons.mp hd
    obtain ⟨r, hr⟩ := ih hpast
    exact (hr.unprotectRtcp hc hform hn).2

/-- A sender makes any calls, and a receiver gets its first `2 ^ 31` control packets of each stream in any order,
some perhaps never and some again. Each carries its number, and is taken, with its text, just if it is new and in
the window. -/
theorem delivered_control_iff {suite : Suite} {material : Bytes} (hm : material.length = suite.materialLength)
    (sendWindow replayWindow : UInt64) (sendIds ids : List UInt8) (calls : List Call) :
    let sent := (start sendWindow sendIds .send suite material).sentControls calls
    (∀ d ∈ sent, Rtcp.ssrc? d.text = some d.ssrc ∧
      (d.number < 0x80000000 → d.word suite = beBytes 4 (0x80000000 + d.number))) ∧
    ∀ d past, (∀ e ∈ d :: past, e ∈ sent ∧ e.number < 0x80000000) →
      let s := (start replayWindow ids .recv suite material).after (controlDeliveries past)
      if d ∉ past ∧ ∀ e ∈ past, e.ssrc = d.ssrc →
          e.number < d.number + (Replay.Window.clamp replayWindow).toNat then
        (s.unprotectRtcp d.wire).outcome = .ok d.text.length ∧
          (s.unprotectRtcp d.wire).bytes.take d.text.length = d.text
      else (s.unprotectRtcp d.wire).outcome = .error (.replayDetected (UInt64.ofNat d.number)) := by
  intro sent
  obtain ⟨c, hof, rfl, hc⟩ := SessionCrypto.fits_ofMaterial hm
  have hforms := (sealed_sentControls (role_start_send sendWindow sendIds hof) hc calls).2
  constructor
  · intro d hd
    obtain ⟨index, header, payload, hform⟩ := hforms d hd
    exact ⟨hform.ssrc?_text, fun hn => (hform.word hc).trans (hform.indexWord_eq hn)⟩
  · intro d past hfrom
    obtain ⟨⟨hd, hn⟩, hpast⟩ := List.forall_mem_cons.mp hfrom
    have hreceived : ∀ e ∈ past, (∃ index header payload, c.SealedControl e index header payload) ∧
        e.number < 0x80000000 := by
      intro e he
      exact ⟨hforms e (hpast e he).1, (hpast e he).2⟩
    have hwindow : (start replayWindow ids .recv c.suite material).settings.replayWindow = replayWindow := by
      rw [settings_start hof]
    obtain ⟨r, hr⟩ := received_controlDeliveries (role_start_recv replayWindow ids hof) hwindow hc hreceived
    obtain ⟨index, header, payload, hform⟩ := hforms d hd
    have hreply := (hr.unprotectRtcp hc hform hn).1
    have hindex : index.toNat = d.number := by
      rw [hform.number]
      exact Nat.mod_eq_of_lt hn
    have haccepts := hr.remembers.acceptsSent_iff (numbered_sentControls _ calls) hfrom hindex
    simp only [haccepts] at hreply
    exact hreply

theorem exists_sentControls_cons (hs : s.role = .sending { crypto := c }) (hc : c.Fits) (calls : List Call)
    {ssrc : UInt32} {header payload spare : Bytes} (hh : header.length = Rtcp.headerLength)
    (hstream : Rtcp.ssrc? header = some ssrc) (hroom : controlIndexLength + c.suite.rtcpTagLength ≤ spare.length)
    (hl : c.rtcp.Seals (Rtcp.headerLength + controlIndexLength) payload.length) :
    ∃ wire, s.sentControls (.protectRtcp (header ++ (payload ++ spare)) (header.length + payload.length) :: calls) =
      ⟨ssrc, countOf ssrc (s.sentControls calls), header ++ payload, wire⟩ :: s.sentControls calls := by
  obtain ⟨sender, hcounting⟩ := (sealed_sentControls hs hc calls).1
  have hsends : sender.SendsRtcp (header ++ (payload ++ spare)) (header.length + payload.length) ssrc header payload
      spare := by
    rw [← hcounting.crypto] at hroom hl
    exact ⟨rfl, hh, rfl, hroom, hstream, hl⟩
  have htext : (header ++ (payload ++ spare)).take (header.length + payload.length) = header ++ payload := by
    rw [← List.append_assoc]
    exact List.take_left' List.length_append
  have hsent := hcounting.sentControl?_eq hc hsends
  rw [htext] at hsent
  rw [sentControls, hsent]
  exact ⟨_, rfl⟩

theorem sentControls_cons_of_error {calls : List Call} {buffer : Bytes} {length : Nat} {e : Error}
    (he : ((s.after calls).protectRtcp buffer length).outcome = .error e) :
    s.sentControls (.protectRtcp buffer length :: calls) = s.sentControls calls := by
  rw [sentControls, sentControl?, he]
  rfl

def bareReport : Bytes := [0x80, 200, 0, 1, 0, 0, 0, 1]

def bareReportCall : Call := .protectRtcp (bareReport ++ zeros 14) 8

theorem exists_sentControls_bareReport (hs : s.role = .sending { crypto := c }) (hc : c.Fits)
    (hsuite : c.suite = .aesCm128HmacSha1_80) (calls : List Call) :
    ∃ wire, s.sentControls (bareReportCall :: calls) =
      ⟨1, countOf 1 (s.sentControls calls), bareReport, wire⟩ :: s.sentControls calls := by
  have hheader : bareReport.length = Rtcp.headerLength := rfl
  have hstream : Rtcp.ssrc? bareReport = some 1 := rfl
  have hroom : controlIndexLength + c.suite.rtcpTagLength ≤ (zeros 14).length := by
    rw [hsuite]
    decide
  have hseals : c.rtcp.Seals (Rtcp.headerLength + controlIndexLength) ([] : Bytes).length :=
    c.rtcp.seals_of_le (by decide) (by decide)
  have hcons := exists_sentControls_cons hs hc calls hheader hstream hroom hseals
  rwa [List.append_nil, List.nil_append, hheader] at hcons

def reportCalls : List Call :=
  [.protectRtcp (bareReport ++ zeros 14) 8, .protectRtcp bareReport 8, .protectRtp (bareReport ++ zeros 24) 12,
    .protectRtcp (bareReport ++ zeros 14) 8]

theorem exists_sentControls_reportCalls (hs : s.role = .sending { crypto := c }) (hc : c.Fits)
    (hsuite : c.suite = .aesCm128HmacSha1_80) :
    ∃ first second, s.sentControls reportCalls = [second, first] ∧ first.ssrc = 1 ∧ second.ssrc = 1 ∧
      first.number = 0 ∧ second.number = 1 ∧ first.text = bareReport ∧ second.text = bareReport := by
  have hfails (calls : List Call) : s.sentControls (.protectRtcp bareReport 8 :: calls) = s.sentControls calls := by
    obtain ⟨sender, hcounting⟩ := (sealed_sentControls hs hc calls).1
    have hshort : sender.rtcpStream bareReport 8 = .error (.bufferTooSmall 22 8) := by
      rw [Sender.rtcpStream, hcounting.crypto, hsuite]
      rfl
    apply sentControls_cons_of_error
    rw [protectRtcp_of_sending hcounting.role, Sender.protectRtcp, hshort]
    rfl
  have hmedia (buffer : Bytes) (calls : List Call) :
      s.sentControls (.protectRtp buffer 12 :: calls) = s.sentControls calls := rfl
  obtain ⟨wire₁, h₁⟩ := exists_sentControls_bareReport hs hc hsuite []
  obtain ⟨wire₂, h₂⟩ := exists_sentControls_bareReport hs hc hsuite (reportCalls.drop 1)
  have hpast : s.sentControls (reportCalls.drop 1) = [⟨1, 0, bareReport, wire₁⟩] := by
    rw [show reportCalls.drop 1 = [_, _, bareReportCall] from rfl, hfails, hmedia, h₁]
    rfl
  rw [hpast] at h₂
  exact ⟨_, _, h₂, rfl, rfl, rfl, rfl, rfl, rfl⟩

theorem delivered_reports_out_of_order :
    ∃ first second,
      (start 1024 [] .send .aesCm128HmacSha1_80 (zeros 30)).sentControls reportCalls = [second, first] ∧
      first.word .aesCm128HmacSha1_80 = [0x80, 0, 0, 0] ∧ second.word .aesCm128HmacSha1_80 = [0x80, 0, 0, 1] ∧
      let s := start 64 [] .recv .aesCm128HmacSha1_80 (zeros 30)
      ((s.after (controlDeliveries [second])).unprotectRtcp first.wire).outcome = .ok 8 ∧
        ((s.after (controlDeliveries [second])).unprotectRtcp first.wire).bytes.take 8 = bareReport ∧
        ((s.after (controlDeliveries [first, second])).unprotectRtcp second.wire).outcome =
          .error (.replayDetected 1) := by
  have hm : (zeros 30).length = Suite.aesCm128HmacSha1_80.materialLength := rfl
  obtain ⟨c, hof, hsuite, hc⟩ := SessionCrypto.fits_ofMaterial hm
  obtain ⟨first, second, hsent, s₁, s₂, n₁, n₂, x₁, x₂⟩ :=
    exists_sentControls_reportCalls (role_start_send 1024 [] hof) hc hsuite
  obtain ⟨hwords, hdelivered⟩ := delivered_control_iff hm 1024 64 [] [] reportCalls
  rw [hsent] at hwords hdelivered
  have hfrom : ∀ e ∈ [second, first, second], e ∈ [second, first] ∧ e.number < 0x80000000 := by
    simp [n₁, n₂]
  have hnew : first ∉ [second] ∧ ∀ e ∈ [second], e.ssrc = first.ssrc →
      e.number < first.number + (Replay.Window.clamp 64).toNat := by
    constructor
    · intro h
      rw [List.mem_singleton.mp h] at n₁
      omega
    · have hclamp : (Replay.Window.clamp 64).toNat = 64 := rfl
      simp [n₁, n₂, hclamp]
  have hold : ¬(second ∉ [first, second] ∧ ∀ e ∈ [first, second], e.ssrc = second.ssrc →
      e.number < second.number + (Replay.Window.clamp 64).toNat) := by
    simp
  have htaken := hdelivered first [second] (List.forall_mem_cons.mp hfrom).2
  have hrefused := hdelivered second [first, second] hfrom
  rw [if_pos hnew, x₁] at htaken
  rw [if_neg hold, n₂] at hrefused
  have hword₁ := (hwords first (by simp)).2 (by omega)
  have hword₂ := (hwords second (by simp)).2 (by omega)
  rw [n₁] at hword₁
  rw [n₂] at hword₂
  exact ⟨first, second, hsent, hword₁, hword₂, htaken.1, htaken.2, hrefused⟩

end Session

end SecureRtp
