import SecureRtp.Proofs.Session.ControlDelivery
import SecureRtp.Proofs.Session.Delivery
import SecureRtp.Proofs.Transport.Emission
import SecureRtp.Proofs.Transport.Sending

namespace SecureRtp

open Rtp
open Receiver (sentIds controlIds)

def nextNumber (media : List SentPacket) (ssrc : UInt32) (seq : UInt16) : Nat :=
  match (numbers ssrc media).head? with
  | none => seq.toNat
  | some last => last + (seq - UInt16.ofNat last).toNat

structure StepsAhead (media : List SentPacket) (ssrc : UInt32) (seq : UInt16) : Prop where
  bound : nextNumber media ssrc seq < 0x1000000000000
  ahead : ∀ last ∈ (numbers ssrc media).head?,
    0 < (seq - UInt16.ofNat last).toNat ∧ (seq - UInt16.ofNat last).toNat < 0x8000

theorem nextNumber_mod (media : List SentPacket) (ssrc : UInt32) (seq : UInt16) :
    seq.toNat = nextNumber media ssrc seq % 0x10000 := by
  have hs := seq.toNat_lt
  unfold nextNumber
  split
  · omega
  · rw [UInt16.toNat_sub, UInt16.toNat_ofNat']
    omega

theorem stepsAhead_nil (ssrc : UInt32) (seq : UInt16) : StepsAhead [] ssrc seq := by
  have hs := seq.toNat_lt
  constructor
  · change seq.toNat < _
    omega
  · exact nofun

namespace StepsAhead

variable {media : List SentPacket} {ssrc : UInt32} {seq : UInt16} {d : SentPacket}

theorem toNat_index (hs : StepsAhead media ssrc seq) :
    (UInt64.ofNat (nextNumber media ssrc seq)).toNat = nextNumber media ssrc seq := by
  have := hs.bound
  rw [UInt64.toNat_ofNat']
  omega

theorem ahead_cons (hs : StepsAhead media d.ssrc seq) (hn : d.number = nextNumber media d.ssrc seq) :
    Ahead media d := by
  have hseq := seq.toNat_lt
  have hstep := hs.ahead
  unfold Ahead
  unfold nextNumber at hn
  cases hlast : (numbers d.ssrc media).head? with
  | none =>
    rw [hlast] at hn
    dsimp only at hn ⊢
    omega
  | some last =>
    rw [hlast] at hn
    have := hstep last hlast
    dsimp only at hn ⊢
    omega

variable (hs : StepsAhead media ssrc seq) (ha : Stepwise Ahead media)

include hs ha

theorem stepwise (text wire : Bytes) (index : UInt64) :
    Stepwise Ahead (⟨ssrc, nextNumber media ssrc seq, text, index, wire⟩ :: media) :=
  ⟨hs.ahead_cons rfl, ha⟩

theorem nextPosition_index {s : Sender} (hf : s.Follows media) :
    (s.nextPosition ssrc seq).index = UInt64.ofNat (nextNumber media ssrc seq) := by
  have hahead := hs.stepwise ha [] [] 0
  have hround := (inRound_of_ahead hahead).1
  have hnext := (Sender.toNat_index_nextPosition hf (near_of_ahead hahead).1 hs.bound (nextNumber_mod _ _ _)).1 hround
  exact UInt64.toNat_inj.mp (hnext.trans hs.toNat_index.symm)

variable {r : Receiver} {replayWindow : UInt64} {rtcp : List (UInt32 × UInt64)}
  (hm : r.Remembers replayWindow (sentIds media) rtcp) (hi : ∀ e ∈ media, e.index.toNat = e.number)

include hm hi

theorem position_index : (r.position ssrc seq).index = UInt64.ofNat (nextNumber media ssrc seq) := by
  have hnear := (near_of_ahead (hs.stepwise ha [] [] 0)).1
  have hnext := Receiver.toNat_index_position hm hi hnear hs.bound (nextNumber_mod _ _ _)
  exact UInt64.toNat_inj.mp (hnext.trans hs.toNat_index.symm)

theorem accepts : r.acceptsRtp ssrc (UInt64.ofNat (nextNumber media ssrc seq)) = true := by
  have hold : ∀ j, (ssrc, j) ∈ sentIds media → j.toNat < nextNumber media ssrc seq := by
    intro j hj
    obtain ⟨e, he, hssrc, rfl⟩ := Receiver.mem_sentIds.mp hj
    rw [hi e he]
    exact lt_of_ahead (hs.stepwise ha [] [] 0) (mem_numbers.mpr ⟨e, he, hssrc, rfl⟩)
  rw [hm.acceptsRtp_iff, hs.toNat_index]
  constructor
  · intro hmem
    have := hold _ hmem
    rw [hs.toNat_index] at this
    omega
  · intro j hj
    have := hold j hj
    omega

end StepsAhead

theorem Receiver.Remembers.accepts_nextControl {r : Receiver} {replayWindow : UInt64} {rtp : List (UInt32 × UInt64)}
    {controls : List SentControl} (hm : r.Remembers replayWindow rtp (controlIds controls)) (hn : Numbered controls)
    (hb : ∀ d ∈ controls, d.number < 0x80000000) {d : SentControl} (hd : d.number = countOf d.ssrc controls)
    (hbd : d.number < 0x80000000) {index : UInt32} (hi : index.toNat = d.number) :
    r.acceptsRtcp d.ssrc index = true := by
  have hbounds : ∀ e ∈ d :: controls, e.number < 0x80000000 := List.forall_mem_cons.mpr ⟨hbd, hb⟩
  rw [hm.acceptsSent_iff (show Numbered (d :: controls) from ⟨hd, hn⟩) (fun e he => ⟨he, hbounds e he⟩) hi]
  constructor
  · intro hmem
    have := hn.lt_countOf hmem
    omega
  · intro e he hssrc
    have := hn.lt_countOf he
    rw [hssrc] at this
    omega

structure Ledger where
  media : List SentPacket := []
  controls : List SentControl := []

namespace Ledger

def noteMedia (media : List SentPacket) (text wire : Bytes) : List SentPacket :=
  match Header.read? text with
  | some h =>
    let number := nextNumber media h.ssrc h.seq
    ⟨h.ssrc, number, text, UInt64.ofNat number, wire⟩ :: media
  | none => media

def noteControl (controls : List SentControl) (text wire : Bytes) : List SentControl :=
  match Rtcp.ssrc? text with
  | some ssrc => ⟨ssrc, countOf ssrc controls, text, wire⟩ :: controls
  | none => controls

def note (l : Ledger) (kind : PacketKind) (text wire : Bytes) : Ledger :=
  match kind with
  | .rtp => { l with media := noteMedia l.media text wire }
  | .rtcp => { l with controls := noteControl l.controls text wire }

def Allows (l : Ledger) (kind : PacketKind) (text : Bytes) : Prop :=
  match kind with
  | .rtp => ∀ h ∈ Header.read? text, StepsAhead l.media h.ssrc h.seq
  | .rtcp => ∀ ssrc ∈ Rtcp.ssrc? text, countOf ssrc l.controls < 0x80000000

structure Sound (l : Ledger) : Prop where
  ahead : Stepwise Ahead l.media
  indices : ∀ d ∈ l.media, d.index.toNat = d.number
  numbered : Numbered l.controls
  bound : ∀ d ∈ l.controls, d.number < 0x80000000

end Ledger

namespace Ledger

variable {l : Ledger} {kind : PacketKind} {text : Bytes}

theorem sound_nil : Sound {} := ⟨trivial, nofun, trivial, nofun⟩

theorem noteMedia_of_read? {h : Header} (hr : Header.read? text = some h) (media : List SentPacket) (wire : Bytes) :
    noteMedia media text wire = ⟨h.ssrc, nextNumber media h.ssrc h.seq, text,
      UInt64.ofNat (nextNumber media h.ssrc h.seq), wire⟩ :: media := by
  simp only [noteMedia, hr]

theorem noteControl_of_ssrc? {ssrc : UInt32} (hs : Rtcp.ssrc? text = some ssrc) (controls : List SentControl)
    (wire : Bytes) : noteControl controls text wire = ⟨ssrc, countOf ssrc controls, text, wire⟩ :: controls := by
  simp only [noteControl, hs]

theorem Sound.note (hl : l.Sound) (ha : l.Allows kind text) (wire : Bytes) : (l.note kind text wire).Sound := by
  cases kind with
  | rtp =>
    refine ⟨?_, ?_, hl.numbered, hl.bound⟩
    · cases hr : Header.read? text with
      | none =>
        simp only [Ledger.note, noteMedia, hr]
        exact hl.ahead
      | some h =>
        simp only [Ledger.note, noteMedia_of_read? hr]
        exact (ha h hr).stepwise hl.ahead _ _ _
    · cases hr : Header.read? text with
      | none =>
        simp only [Ledger.note, noteMedia, hr]
        exact hl.indices
      | some h =>
        simp only [Ledger.note, noteMedia_of_read? hr]
        exact List.forall_mem_cons.mpr ⟨(ha h hr).toNat_index, hl.indices⟩
  | rtcp =>
    refine ⟨hl.ahead, hl.indices, ?_, ?_⟩
    · cases hs : Rtcp.ssrc? text with
      | none =>
        simp only [Ledger.note, noteControl, hs]
        exact hl.numbered
      | some ssrc =>
        simp only [Ledger.note, noteControl_of_ssrc? hs]
        exact ⟨rfl, hl.numbered⟩
    · cases hs : Rtcp.ssrc? text with
      | none =>
        simp only [Ledger.note, noteControl, hs]
        exact hl.bound
      | some ssrc =>
        simp only [Ledger.note, noteControl_of_ssrc? hs]
        exact List.forall_mem_cons.mpr ⟨ha ssrc hs, hl.bound⟩

end Ledger

structure Paired (c : SessionCrypto) (l : Ledger) (send recv : Session) : Prop where
  sound : l.Sound
  fits : c.Fits
  sender : ∃ s : Sender, send.role = .sending s ∧ s.crypto = c ∧ s.Follows l.media ∧ s.Counts l.controls
  receiver : ∃ r : Receiver, recv.role = .receiving r ∧ r.crypto = c ∧
    r.Remembers recv.settings.replayWindow (sentIds l.media) (controlIds l.controls)
  ids : recv.settings.encryptedIds = send.settings.encryptedIds
  external : send.settings.externalAuth = false

namespace Transport

variable {send recv : Session} {packet : PacketBuffer} {c : SessionCrypto} {l : Ledger}

theorem protectWith_of_room {sender : Sender} (hs : send.role = .sending sender) {kind : PacketKind}
    (hn : sender.crypto.suite.overhead kind ≤ packet.headroom) (sendTimeId : Option UInt8) (options : PacketOptions) :
    protectWith send kind sendTimeId packet options =
      match kind with
      | .rtp => protectRtp send sendTimeId packet options
      | .rtcp => Protected.ofReply packet (send.protectRtcp packet.storage packet.length) id fun _ => options := by
  unfold protectWith
  simp only [Session.overhead_of_sending hs, if_neg (Nat.not_lt.mpr hn)]
  cases kind <;> rfl

section

variable {sender : Sender} (hc : sender.crypto.Fits)
  (hl : sender.crypto.suite.isAead = true → packet.length ≤ Galois.maxLength)

include hc hl

theorem exists_sendsRtp_of_canProtect (hcan : CanProtect sender.crypto.suite .rtp packet) :
    ∃ h, sender.SendsRtp packet.storage packet.length h packet.packet packet.spare := by
  obtain ⟨hroom, hwf⟩ := hcan
  obtain ⟨h, hread⟩ := PacketKind.wellFormed_rtp_iff.mp hwf
  refine ⟨h, rfl, rfl, hroom, hread, ?_⟩
  have hheader := Header.length_le hread
  apply hc.rtp.seals
  intro haead
  have := hl haead
  rw [PacketBuffer.length] at this
  omega

theorem exists_sendsRtcp_of_canProtect (hcan : CanProtect sender.crypto.suite .rtcp packet) :
    ∃ ssrc header payload, sender.SendsRtcp packet.storage packet.length ssrc header payload packet.spare ∧
      packet.packet = header ++ payload := by
  obtain ⟨hroom, hwf⟩ := hcan
  have hseals : sender.crypto.rtcp.Seals (Rtcp.headerLength + controlIndexLength)
      (packet.length - Rtcp.headerLength) := by
    apply hc.rtcp.seals
    intro haead
    exact ⟨Nat.le_trans (Nat.sub_le _ _) (hl haead), by decide⟩
  obtain ⟨ssrc, header, payload, hsends⟩ := exists_sendsRtcp_storage hwf hroom hseals
  have hstorage : packet.packet ++ packet.spare = (header ++ payload) ++ packet.spare := by
    rw [List.append_assoc]
    exact hsends.buffer_eq
  exact ⟨ssrc, header, payload, hsends, List.append_cancel_right hstorage⟩

end

theorem exists_protectWith_rtp {sender : Sender} (hs : send.role = .sending sender) (hc : sender.crypto.Fits)
    (hext : send.settings.externalAuth = false) {h : Header}
    (hsends : sender.SendsRtp packet.storage packet.length h packet.packet packet.spare) (sendTimeId : Option UInt8)
    (options : PacketOptions) :
    let pos := sender.nextPosition h.ssrc h.seq
    let body := sender.crypto.rtpCrypt send.settings.encryptedIds h pos packet.packet
    ∃ sentOptions spare notices, protectWith send .rtp sendTimeId packet options =
      ⟨.ok sentOptions, send.withSender (sender.recordRtp h.ssrc pos),
        ⟨body ++ sender.crypto.rtpTag h pos body, spare⟩, notices⟩ := by
  intro pos body
  have hprotected := protectRtp_eq hs hc hsends sendTimeId options
  simp only [hext, SessionCrypto.rtpTrailer, StreamCrypto.rtpTrailer_false] at hprotected
  refine ⟨_, _, _, (protectWith_of_room hs ?_ sendTimeId options).trans hprotected⟩
  exact hsends.room

theorem exists_unprotectWith_rtp {r : Receiver} (hr : recv.role = .receiving r) (hc : r.crypto.Fits) {d : SentPacket}
    {h : Header} {p : Position} (hd : r.crypto.Sealed recv.settings.encryptedIds d h p)
    (hp : r.position h.ssrc h.seq = p) (ha : r.acceptsRtp d.ssrc d.index = true) :
    ∃ spare notices, unprotectWith recv .rtp (.ofBytes d.wire) =
      ⟨.ok (), recv.withReceiver (r.recordRtp recv.settings.replayWindow d.ssrc p),
        ⟨d.text, spare⟩, notices⟩ := by
  have hopened := Receiver.unprotectRtp_sealed hc hd hp
  rw [if_pos ha] at hopened
  have hreply := Session.unprotectRtp_of_receiving hr d.wire
  rw [hopened] at hreply
  have hu : unprotectWith recv .rtp (.ofBytes d.wire) =
      Unprotected.ofReply (.ofBytes d.wire) (recv.unprotectRtp d.wire) := rfl
  rw [hreply] at hu
  exact ⟨_, _, hu.trans (unprotected_ofReply_ok _ _ _ _)⟩

theorem exists_protectWith_rtcp {sender : Sender} (hs : send.role = .sending sender) (hc : sender.crypto.Fits)
    {ssrc : UInt32} {header payload : Bytes}
    (hsends : sender.SendsRtcp packet.storage packet.length ssrc header payload packet.spare)
    (sendTimeId : Option UInt8) (options : PacketOptions) :
    let index := sender.controlIndex ssrc
    ∃ spare notices, protectWith send .rtcp sendTimeId packet options =
      ⟨.ok options, send.withSender (sender.recordRtcp ssrc index),
        ⟨sender.rtcpWire ssrc index header payload, spare⟩, notices⟩ := by
  intro index
  have hroom : sender.crypto.suite.overhead .rtcp ≤ packet.headroom := by
    rw [Suite.overhead, Nat.add_comm]
    exact hsends.room
  have hlength : id (packet.length + controlIndexLength + sender.crypto.suite.rtcpTagLength) =
      (sender.rtcpWire ssrc index header payload).length := by
    rw [hsends.length_rtcpWire hc, Nat.add_right_comm, Nat.add_assoc]
    rfl
  have hprotected := protectWith_of_room hs hroom sendTimeId options
  simp only [Session.protectRtcp_of_sending hs, hsends.protectRtcp hc, PacketReply.mapState] at hprotected
  exact ⟨_, _, hprotected.trans (ofReply_ok hlength _ _ _)⟩

theorem exists_unprotectWith_rtcp {r : Receiver} (hr : recv.role = .receiving r) (hc : r.crypto.Fits) {d : SentControl}
    {index : UInt32} {header payload : Bytes} (hd : r.crypto.SealedControl d index header payload)
    (hn : d.number < 0x80000000) (ha : r.acceptsRtcp d.ssrc index = true) :
    ∃ spare notices, unprotectWith recv .rtcp (.ofBytes d.wire) =
      ⟨.ok (), recv.withReceiver (r.recordRtcp recv.settings.replayWindow d.ssrc index),
        ⟨d.text, spare⟩, notices⟩ := by
  obtain ⟨trailer, hopened⟩ := Receiver.unprotectRtcp_sealed hc recv.settings hd hn
  rw [if_pos ha] at hopened
  have hreply := Session.unprotectRtcp_of_receiving hr d.wire
  rw [hopened] at hreply
  have hu : unprotectWith recv .rtcp (.ofBytes d.wire) =
      Unprotected.ofReply (.ofBytes d.wire) (recv.unprotectRtcp d.wire) := rfl
  rw [hreply] at hu
  exact ⟨_, _, hu.trans (unprotected_ofReply_ok _ _ _ _)⟩

structure Exchanged (c : SessionCrypto) (l : Ledger) (kind : PacketKind) (packet : PacketBuffer) (p : Protected)
    (u : Unprotected) : Prop where
  sent : ∃ options, p.outcome = .ok options
  taken : u.outcome = .ok ()
  text : u.packet.packet = packet.packet
  paired : Paired c (l.note kind packet.packet p.packet.packet) p.session u.session

theorem exchanged_rtp (hp : Paired c l send recv) (hcan : CanProtect c.suite .rtp packet)
    (hlen : c.suite.isAead = true → packet.length ≤ Galois.maxLength) (hnext : l.Allows .rtp packet.packet)
    (sendTimeId : Option UInt8) (options : PacketOptions) :
    let p := protectWith send .rtp sendTimeId packet options
    Exchanged c l .rtp packet p (unprotectWith recv .rtp (.ofBytes p.packet.packet)) := by
  obtain ⟨hsound, hfits, ⟨s, hs, rfl, hfollows, hcounts⟩, ⟨r, hr, hcrypto, hremembers⟩, hids, hext⟩ := hp
  obtain ⟨h, hsends⟩ := exists_sendsRtp_of_canProtect hfits hlen hcan
  have hread := hsends.header
  have hstep := hnext h hread
  obtain ⟨sentOptions, spare, notices, hsent⟩ := exists_protectWith_rtp hs hfits hext hsends sendTimeId options
  let pos := s.nextPosition h.ssrc h.seq
  let body := s.crypto.rtpCrypt send.settings.encryptedIds h pos packet.packet
  let d : SentPacket :=
    ⟨h.ssrc, nextNumber l.media h.ssrc h.seq, packet.packet, pos.index, body ++ s.crypto.rtpTag h pos body⟩
  -- Sender and receiver number the packet on their own, and both come to the next number of the ledger.
  have hindex : pos.index = UInt64.ofNat d.number := hstep.nextPosition_index hsound.ahead hfollows
  have hnumber : pos.index.toNat = d.number := (congrArg UInt64.toNat hindex).trans hstep.toNat_index
  have hposition : r.position h.ssrc h.seq = pos :=
    Position.index_inj.mp ((hstep.position_index hsound.ahead hremembers hsound.indices).trans hindex.symm)
  have hsealed : r.crypto.Sealed recv.settings.encryptedIds d h pos := by
    rw [hcrypto, hids]
    exact ⟨hread, rfl, nextNumber_mod _ _ _, rfl, hnumber, hsends.seals, rfl⟩
  have haccepts : r.acceptsRtp d.ssrc d.index = true :=
    (congrArg _ hindex).trans (hstep.accepts hsound.ahead hremembers hsound.indices)
  obtain ⟨spare', notices', htaken⟩ :=
    exists_unprotectWith_rtp hr (hcrypto ▸ hfits) hsealed hposition haccepts
  have hnote : l.note .rtp packet.packet d.wire = { l with media := d :: l.media } := by
    rw [Ledger.note, Ledger.noteMedia_of_read? hread, ← hindex]
  rw [hsent]
  dsimp only
  rw [htaken]
  refine ⟨⟨_, rfl⟩, rfl, rfl, hsound.note hnext _, hfits, ?_, ?_, hids, hext⟩
  · rw [hnote]
    refine ⟨_, rfl, s.crypto_recordRtp _ _, hfollows.recordRtp (d := d) hnumber, ?_⟩
    intro ssrc
    rw [Sender.controlIndex_recordRtp]
    exact hcounts ssrc
  · rw [hnote]
    exact ⟨_, rfl, hcrypto, hremembers.recordRtp h.ssrc pos⟩

theorem exchanged_rtcp (hp : Paired c l send recv) (hcan : CanProtect c.suite .rtcp packet)
    (hlen : c.suite.isAead = true → packet.length ≤ Galois.maxLength) (hnext : l.Allows .rtcp packet.packet)
    (sendTimeId : Option UInt8) (options : PacketOptions) :
    let p := protectWith send .rtcp sendTimeId packet options
    Exchanged c l .rtcp packet p (unprotectWith recv .rtcp (.ofBytes p.packet.packet)) := by
  obtain ⟨hsound, hfits, ⟨s, hs, rfl, hfollows, hcounts⟩, ⟨r, hr, hcrypto, hremembers⟩, hids, hext⟩ := hp
  obtain ⟨ssrc, header, payload, hsends, htext⟩ := exists_sendsRtcp_of_canProtect hfits hlen hcan
  obtain ⟨spare, notices, hsent⟩ := exists_protectWith_rtcp hs hfits hsends sendTimeId options
  let index := s.controlIndex ssrc
  let d : SentControl :=
    ⟨ssrc, countOf ssrc l.controls, packet.packet, s.rtcpWire ssrc index header payload⟩
  have hform : s.crypto.SealedControl d index header payload :=
    ⟨hsends.length_header, hsends.stream, htext, hcounts ssrc, hsends.seals, rfl⟩
  have hssrc : Rtcp.ssrc? packet.packet = some ssrc := hform.ssrc?_text
  have hbound : d.number < 0x80000000 := hnext ssrc hssrc
  have hindex : index.toNat = d.number := (hcounts ssrc).trans (Nat.mod_eq_of_lt hbound)
  have hid : index.toUInt64 = UInt64.ofNat d.number := by
    apply UInt64.toNat_inj.mp
    rw [UInt32.toNat_toUInt64, UInt64.toNat_ofNat']
    omega
  have hsealed : r.crypto.SealedControl d index header payload := hcrypto ▸ hform
  have haccepts : r.acceptsRtcp d.ssrc index = true :=
    hremembers.accepts_nextControl hsound.numbered hsound.bound rfl hbound hindex
  obtain ⟨spare', notices', htaken⟩ := exists_unprotectWith_rtcp hr (hcrypto ▸ hfits) hsealed hbound haccepts
  have hnote : l.note .rtcp packet.packet d.wire = { l with controls := d :: l.controls } := by
    rw [Ledger.note, Ledger.noteControl_of_ssrc? hssrc]
  rw [hsent]
  dsimp only
  rw [htaken]
  refine ⟨⟨_, rfl⟩, rfl, rfl, hsound.note hnext _, hfits, ?_, ?_, hids, hext⟩
  · rw [hnote]
    exact ⟨_, rfl, rfl, hfollows, hcounts.recordRtcp d⟩
  · rw [hnote]
    refine ⟨_, rfl, hcrypto, ?_⟩
    have hrecord := hremembers.recordRtcp ssrc index
    rwa [hid] at hrecord

theorem exchanged (hp : Paired c l send recv) {kind : PacketKind} (hcan : CanProtect c.suite kind packet)
    (hlen : c.suite.isAead = true → packet.length ≤ Galois.maxLength) (hnext : l.Allows kind packet.packet)
    (sendTimeId : Option UInt8) (options : PacketOptions) :
    let p := protectWith send kind sendTimeId packet options
    Exchanged c l kind packet p (unprotectWith recv kind (.ofBytes p.packet.packet)) := by
  cases kind with
  | rtp => exact exchanged_rtp hp hcan hlen hnext sendTimeId options
  | rtcp => exact exchanged_rtcp hp hcan hlen hnext sendTimeId options

end Transport

end SecureRtp
