import SecureRtp.Proofs.Packet.Checked
import SecureRtp.Proofs.Replay.Checked
import SecureRtp.Proofs.Session.Control
import SecureRtp.Proofs.Session.Media
/-!
Receiving a packet with every access checked, step by step in the order in which a program takes the steps. A fault
gives `none`. With keys that fit there is no fault, and the checked steps do what receiving does.
-/
namespace SecureRtp

abbrev CheckedEdit := ExceptT Error (StateT Bytes Option)

namespace CheckedEdit

variable {α β : Type}

def check (x : Option α) : CheckedEdit α := ExceptT.lift (StateT.lift x)

def lift (r : Except Error α) : CheckedEdit α := ExceptT.mk (pure r)

def replace (start : Nat) (new : Bytes) : CheckedEdit Unit := do
  set (← check (overwrite? (← get) start new))

def apply (edit : CheckedEdit α) (bytes : Bytes) : Option (Except Error α × Bytes) := edit.run.run bytes

@[simp] theorem apply_pure (a : α) (bytes : Bytes) : (pure a : CheckedEdit α).apply bytes = some (.ok a, bytes) := rfl

@[simp] theorem apply_throw (e : Error) (bytes : Bytes) :
    (throw e : CheckedEdit α).apply bytes = some (.error e, bytes) := rfl

@[simp] theorem apply_get (bytes : Bytes) : (get : CheckedEdit Bytes).apply bytes = some (.ok bytes, bytes) := rfl

@[simp] theorem apply_lift (r : Except Error α) (bytes : Bytes) : (lift r).apply bytes = some (r, bytes) := rfl

@[simp] theorem apply_check (x : Option α) (bytes : Bytes) :
    (check x).apply bytes = x.map fun a => (.ok a, bytes) := by
  cases x <;> rfl

@[simp] theorem apply_bind (x : CheckedEdit α) (f : α → CheckedEdit β) (bytes : Bytes) :
    (x >>= f).apply bytes =
      (x.apply bytes).bind fun
        | (.ok a, bytes) => (f a).apply bytes
        | (.error e, bytes) => some (.error e, bytes) := by
  simp only [apply, ExceptT.run, StateT.run, bind, ExceptT.bind, ExceptT.mk, ExceptT.bindCont, StateT.bind]
  congr 1
  funext r
  obtain ⟨r, bytes⟩ := r
  cases r <;> rfl

@[simp] theorem apply_replace (start : Nat) (new bytes : Bytes) :
    (replace start new).apply bytes = (overwrite? bytes start new).map fun bytes => (.ok (), bytes) := by
  simp only [replace, apply_bind, apply_get, Option.bind_some, apply_check]
  cases overwrite? bytes start new <;> rfl

end CheckedEdit

open CheckedEdit (check)

def exactly? (length : Nat) (bytes : Bytes) : Option Bytes := if bytes.length = length then some bytes else none

def int32? (n : Int) : Option Int := if -0x80000000 ≤ n ∧ n < 0x80000000 then some n else none

def Position.checkedEstimate (highest : Position) (seq : UInt16) : Option Position := do
  let last : Int := highest.seq.toNat
  let next : Int := seq.toNat
  if last < 0x8000 then
    if (← int32? (next - last)) > 0x8000 then return ⟨roundBefore highest.roc, seq⟩ else return ⟨highest.roc, seq⟩
  else if (← int32? (last - 0x8000)) > next then return ⟨highest.roc + 1, seq⟩
  else return ⟨highest.roc, seq⟩

namespace StreamCrypto

def checkedOpenRtp (c : StreamCrypto) (ssrc : UInt32) (p : Position) (headerLength length : Nat) :
    CheckedEdit Unit := do
  let packet ← get
  let tag ← check (slice? packet length packet.length)
  match c with
  | galois key salt =>
    let tag ← check (exactly? Galois.tagLength tag)
    let header ← check (slice? packet 0 headerLength)
    let rest ← check (slice? packet headerLength packet.length)
    let payload ← check (slice? rest 0 (← check (difference? length headerLength)))
    let nonce := Nonce.galoisRtp salt ssrc p.roc p.seq
    CheckedEdit.replace headerLength (← CheckedEdit.lift (Galois.decrypt key nonce header payload tag))
  | counterMode key salt auth =>
    let text ← check (slice? packet 0 length)
    if ← CheckedEdit.lift (auth.verifyRtp text p.roc tag) then
      let payload ← check (slice? packet headerLength length)
      let nonce := Nonce.counterMode salt ssrc p.index
      CheckedEdit.replace headerLength (← CheckedEdit.lift (CounterMode.transform key nonce payload))
    else throw .authenticationFailed

def checkedTrailer (c : StreamCrypto) (packet : Bytes) (tagLength : Nat) : Option ControlTrailer := do
  match c with
  | galois .. =>
    let start ← difference? packet.length controlIndexLength
    return ⟨← difference? start Galois.tagLength, ← word32At? packet start⟩
  | counterMode .. =>
    let start ← difference? (← difference? packet.length tagLength) controlIndexLength
    return ⟨start, ← word32At? packet start⟩

def checkedOpenRtcp (c : StreamCrypto) (ssrc : UInt32) (trailer : ControlTrailer) (tagLength : Nat) :
    CheckedEdit Unit := do
  let packet ← get
  match c with
  | galois key salt =>
    if trailer.encrypted then
      let start ← check (difference? packet.length controlIndexLength)
      let tag ← check (exactly? Galois.tagLength (← check (slice? packet trailer.textEnd start)))
      let header ← check (slice? packet 0 Rtcp.headerLength)
      let word ← check (slice? packet start (start + controlIndexLength))
      let payload ← check (slice? packet Rtcp.headerLength trailer.textEnd)
      let nonce := Nonce.galoisRtcp salt ssrc trailer.index
      CheckedEdit.replace Rtcp.headerLength
        (← CheckedEdit.lift (Galois.decrypt key nonce (header ++ word) payload tag))
    else throw (.crypto .unencryptedControl)
  | counterMode key salt auth =>
    let start ← check (difference? packet.length tagLength)
    let text ← check (slice? packet 0 start)
    let tag ← check (slice? packet start packet.length)
    if ← CheckedEdit.lift (auth.verifyRtcp text tag) then
      if trailer.encrypted then
        let payload ← check (slice? packet Rtcp.headerLength trailer.textEnd)
        let nonce := Nonce.counterMode salt ssrc trailer.index.toUInt64
        CheckedEdit.replace Rtcp.headerLength (← CheckedEdit.lift (CounterMode.transform key nonce payload))
    else throw .authenticationFailed

end StreamCrypto

def checkedMaskElements (keystream : Bytes) : List Rtp.Element → Bytes → Option Bytes
  | [], header => some header
  | e :: elements, header => do
    let stream ← slice? keystream e.start e.stop
    let masked := xorBytes (← slice? header e.start e.stop) stream
    checkedMaskElements keystream elements (← overwrite? header e.start masked)

def checkedMaskPacketHeader (keys : SessionKeys) (ids : List UInt8) (ssrc : UInt32) (index : UInt64)
    (headerLength : Nat) : CheckedEdit Unit := do
  let header ← check (slice? (← get) 0 headerLength)
  match (← check (Rtp.checkedElements header)).filter fun e => ids.contains e.id with
  | [] => return
  | elements =>
    let nonce := Nonce.counterMode keys.salt ssrc index
    let keystream ← CheckedEdit.lift (CounterMode.transform keys.cipherKey nonce (zeros header.length))
    CheckedEdit.replace 0 (← check (checkedMaskElements keystream elements header))

namespace Receiver

def checkedPosition (r : Receiver) (ssrc : UInt32) (seq : UInt16) : Option Position :=
  match r.streams[ssrc]? with
  | some stream => stream.highest.checkedEstimate seq
  | none => some ⟨0, seq⟩

def checkedAcceptsRtp (r : Receiver) (ssrc : UInt32) (index : UInt64) : Option Bool :=
  match r.streams[ssrc]? with
  | some stream => stream.window.checkedAccepts index
  | none => some true

def checkedAcceptsRtcp (r : Receiver) (ssrc index : UInt32) : Option Bool :=
  match r.controlWindows[ssrc]? with
  | some window => window.checkedAccepts index.toUInt64
  | none => some true

def checkedRecordRtp (r : Receiver) (replayWindow : UInt64) (ssrc : UInt32) (p : Position) : Option Receiver := do
  let stream := (r.streams[ssrc]?).getD ⟨p, .empty replayWindow⟩
  let highest := if p.index ≥ stream.highest.index then p else stream.highest
  return { r with streams := r.streams.insert ssrc ⟨highest, ← stream.window.checkedInsert p.index⟩ }

def checkedRecordRtcp (r : Receiver) (replayWindow : UInt64) (ssrc index : UInt32) : Option Receiver := do
  let window := (r.controlWindows[ssrc]?).getD (.empty replayWindow)
  return { r with controlWindows := r.controlWindows.insert ssrc (← window.checkedInsert index.toUInt64) }

def checkedOpenRtp (r : Receiver) (settings : Settings) (ssrc : UInt32) (p : Position) (headerLength length : Nat) :
    CheckedEdit Unit := do
  r.crypto.rtp.checkedOpenRtp ssrc p headerLength length
  checkedMaskPacketHeader r.crypto.header settings.encryptedIds ssrc p.index headerLength

def checkedUnprotectRtp (r : Receiver) (settings : Settings) (packet : Bytes) :
    Option (PacketReply Receiver Nat) := do
  let tagLength := r.crypto.suite.rtpTagLength
  if packet.length < Rtp.fixedLength + tagLength then
    return ⟨⟨.error (.invalidPacket (.protectedTooShort packet.length)), r, []⟩, packet⟩
  let length ← difference? packet.length tagLength
  match ← Rtp.checkedHeaderLength? (← slice? packet 0 length) with
  | none => return ⟨⟨.error (.invalidPacket .malformedProtectedHeader), r, []⟩, packet⟩
  | some headerLength =>
    let ssrc ← word32At? packet 8
    let seq ← word16At? packet 2
    let p ← r.checkedPosition ssrc seq
    if ← r.checkedAcceptsRtp ssrc p.index then
      match ← (r.checkedOpenRtp settings ssrc p headerLength length).apply packet with
      | (.error e, bytes) => return ⟨⟨.error e, r, []⟩, bytes⟩
      | (.ok (), bytes) =>
        return ⟨⟨.ok length, ← r.checkedRecordRtp settings.replayWindow ssrc p,
          [.rtpUnprotected ssrc seq p.index]⟩, bytes⟩
    else return ⟨⟨.error (.replayDetected p.index), r, [.rtpReplayed ssrc p.index]⟩, packet⟩

def checkedUnprotectRtcp (r : Receiver) (settings : Settings) (packet : Bytes) :
    Option (PacketReply Receiver Nat) := do
  let tagLength := r.crypto.suite.rtcpTagLength
  if packet.length < Rtcp.headerLength + controlIndexLength + tagLength then
    return ⟨⟨.error (.invalidPacket (.protectedControlTooShort packet.length)), r, []⟩, packet⟩
  let trailer ← r.crypto.rtcp.checkedTrailer packet tagLength
  let ssrc ← word32At? packet 4
  if ← r.checkedAcceptsRtcp ssrc trailer.index then
    match ← (r.crypto.rtcp.checkedOpenRtcp ssrc trailer tagLength).apply packet with
    | (.error e, bytes) => return ⟨⟨.error e, r, refusalNotices r.crypto.suite e⟩, bytes⟩
    | (.ok (), bytes) =>
      return ⟨⟨.ok trailer.textEnd, ← r.checkedRecordRtcp settings.replayWindow ssrc trailer.index,
        [.rtcpUnprotected ssrc trailer.index]⟩, bytes⟩
  else return ⟨⟨.error (.replayDetected trailer.index.toUInt64), r, [.rtcpReplayed ssrc trailer.index]⟩, packet⟩

end Receiver

variable {packet : Bytes}

theorem slice_zero (packet : Bytes) (stop : Nat) : slice packet 0 stop = packet.take stop := rfl

theorem slice_length (packet : Bytes) (start : Nat) : slice packet start packet.length = packet.drop start := by
  rw [slice, List.take_length]

theorem exactly?_of_eq {length : Nat} (h : packet.length = length) : exactly? length packet = some packet := if_pos h

theorem int32?_of_le {n : Int} (hl : -0x10000 ≤ n) (hu : n ≤ 0x10000) : int32? n = some n :=
  if_pos ⟨by omega, by omega⟩

theorem Position.checkedEstimate_eq (highest : Position) (seq : UInt16) :
    highest.checkedEstimate seq = some (highest.estimate seq) := by
  have hlast := highest.seq.toNat_lt
  have hnext := seq.toNat_lt
  unfold checkedEstimate estimate
  dsimp only [Option.bind_eq_bind]
  rw [int32?_of_le (by omega) (by omega), int32?_of_le (by omega) (by omega), Option.bind_some, Option.bind_some]
  by_cases hhalf : (highest.seq.toNat : Int) < 0x8000
  · rw [if_pos hhalf]
    by_cases hback : (seq.toNat : Int) - highest.seq.toNat > 0x8000
    · rw [if_pos hback, if_pos (by omega)]
      rfl
    · rw [if_neg hback, if_neg (by omega), if_neg (by omega)]
      rfl
  · rw [if_neg hhalf]
    by_cases hwrap : (highest.seq.toNat : Int) - 0x8000 > seq.toNat
    · rw [if_pos hwrap, if_neg (by omega), if_pos (by omega)]
      rfl
    · rw [if_neg hwrap, if_neg (by omega), if_neg (by omega)]
      rfl

theorem CheckedEdit.apply_check_bind {α β : Type} (x : Option α) (f : α → CheckedEdit β) (bytes : Bytes) :
    (check x >>= f).apply bytes = x.bind fun a => (f a).apply bytes := by
  rw [apply_bind, apply_check]
  cases x <;> rfl

theorem CheckedEdit.apply_get_bind {α : Type} (f : Bytes → CheckedEdit α) (bytes : Bytes) :
    (get >>= f).apply bytes = (f bytes).apply bytes := by
  rw [apply_bind, apply_get]
  rfl

theorem Edit.apply_get_bind {α : Type} (f : Bytes → Edit α) (bytes : Bytes) :
    (get >>= f).apply bytes = (f bytes).apply bytes := by
  rw [apply_bind, apply_get]

theorem CheckedEdit.apply_lift_replace {r : Except Error Bytes} {start : Nat}
    (h : ∀ text, r = .ok text → start + text.length ≤ packet.length) :
    (lift r >>= replace start).apply packet = some ((Edit.lift r >>= Edit.replace start).apply packet) := by
  rw [apply_bind, apply_lift, Edit.apply_bind, Edit.apply_lift]
  cases r with
  | error e => rfl
  | ok text => simp only [Option.bind_some, apply_replace, overwrite?_of_le (h text rfl), Option.map_some,
      Edit.apply_replace]

theorem CheckedEdit.apply_lift_ite {r : Except Error Bool} {x : CheckedEdit Unit} {y : Edit Unit} {e : Error}
    (h : x.apply packet = some (y.apply packet)) :
    (lift r >>= fun valid => if valid then x else throw e).apply packet =
      some ((Edit.lift r >>= fun valid => if valid then y else throw e).apply packet) := by
  rw [apply_bind, apply_lift, Edit.apply_bind, Edit.apply_lift]
  rcases r with _ | _ | _
  · rfl
  · rfl
  · exact h

theorem Galois.length_of_decrypt {key : Aes.Key} {nonce : Nonce} {aad data received text : Bytes}
    (h : decrypt key nonce aad data received = .ok text) : text.length = data.length := by
  obtain ⟨-, rfl⟩ := decrypt_eq_ok_iff.mp h
  exact length_apply _ _ _

theorem CounterMode.length_of_transform {key text data : Bytes} {iv : Block} (h : transform key iv data = .ok text) :
    text.length = data.length := by
  unfold transform at h
  split at h
  · cases h
    exact length_apply _ _ _
  · cases h

namespace StreamCrypto

variable {suite : Suite} {n : Nat} {c : StreamCrypto} {headerLength length : Nat}

theorem checkedOpenRtp_apply (hc : c.Fits suite n) (ssrc : UInt32) (p : Position) (hh : headerLength ≤ length)
    (hl : length + n = packet.length) :
    (c.checkedOpenRtp ssrc p headerLength length).apply packet =
      some ((c.openRtp ssrc p headerLength length).apply packet) := by
  have hslice : (slice packet headerLength length).length = length - headerLength := length_slice_of_le (by omega)
  have htag : slice? packet length packet.length = some (packet.drop length) := by
    rw [slice?_of_le (by omega) (Nat.le_refl _), slice_length]
  cases hc with
  | galois hs ht =>
    have hexact : exactly? Galois.tagLength (packet.drop length) = some (packet.drop length) := by
      apply exactly?_of_eq
      rw [List.length_drop, Galois.tagLength]
      omega
    have hheader : slice? packet 0 headerLength = some (packet.take headerLength) :=
      slice?_of_le (Nat.zero_le _) (by omega)
    have hrest : slice? packet headerLength packet.length = some (packet.drop headerLength) := by
      rw [slice?_of_le (by omega) (Nat.le_refl _), slice_length]
    have hpayload : slice? (packet.drop headerLength) 0 (length - headerLength) =
        some (slice packet headerLength length) := by
      rw [slice?_of_le (Nat.zero_le _) (by rw [List.length_drop]; omega), slice_zero, slice, List.drop_take]
    simp only [checkedOpenRtp, openRtp, CheckedEdit.apply_check_bind, CheckedEdit.apply_get_bind,
      Edit.apply_get_bind, htag, hexact, hheader, hrest, difference?_of_le hh, hpayload, Option.bind_some]
    apply CheckedEdit.apply_lift_replace
    intro text hd
    have hlen := Galois.length_of_decrypt hd
    omega
  | counterMode hs hk ht =>
    rename_i key salt authKey
    have htext : slice? packet 0 length = some (packet.take length) := slice?_of_le (Nat.zero_le _) (by omega)
    have hpayload : slice? packet headerLength length = some (slice packet headerLength length) :=
      slice?_of_le hh (by omega)
    simp only [checkedOpenRtp, openRtp, CheckedEdit.apply_check_bind, CheckedEdit.apply_get_bind,
      Edit.apply_get_bind, htag, htext, Option.bind_some]
    apply CheckedEdit.apply_lift_ite
    rw [CheckedEdit.apply_check_bind, hpayload]
    apply CheckedEdit.apply_lift_replace
    intro text hd
    have hlen := CounterMode.length_of_transform hd
    omega

theorem checkedTrailer_eq (hc : c.Fits suite n) (hl : controlIndexLength + n ≤ packet.length) :
    c.checkedTrailer packet n = some (c.controlTrailer packet n) := by
  rw [controlIndexLength] at hl
  cases hc with
  | galois hs ht =>
    subst ht
    have hend : packet.length - 4 - 16 = packet.length - 16 - 4 := Nat.sub_right_comm _ _ _
    simp only [checkedTrailer, controlTrailer, controlIndexLength, Galois.tagLength,
      difference?_of_le (show 4 ≤ packet.length by omega), difference?_of_le (show 16 ≤ packet.length - 4 by omega),
      word32At?_eq (show packet.length - 4 + 4 ≤ packet.length by omega), Option.bind_eq_bind, Option.bind_some, hend]
    rfl
  | counterMode hs hk ht =>
    simp only [checkedTrailer, controlTrailer, controlIndexLength,
      difference?_of_le (show n ≤ packet.length by omega), difference?_of_le (show 4 ≤ packet.length - n by omega),
      word32At?_eq (show packet.length - n - 4 + 4 ≤ packet.length by omega), Option.bind_eq_bind, Option.bind_some]
    rfl

theorem checkedOpenRtcp_apply (hc : c.Fits suite n) (ssrc : UInt32) {t : ControlTrailer}
    (ht : Rtcp.headerLength ≤ t.textEnd) (hl : t.textEnd + controlIndexLength + n = packet.length) :
    (c.checkedOpenRtcp ssrc t n).apply packet = some ((c.openRtcp ssrc t).apply packet) := by
  have hslice : (slice packet Rtcp.headerLength t.textEnd).length = t.textEnd - Rtcp.headerLength :=
    length_slice_of_le (by omega)
  have hpayload : slice? packet Rtcp.headerLength t.textEnd = some (slice packet Rtcp.headerLength t.textEnd) :=
    slice?_of_le ht (by omega)
  cases hc with
  | galois hs hn =>
    have hstart : packet.length - controlIndexLength + controlIndexLength = packet.length := by
      rw [controlIndexLength] at hl ⊢
      omega
    have hword : slice? packet (packet.length - controlIndexLength) packet.length =
        some (packet.drop (packet.length - controlIndexLength)) := by
      rw [slice?_of_le (by omega) (Nat.le_refl _), slice_length]
    have htag : slice? packet t.textEnd (packet.length - controlIndexLength) =
        some (slice packet t.textEnd (packet.length - controlIndexLength)) := slice?_of_le (by omega) (by omega)
    have hexact : exactly? Galois.tagLength (slice packet t.textEnd (packet.length - controlIndexLength)) =
        some (slice packet t.textEnd (packet.length - controlIndexLength)) := by
      apply exactly?_of_eq
      rw [length_slice_of_le (by omega), Galois.tagLength]
      omega
    have hheader : slice? packet 0 Rtcp.headerLength = some (packet.take Rtcp.headerLength) :=
      slice?_of_le (Nat.zero_le _) (by omega)
    simp only [checkedOpenRtcp, openRtcp, CheckedEdit.apply_get_bind, Edit.apply_get_bind]
    cases he : t.encrypted with
    | false => rfl
    | true =>
      simp only [if_true, CheckedEdit.apply_check_bind, difference?_of_le (show controlIndexLength ≤ packet.length by
        omega), hstart, htag, hexact, hheader, hword, hpayload, Option.bind_some]
      apply CheckedEdit.apply_lift_replace
      intro text hd
      have hlen := Galois.length_of_decrypt hd
      omega
  | counterMode hs hk hn =>
    have hstart : packet.length - n = t.textEnd + controlIndexLength := by omega
    have htext : slice? packet 0 (t.textEnd + controlIndexLength) =
        some (packet.take (t.textEnd + controlIndexLength)) := slice?_of_le (Nat.zero_le _) (by omega)
    have htag : slice? packet (t.textEnd + controlIndexLength) packet.length =
        some (packet.drop (t.textEnd + controlIndexLength)) := by
      rw [slice?_of_le (by omega) (Nat.le_refl _), slice_length]
    simp only [checkedOpenRtcp, openRtcp, CheckedEdit.apply_check_bind, CheckedEdit.apply_get_bind,
      Edit.apply_get_bind, difference?_of_le (show n ≤ packet.length by omega), hstart, htext, htag, Option.bind_some]
    apply CheckedEdit.apply_lift_ite
    cases he : t.encrypted with
    | false => rfl
    | true =>
      simp only [if_true, CheckedEdit.apply_check_bind, hpayload, Option.bind_some]
      apply CheckedEdit.apply_lift_replace
      intro text hd
      have hlen := CounterMode.length_of_transform hd
      omega

end StreamCrypto

theorem checkedMaskElements_eq {start stop : Nat} {es : List Rtp.Element} {keystream header : Bytes}
    (ho : Rtp.InOrder start stop es) (hs : stop ≤ header.length) (hk : keystream.length = header.length) :
    checkedMaskElements keystream es header = some (maskElements es keystream header) := by
  induction es generalizing header with
  | nil => rfl
  | cons e es ih =>
    obtain ⟨-, he, hl⟩ := ho.within e List.mem_cons_self
    have hmasked : (xorBytes (slice header e.start e.stop) (slice keystream e.start e.stop)).length =
        e.stop - e.start := by
      rw [length_xorBytes, length_slice_of_le (by omega), length_slice_of_le (by omega), Nat.min_self]
    have hlen : (maskElement keystream header e).length = header.length := length_maskElement he (by omega) hk
    have hrest : Rtp.InOrder start stop es :=
      ⟨ho.separate.of_cons, fun d hd => ho.within d (List.mem_cons_of_mem _ hd)⟩
    rw [checkedMaskElements, slice?_of_le he (by omega), slice?_of_le he (by omega)]
    dsimp only [Option.bind_eq_bind, Option.bind_some]
    rw [overwrite?_of_le (by omega)]
    exact ih hrest (by rw [← maskElement, hlen]; exact hs) (by rw [← maskElement, hlen]; exact hk)

theorem checkedMaskPacketHeader_apply {keys : SessionKeys} {h : Rtp.Header} {headerLength : Nat}
    (hr : Rtp.Header.read? (packet.take headerLength) = some h) (hl : headerLength ≤ packet.length)
    (ids : List UInt8) (ssrc : UInt32) (index : UInt64) :
    (checkedMaskPacketHeader keys ids ssrc index headerLength).apply packet =
      some ((maskPacketHeader keys ids ssrc index headerLength).apply packet) := by
  have hheader : slice? packet 0 headerLength = some (packet.take headerLength) := slice?_of_le (Nat.zero_le _) hl
  have hlen : (packet.take headerLength).length = headerLength := List.length_take_of_le hl
  have hinside := Rtp.Header.length_le hr
  simp only [checkedMaskPacketHeader, maskPacketHeader, CheckedEdit.apply_get_bind, Edit.apply_get_bind,
    CheckedEdit.apply_check_bind, hheader, Rtp.checkedElements_eq, Option.bind_some, maskHeader]
  have horder := (Rtp.inOrder_elements hr).filter fun e => ids.contains e.id
  generalize (Rtp.elements (packet.take headerLength)).filter (fun e => ids.contains e.id) = es at horder
  cases es with
  | nil =>
    have hsame : overwrite packet 0 (packet.take headerLength) = packet := by
      rw [overwrite, hlen, List.take_zero, List.nil_append, Nat.zero_add, List.take_append_drop]
    simp only [Edit.apply_bind, Edit.apply_lift, Edit.apply_replace, hsame]
    rfl
  | cons e es =>
    dsimp only
    cases hx : CounterMode.transform keys.cipherKey (Nonce.counterMode keys.salt ssrc index)
        (zeros (packet.take headerLength).length) with
    | error e => rfl
    | ok keystream =>
      have hk : keystream.length = (packet.take headerLength).length := by
        rw [CounterMode.length_of_transform hx, length_zeros]
      have hmasked := length_maskElements horder hinside hk
      have hfits : 0 + (maskElements (e :: es) keystream (packet.take headerLength)).length ≤ packet.length := by
        omega
      simp only [CheckedEdit.apply_bind, CheckedEdit.apply_lift, Option.bind_some, CheckedEdit.apply_check,
        checkedMaskElements_eq horder hinside hk, Option.map_some, CheckedEdit.apply_replace,
        overwrite?_of_le hfits]
      rfl

theorem Rtcp.ssrc?_eq (hl : headerLength ≤ packet.length) :
    ∃ ssrc, ssrc? packet = some ssrc ∧ word32At? packet 4 = some ssrc := by
  match packet, hl with
  | _ :: _ :: _ :: _ :: x₃ :: x₂ :: x₁ :: x₀ :: _, _ => exact ⟨word32 x₃ x₂ x₁ x₀, rfl, rfl⟩

namespace Receiver

variable {r : Receiver}

theorem checkedPosition_eq (r : Receiver) (ssrc : UInt32) (seq : UInt16) :
    r.checkedPosition ssrc seq = some (r.position ssrc seq) := by
  unfold checkedPosition position
  cases r.streams[ssrc]? with
  | none => rfl
  | some stream => exact stream.highest.checkedEstimate_eq seq

theorem checkedAcceptsRtp_eq (r : Receiver) (ssrc : UInt32) (index : UInt64) :
    r.checkedAcceptsRtp ssrc index = some (r.acceptsRtp ssrc index) := by
  unfold checkedAcceptsRtp acceptsRtp
  cases r.streams[ssrc]? with
  | none => rfl
  | some stream => exact stream.window.checkedAccepts_eq index

theorem checkedAcceptsRtcp_eq (r : Receiver) (ssrc index : UInt32) :
    r.checkedAcceptsRtcp ssrc index = some (r.acceptsRtcp ssrc index) := by
  unfold checkedAcceptsRtcp acceptsRtcp
  cases r.controlWindows[ssrc]? with
  | none => rfl
  | some window => exact window.checkedAccepts_eq index.toUInt64

theorem checkedRecordRtp_eq (r : Receiver) (replayWindow : UInt64) (ssrc : UInt32) (p : Position) :
    r.checkedRecordRtp replayWindow ssrc p = some (r.recordRtp replayWindow ssrc p) := by
  simp only [checkedRecordRtp, Replay.Window.checkedInsert_eq]
  rfl

theorem checkedRecordRtcp_eq (r : Receiver) (replayWindow : UInt64) (ssrc index : UInt32) :
    r.checkedRecordRtcp replayWindow ssrc index = some (r.recordRtcp replayWindow ssrc index) := by
  simp only [checkedRecordRtcp, Replay.Window.checkedInsert_eq]
  rfl

theorem checkedOpenRtp_apply (hc : r.crypto.Fits) (settings : Settings) {h : Rtp.Header} (p : Position)
    {body tag : Bytes} (hr : Rtp.Header.read? body = some h) (ht : tag.length = r.crypto.suite.rtpTagLength) :
    (r.checkedOpenRtp settings h.ssrc p h.length body.length).apply (body ++ tag) =
      some ((r.openRtp settings h p body.length).apply (body ++ tag)) := by
  have hl := Rtp.Header.length_le hr
  have hlen := SessionCrypto.length_take_header hr
  have hchecked := StreamCrypto.checkedOpenRtp_apply hc.rtp h.ssrc p hl
    (show body.length + r.crypto.suite.rtpTagLength = (body ++ tag).length by rw [List.length_append, ht])
  have hopen := StreamCrypto.openRtp_apply hc.rtp h.ssrc p (body.take h.length) (body.drop h.length) tag
  rw [hlen, SessionCrypto.length_drop_header hr, ← List.append_assoc, List.take_append_drop] at hopen
  rw [checkedOpenRtp, openRtp, CheckedEdit.apply_bind, Edit.apply_bind, hchecked, hopen, Option.bind_some]
  by_cases hok : r.crypto.rtp.Opens h.length (body.drop h.length).length ∧
      tag = r.crypto.rtp.rtpTag h.ssrc p (body.take h.length) (body.drop h.length)
  · -- The payload is decrypted, and the header still reads the same.
    rw [if_pos hok]
    have hheader : Rtp.Header.read? ((body.take h.length ++
        (r.crypto.rtp.rtpPayload h.ssrc p (body.drop h.length) ++ tag)).take h.length) = some h := by
      rw [List.take_left' hlen]
      exact Rtp.Header.read?_header hr
    apply checkedMaskPacketHeader_apply hheader
    rw [List.length_append, hlen]
    omega
  · rw [if_neg hok]

theorem checkedUnprotectRtp_eq (hc : r.crypto.Fits) (settings : Settings) (packet : Bytes) :
    r.checkedUnprotectRtp settings packet = some (r.unprotectRtp settings packet) := by
  unfold checkedUnprotectRtp unprotectRtp rtpHeader
  by_cases hl : packet.length < Rtp.fixedLength + r.crypto.suite.rtpTagLength
  · rw [if_pos hl, if_pos hl]
    rfl
  have hbody : slice? packet 0 (packet.length - r.crypto.suite.rtpTagLength) =
      some (packet.take (packet.length - r.crypto.suite.rtpTagLength)) := slice?_of_le (Nat.zero_le _) (Nat.sub_le _ _)
  rw [if_neg hl, if_neg hl, difference?_of_le (by omega)]
  dsimp only [Option.bind_eq_bind, Option.bind_some]
  rw [hbody, Option.bind_some, Rtp.checkedHeaderLength?_eq, Rtp.headerLength?]
  cases hr : Rtp.Header.read? (packet.take (packet.length - r.crypto.suite.rtpTagLength)) with
  | none => rfl
  | some h =>
    have hwhole := Rtp.Header.read?_append hr (packet.drop (packet.length - r.crypto.suite.rtpTagLength))
    rw [List.take_append_drop] at hwhole
    obtain ⟨-, -, -, -, hseq, hssrc⟩ := Rtp.Header.fields_of_read? hwhole
    have hopen := checkedOpenRtp_apply hc settings (r.position h.ssrc h.seq) hr
      (show (packet.drop (packet.length - r.crypto.suite.rtpTagLength)).length = _ by rw [List.length_drop]; omega)
    rw [List.take_append_drop, List.length_take_of_le (Nat.sub_le _ _)] at hopen
    simp only [Option.map_some, Option.bind_some, hseq, hssrc, checkedPosition_eq, checkedAcceptsRtp_eq, hopen,
      checkedRecordRtp_eq]
    split
    · rcases (r.openRtp settings h (r.position h.ssrc h.seq)
        (packet.length - r.crypto.suite.rtpTagLength)).apply packet with ⟨_ | _, bytes⟩
      · rfl
      · rfl
    · rfl

theorem checkedUnprotectRtcp_eq (hc : r.crypto.Fits) (settings : Settings) (packet : Bytes) :
    r.checkedUnprotectRtcp settings packet = some (r.unprotectRtcp settings packet) := by
  unfold checkedUnprotectRtcp unprotectRtcp rtcpStream
  by_cases hl : packet.length < Rtcp.headerLength + controlIndexLength + r.crypto.suite.rtcpTagLength
  · rw [if_pos hl, if_pos hl]
    rfl
  obtain ⟨ssrc, hssrc, hword⟩ := Rtcp.ssrc?_eq (show Rtcp.headerLength ≤ packet.length by omega)
  have htrailer := StreamCrypto.checkedTrailer_eq hc.rtcp
    (show controlIndexLength + r.crypto.suite.rtcpTagLength ≤ packet.length by omega)
  have hend : (r.crypto.rtcp.controlTrailer packet r.crypto.suite.rtcpTagLength).textEnd =
      packet.length - r.crypto.suite.rtcpTagLength - controlIndexLength := rfl
  have hopen := StreamCrypto.checkedOpenRtcp_apply hc.rtcp ssrc
    (show Rtcp.headerLength ≤ (r.crypto.rtcp.controlTrailer packet r.crypto.suite.rtcpTagLength).textEnd by omega)
    (show _ = packet.length by omega)
  simp only [if_neg hl, hssrc, htrailer, hword, Option.bind_eq_bind, Option.bind_some, checkedAcceptsRtcp_eq, hopen,
    checkedRecordRtcp_eq]
  split
  · rcases (r.crypto.rtcp.openRtcp ssrc (r.crypto.rtcp.controlTrailer packet
      r.crypto.suite.rtcpTagLength)).apply packet with ⟨_ | _, bytes⟩
    · rfl
    · rfl
  · rfl

end Receiver

end SecureRtp
