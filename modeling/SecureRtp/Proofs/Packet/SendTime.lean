import SecureRtp.Packet.SendTime
import SecureRtp.Proofs.Packet.Checked

namespace SecureRtp

open Rtp

namespace Rtp

def timeBytes (ms : UInt64) : Bytes := beBytes 3 (sendTimeCode ms).toNat

theorem length_timeBytes (ms : UInt64) : (timeBytes ms).length = 3 := length_beBytes _ _

def sendTimeElement? (id : Option UInt8) (packet : Bytes) : Option Element :=
  id.bind fun id => ((elements packet).find? fun e => e.id = id).filter fun e => e.stop = e.start + 3

def withSendTime (id : Option UInt8) (ms : UInt64) (packet : Bytes) : Bytes :=
  match sendTimeElement? id packet with
  | some e => overwrite packet e.start (timeBytes ms)
  | none => packet

variable {id : Option UInt8} {packet a : Bytes} {e : Element} {h : Header}

theorem sendTimeElement?_congr (h : elements a = elements packet) (id : Option UInt8) :
    sendTimeElement? id a = sendTimeElement? id packet := by
  unfold sendTimeElement?
  rw [h]

theorem mem_of_sendTimeElement? (he : sendTimeElement? id packet = some e) :
    e ∈ elements packet ∧ id = some e.id ∧ e.stop = e.start + 3 := by
  obtain ⟨i, rfl, hfind⟩ := Option.bind_eq_some_iff.mp he
  obtain ⟨hfound, hlength⟩ := Option.filter_eq_some_iff.mp hfind
  have hsame : e.id = i := by simpa using List.find?_some hfound
  exact ⟨List.mem_of_find?_eq_some hfound, congrArg some hsame.symm, of_decide_eq_true hlength⟩

theorem stop_le_of_mem (hm : e ∈ elements packet) : e.stop ≤ packet.length := by
  cases hr : Header.read? packet with
  | none =>
    rw [elements, hr] at hm
    cases hm
  | some h => exact Nat.le_trans ((inOrder_elements hr).within e hm).2.2 (Header.length_le hr)

section

variable (ms : UInt64)

theorem sendTimeElement?_le (he : sendTimeElement? id a = some e) : e.start + (timeBytes ms).length ≤ a.length := by
  obtain ⟨hm, -, hstop⟩ := mem_of_sendTimeElement? he
  rw [length_timeBytes, ← hstop]
  exact stop_le_of_mem hm

variable (id)

theorem getElem?_withSendTime (a : Bytes) (i : Nat) :
    (withSendTime id ms a)[i]? =
      match sendTimeElement? id a with
      | some e => if e.Contains i then (timeBytes ms)[i - e.start]? else a[i]?
      | none => a[i]? := by
  rw [withSendTime]
  cases he : sendTimeElement? id a with
  | none => rfl
  | some e =>
    dsimp only
    rw [getElem?_overwrite (sendTimeElement?_le ms he), length_timeBytes, ← (mem_of_sendTimeElement? he).2.2]
    rfl

theorem length_withSendTime (a : Bytes) : (withSendTime id ms a).length = a.length := by
  rw [withSendTime]
  cases he : sendTimeElement? id a with
  | none => rfl
  | some e => exact length_overwrite (sendTimeElement?_le ms he)

theorem withSendTime_eq_self_iff (a : Bytes) :
    withSendTime id ms a = a ↔ ∀ e, sendTimeElement? id a = some e → slice a e.start e.stop = timeBytes ms := by
  rw [withSendTime]
  cases he : sendTimeElement? id a with
  | none => exact ⟨fun _ => nofun, fun _ => rfl⟩
  | some e =>
    dsimp only
    rw [overwrite_eq_self_iff (sendTimeElement?_le ms he), length_timeBytes, ← (mem_of_sendTimeElement? he).2.2]
    exact ⟨fun h d hd => Option.some.inj hd ▸ h, fun h => h e rfl⟩

theorem sameOutside_withSendTime (a : Bytes) : SameOutside (elements a) 0 0 a (withSendTime id ms a) := by
  constructor
  · exact (length_withSendTime id ms a).symm
  · intro i _ hi
    rw [getElem?_withSendTime]
    cases he : sendTimeElement? id a with
    | none => rfl
    | some e =>
      have hout := hi e (mem_of_sendTimeElement? he).1
      rw [Nat.zero_add] at hout
      exact (if_neg hout).symm

end

section

variable (id) (hr : Header.read? a = some h) (ms : UInt64)

include hr

theorem withSendTime_append (b : Bytes) : withSendTime id ms (a ++ b) = withSendTime id ms a ++ b := by
  rw [withSendTime, withSendTime, sendTimeElement?_congr (elements_append hr b)]
  cases he : sendTimeElement? id a with
  | none => rfl
  | some e => exact overwrite_append_left (sendTimeElement?_le ms he) b

theorem read?_withSendTime : Header.read? (withSendTime id ms a) = some h :=
  Header.read?_of_sameOutside hr (sameOutside_withSendTime id ms a)

theorem elements_withSendTime : elements (withSendTime id ms a) = elements a :=
  elements_of_sameOutside hr (sameOutside_withSendTime id ms a)

end

end Rtp

namespace TimeParams

theorem stamp_eq (p : TimeParams) (ms : UInt64) (packet : Bytes) :
    p.stamp ms packet = withSendTime p.extensionId ms packet := by
  unfold stamp withSendTime sendTimeElement? findElement?
  cases p.extensionId with
  | none => rfl
  | some id =>
    simp only [Option.bind_some]
    cases (elements packet).find? (fun e => e.id = id) with
    | none => rfl
    | some e =>
      by_cases he : e.stop = e.start + 3
      · have hl : e.stop - e.start = 3 := by omega
        simp only [Option.filter, decide_eq_true he, if_true, if_pos hl]
        rfl
      · have hl : ¬e.stop - e.start = 3 := by omega
        simp only [Option.filter, decide_eq_false he, Bool.false_eq_true, if_false, if_neg hl]

def sum? (a b : Nat) : Option Nat := if a + b < UInt64.size then some (a + b) else none

def checkedTag (p : TimeParams) (packet : Bytes) : Option (Except Error Bytes) :=
  if p.tagLength = 0 then some (.error (.invalidPacket (.noRoomForTag p.tagLength packet.length)))
  else do
    if packet.length < (← sum? fixedLength p.tagLength) then
      return .error (.invalidPacket (.noRoomForTag p.tagLength packet.length))
    match p.index with
    | none => return .error (.invalidPacket .missingIndex)
    | some index =>
      let text ← slice? packet 0 (← difference? packet.length p.tagLength)
      let digest := Hmac.digest p.authKey (text ++ beBytes 4 (index >>> 16).toUInt32.toNat)
      if p.tagLength > digest.length then return .error (.invalidPacket (.tagLongerThanDigest p.tagLength))
      return .ok (← slice? digest 0 p.tagLength)

theorem checkedTag_eq (p : TimeParams) (packet : Bytes) :
    p.checkedTag packet = if fixedLength + p.tagLength < UInt64.size then some (p.tag packet) else none := by
  have hslice (bytes : Bytes) {n : Nat} (hn : n ≤ bytes.length) : slice? bytes 0 n = some (bytes.take n) :=
    slice?_of_le (Nat.zero_le n) hn
  rw [checkedTag]
  by_cases hzero : p.tagLength = 0
  · have htag : p.tag packet = .error (.invalidPacket (.noRoomForTag p.tagLength packet.length)) := if_pos (.inl hzero)
    have hsum : fixedLength + p.tagLength < UInt64.size := by
      rw [hzero]
      decide
    rw [if_pos hzero, if_pos hsum, htag]
  · rw [if_neg hzero, sum?]
    by_cases hsum : fixedLength + p.tagLength < UInt64.size
    · rw [if_pos hsum, if_pos hsum, Option.bind_eq_bind, Option.bind_some, TimeParams.tag]
      by_cases hroom : packet.length < fixedLength + p.tagLength
      · rw [if_pos hroom, if_pos (.inr hroom)]
        rfl
      · rw [if_neg hroom, if_neg (not_or.mpr ⟨hzero, hroom⟩)]
        cases p.index with
        | none => rfl
        | some index =>
          have hle : p.tagLength ≤ packet.length := by omega
          dsimp only
          rw [difference?_of_le hle]
          simp only [Option.bind_eq_bind, Option.bind_some]
          rw [hslice packet (Nat.sub_le _ _), Option.bind_some]
          generalize Hmac.digest _ _ = digest
          by_cases hlong : p.tagLength > digest.length
          · rw [if_pos hlong, if_pos hlong]
            rfl
          · rw [if_neg hlong, if_neg hlong, hslice digest (Nat.le_of_not_lt hlong)]
            rfl
    · rw [if_neg hsum, if_neg hsum]
      rfl

def refusal? (p : TimeParams) (length : Nat) : Option Error :=
  if p.authKey = [] then none
  else if p.tagLength = 0 ∨ length < fixedLength + p.tagLength then
    some (.invalidPacket (.noRoomForTag p.tagLength length))
  else if p.index = none then some (.invalidPacket .missingIndex)
  else if 20 < p.tagLength then some (.invalidPacket (.tagLongerThanDigest p.tagLength))
  else none

def Writes (p : TimeParams) (packet : Bytes) (i : Nat) : Prop :=
  (∃ e, sendTimeElement? p.extensionId packet = some e ∧ e.Contains i) ∨
    p.authKey ≠ [] ∧ packet.length - p.tagLength ≤ i

structure Effect (p : TimeParams) (ms : UInt64) (packet : Bytes) : Prop where
  outcome : (p.apply ms packet).1 = (p.refusal? packet.length).elim (.ok ()) .error
  length : (p.apply ms packet).2.length = packet.length
  done : p.refusal? packet.length = none → ∀ i, (p.apply ms packet).2[i]? ≠ packet[i]? → p.Writes packet i
  refused : p.refusal? packet.length ≠ none → (p.apply ms packet).2 = withSendTime p.extensionId ms packet
  untouched : p.refusal? packet.length ≠ none → ((p.apply ms packet).2 = packet ↔
    ∀ e, sendTimeElement? p.extensionId packet = some e → slice packet e.start e.stop = timeBytes ms)

variable (p : TimeParams) {packet : Bytes}

theorem apply_cases (ms : UInt64) (packet : Bytes) :
    (p.refusal? packet.length = none ∧ p.apply ms packet = (.ok (), withSendTime p.extensionId ms packet)) ∨
      (∃ tag, p.refusal? packet.length = none ∧ p.authKey ≠ [] ∧
        packet.length - p.tagLength + tag.length = packet.length ∧
        p.apply ms packet =
          (.ok (), overwrite (withSendTime p.extensionId ms packet) (packet.length - p.tagLength) tag)) ∨
      ∃ e, p.refusal? packet.length = some e ∧ p.apply ms packet = (.error e, withSendTime p.extensionId ms packet) := by
  rw [apply, stamp_eq, TimeParams.tag, length_withSendTime]
  generalize withSendTime p.extensionId ms packet = stamped
  by_cases hk : p.authKey = []
  · refine .inl ⟨if_pos hk, ?_⟩
    rw [hk]
    rfl
  · have hkey : ¬p.authKey.isEmpty = true := by simpa using hk
    rw [refusal?, if_neg hk, if_neg hkey]
    by_cases hroom : p.tagLength = 0 ∨ packet.length < fixedLength + p.tagLength
    · rw [if_pos hroom, if_pos hroom]
      exact .inr (.inr ⟨_, rfl, rfl⟩)
    · rw [if_neg hroom, if_neg hroom]
      cases p.index with
      | none => exact .inr (.inr ⟨_, rfl, rfl⟩)
      | some index =>
        dsimp only
        rw [if_neg (Option.some_ne_none index), Hmac.length_digest]
        by_cases hlong : 20 < p.tagLength
        · rw [if_pos hlong, if_pos hlong]
          exact .inr (.inr ⟨_, rfl, rfl⟩)
        · rw [if_neg hlong, if_neg hlong]
          refine .inr (.inl ⟨_, rfl, hk, ?_, rfl⟩)
          rw [List.length_take, Hmac.length_digest]
          omega

theorem writes_of_withSendTime_ne {ms : UInt64} {i : Nat}
    (hi : (withSendTime p.extensionId ms packet)[i]? ≠ packet[i]?) : p.Writes packet i := by
  rw [getElem?_withSendTime] at hi
  cases he : sendTimeElement? p.extensionId packet with
  | none =>
    rw [he] at hi
    exact absurd rfl hi
  | some e =>
    rw [he] at hi
    by_cases hin : e.Contains i
    · exact .inl ⟨e, he, hin⟩
    · exact absurd (if_neg hin) hi

/-- The last edits do not change anything but the time and the tag. When they are refused the time has been written
all the same. -/
theorem effect_of_apply (ms : UInt64) (packet : Bytes) : p.Effect ms packet := by
  have hlength := length_withSendTime p.extensionId ms packet
  obtain ⟨hnone, happly⟩ | ⟨tag, hnone, hk, hfits, happly⟩ | ⟨e, hsome, happly⟩ := p.apply_cases ms packet
  · exact {
      outcome := by rw [happly, hnone]; rfl
      length := by rw [happly, hlength]
      done := fun _ i hi => p.writes_of_withSendTime_ne (by rwa [happly] at hi)
      refused := fun h => absurd hnone h
      untouched := fun h => absurd hnone h }
  · have hle : packet.length - p.tagLength + tag.length ≤ (withSendTime p.extensionId ms packet).length :=
      Nat.le_of_eq (hfits.trans hlength.symm)
    have hdone (i : Nat) (hi : (p.apply ms packet).2[i]? ≠ packet[i]?) : p.Writes packet i := by
      rw [happly, getElem?_overwrite hle] at hi
      by_cases hin : packet.length - p.tagLength ≤ i
      · exact .inr ⟨hk, hin⟩
      · rw [if_neg (fun h => hin h.1)] at hi
        exact p.writes_of_withSendTime_ne hi
    exact {
      outcome := by rw [happly, hnone]; rfl
      length := by rw [happly, length_overwrite hle, hlength]
      done := fun _ => hdone
      refused := fun h => absurd hnone h
      untouched := fun h => absurd hnone h }
  · exact {
      outcome := by rw [happly, hsome]; rfl
      length := by rw [happly, hlength]
      done := fun h => nomatch hsome.symm.trans h
      refused := fun _ => by rw [happly]
      untouched := fun _ => by rw [happly]; exact withSendTime_eq_self_iff p.extensionId ms packet }

theorem refused_packet_is_changed :
    ∃ packet : Bytes, let p : TimeParams := ⟨some 5, zeros 20, 10, none⟩
      (p.apply 2500 packet).1 = .error (.invalidPacket .missingIndex) ∧ (p.apply 2500 packet).2 ≠ packet :=
  ⟨[0x90, 0x60, 0, 1, 0x12, 0x34, 0x56, 0x78, 0, 0, 0, 2, 0xbe, 0xde, 0, 1, 0x52, 0, 0, 0, 0x64, 0x61, 0x74, 0x61] ++
    zeros 10, rfl, by decide⟩

end TimeParams

end SecureRtp
