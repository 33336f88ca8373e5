import SecureRtp.Session.Receive
import SecureRtp.Proofs.Replay.Window
import SecureRtp.Proofs.Session.Position

namespace SecureRtp

namespace Replay.Window

variable {requested : UInt64} {w : Window} {window : Option Window} {seen : List UInt64} {i : UInt64}

def Recalls (requested : UInt64) (window : Option Window) (seen : List UInt64) : Prop :=
  match window with
  | none => seen = []
  | some w => w.size = clamp requested ∧ w.Remembers seen

theorem Recalls.accepts_iff (hr : Recalls requested (some w) seen) (i : UInt64) :
    w.accepts i = true ↔ i ∉ seen ∧ ∀ j ∈ seen, j.toNat < i.toNat + (clamp requested).toNat := by
  rw [hr.2.accepts_iff, hr.1]

theorem Recalls.insert (hr : Recalls requested window seen) (i : UInt64) :
    Recalls requested (some ((window.getD (empty requested)).insert i)) (i :: seen) := by
  cases window with
  | none =>
    rw [show seen = [] from hr]
    exact ⟨size_insert _ _, (remembers_empty requested).insert i⟩
  | some w => exact ⟨(size_insert w i).trans hr.1, hr.2.insert i⟩

theorem Recalls.of_refused (hr : Recalls requested (some w) seen) (hi : w.accepts i = false) :
    Recalls requested (some w) (i :: seen) := ⟨hr.1, hr.2.of_refused hi⟩

theorem highest_insert_of_none (hw : w.highest = none) (i : UInt64) : (w.insert i).highest = some i := by
  simp [insert, isOld, advance, mark, hw]

theorem highest_insert {h : UInt64} (hw : w.highest = some h) (i : UInt64) :
    (w.insert i).highest = some (if h.toNat < i.toNat then i else h) := by
  cases hold : w.isOld i with
  | true =>
    have hi := (isOld_iff hw i).mp hold
    rw [insert, if_pos hold, hw, if_neg (by omega)]
  | false =>
    rw [insert, if_neg (by simp [hold])]
    exact highest_advance hw i

end Replay.Window

def indices (ssrc : UInt32) (ids : List (UInt32 × UInt64)) : List UInt64 :=
  ids.filterMap fun id => if id.1 = ssrc then some id.2 else none

variable {ssrc other : UInt32} {i : UInt64} {ids : List (UInt32 × UInt64)}

theorem mem_indices : i ∈ indices ssrc ids ↔ (ssrc, i) ∈ ids := by
  simp only [indices, List.mem_filterMap]
  constructor
  · rintro ⟨⟨stream, index⟩, hid, hi⟩
    by_cases hs : stream = ssrc
    · rw [if_pos hs] at hi
      cases hs
      cases hi
      exact hid
    · rw [if_neg hs] at hi
      cases hi
  · intro hid
    exact ⟨(ssrc, i), hid, if_pos rfl⟩

@[simp] theorem indices_cons_self (ssrc : UInt32) (i : UInt64) (ids : List (UInt32 × UInt64)) :
    indices ssrc ((ssrc, i) :: ids) = i :: indices ssrc ids := by
  simp [indices]

theorem indices_cons_of_ne (h : other ≠ ssrc) (i : UInt64) (ids : List (UInt32 × UInt64)) :
    indices ssrc ((other, i) :: ids) = indices ssrc ids := by
  simp [indices, h]

namespace Receiver

open Replay (Window)
open Replay.Window (Recalls clamp)

variable {r : Receiver} {replayWindow : UInt64} {rtp rtcp : List (UInt32 × UInt64)} {p : Position}

/-- The receiver has received the given media and control packets, each one named by stream and index. -/
structure Remembers (r : Receiver) (replayWindow : UInt64) (rtp rtcp : List (UInt32 × UInt64)) : Prop where
  streams : ∀ ssrc, Recalls replayWindow (r.streams[ssrc]?.map (·.window)) (indices ssrc rtp)
  highest : ∀ (ssrc : UInt32) (stream : ReceiveStream), r.streams[ssrc]? = some stream →
    stream.window.highest = some stream.highest.index
  controls : ∀ ssrc, Recalls replayWindow r.controlWindows[ssrc]? (indices ssrc rtcp)

theorem remembers_nil (crypto : SessionCrypto) (replayWindow : UInt64) :
    (Receiver.mk crypto {} {}).Remembers replayWindow [] [] where
  streams ssrc := by simp [Recalls, indices]
  highest ssrc stream h := by simp at h
  controls ssrc := by simp [Recalls, indices]

theorem Remembers.acceptsRtp_iff (hr : r.Remembers replayWindow rtp rtcp) (ssrc : UInt32) (i : UInt64) :
    r.acceptsRtp ssrc i = true ↔
      (ssrc, i) ∉ rtp ∧ ∀ j, (ssrc, j) ∈ rtp → j.toNat < i.toNat + (clamp replayWindow).toNat := by
  have hs := hr.streams ssrc
  simp only [← mem_indices, acceptsRtp]
  cases hw : r.streams[ssrc]? with
  | none =>
    rw [hw] at hs
    rw [show indices ssrc rtp = [] from hs]
    simp
  | some stream =>
    rw [hw] at hs
    exact hs.accepts_iff i

theorem Remembers.acceptsRtcp_iff (hr : r.Remembers replayWindow rtp rtcp) (ssrc i : UInt32) :
    r.acceptsRtcp ssrc i = true ↔
      (ssrc, i.toUInt64) ∉ rtcp ∧ ∀ j, (ssrc, j) ∈ rtcp → j.toNat < i.toNat + (clamp replayWindow).toNat := by
  have hs := hr.controls ssrc
  simp only [← mem_indices, acceptsRtcp]
  cases hw : r.controlWindows[ssrc]? with
  | none =>
    rw [hw] at hs
    rw [show indices ssrc rtcp = [] from hs]
    simp
  | some window =>
    rw [hw] at hs
    rw [← UInt32.toNat_toUInt64 i]
    exact hs.accepts_iff i.toUInt64

namespace ReceiveStream

theorem highest_record_of_none {stream : SecureRtp.ReceiveStream} (hw : stream.window.highest = none)
    (hp : stream.highest = p) : (record stream p).window.highest = some (record stream p).highest.index := by
  subst hp
  rw [record, Window.highest_insert_of_none hw, if_pos (UInt64.le_refl _)]

theorem highest_record {stream : SecureRtp.ReceiveStream}
    (hw : stream.window.highest = some stream.highest.index) (p : Position) :
    (record stream p).window.highest = some (record stream p).highest.index := by
  simp only [record, Window.highest_insert hw, ge_iff_le, UInt64.le_iff_toNat_le]
  by_cases hlt : stream.highest.index.toNat < p.index.toNat
  · rw [if_pos hlt, if_pos (by omega)]
  · rw [if_neg hlt]
    split
    · exact congrArg some (UInt64.toNat_inj.mp (by omega))
    · rfl

end ReceiveStream

theorem Remembers.recordRtp (hr : r.Remembers replayWindow rtp rtcp) (ssrc : UInt32) (p : Position) :
    (r.recordRtp replayWindow ssrc p).Remembers replayWindow ((ssrc, p.index) :: rtp) rtcp where
  streams other := by
    have hs := hr.streams other
    simp only [Receiver.recordRtp, Std.TreeMap.getElem?_insert, Std.LawfulEqCmp.compare_eq_iff_eq]
    by_cases h : ssrc = other
    · subst h
      have hi := hs.insert p.index
      rw [if_pos rfl, indices_cons_self]
      cases hw : r.streams[ssrc]? with
      | none => rwa [hw] at hi
      | some stream => rwa [hw] at hi
    · rw [if_neg h, indices_cons_of_ne h]
      exact hs
  highest other stream hs := by
    simp only [Receiver.recordRtp, Std.TreeMap.getElem?_insert, Std.LawfulEqCmp.compare_eq_iff_eq] at hs
    by_cases h : ssrc = other
    · rw [if_pos h] at hs
      cases hs
      cases hw : r.streams[ssrc]? with
      | none => exact ReceiveStream.highest_record_of_none rfl rfl
      | some stream => exact ReceiveStream.highest_record (hr.highest ssrc stream hw) p
    · rw [if_neg h] at hs
      exact hr.highest other stream hs
  controls := hr.controls

theorem Remembers.recordRtcp (hr : r.Remembers replayWindow rtp rtcp) (ssrc index : UInt32) :
    (r.recordRtcp replayWindow ssrc index).Remembers replayWindow rtp ((ssrc, index.toUInt64) :: rtcp) where
  streams := hr.streams
  highest := hr.highest
  controls other := by
    have hs := hr.controls other
    simp only [Receiver.recordRtcp, Std.TreeMap.getElem?_insert, Std.LawfulEqCmp.compare_eq_iff_eq]
    by_cases h : ssrc = other
    · subst h
      rw [if_pos rfl, indices_cons_self]
      exact hs.insert index.toUInt64
    · rw [if_neg h, indices_cons_of_ne h]
      exact hs

theorem Remembers.of_refusedRtp (hr : r.Remembers replayWindow rtp rtcp) (hi : r.acceptsRtp ssrc i = false) :
    r.Remembers replayWindow ((ssrc, i) :: rtp) rtcp where
  streams other := by
    have hs := hr.streams other
    by_cases h : ssrc = other
    · subst h
      rw [indices_cons_self]
      -- What was refused may count as received, since it would be refused again.
      cases hw : r.streams[ssrc]? with
      | none => simp [acceptsRtp, hw] at hi
      | some stream =>
        rw [hw] at hs
        exact hs.of_refused (by simpa only [acceptsRtp, hw] using hi)
    · rw [indices_cons_of_ne h]
      exact hs
  highest := hr.highest
  controls := hr.controls

theorem Remembers.of_refusedRtcp {index : UInt32} (hr : r.Remembers replayWindow rtp rtcp)
    (hi : r.acceptsRtcp ssrc index = false) :
    r.Remembers replayWindow rtp ((ssrc, index.toUInt64) :: rtcp) where
  streams := hr.streams
  highest := hr.highest
  controls other := by
    have hs := hr.controls other
    by_cases h : ssrc = other
    · subst h
      rw [indices_cons_self]
      cases hw : r.controlWindows[ssrc]? with
      | none => simp [acceptsRtcp, hw] at hi
      | some window =>
        rw [hw] at hs
        exact hs.of_refused (by simpa only [acceptsRtcp, hw] using hi)
    · rw [indices_cons_of_ne h]
      exact hs

theorem Remembers.highest_mem {stream : ReceiveStream} (hr : r.Remembers replayWindow rtp rtcp)
    (hs : r.streams[ssrc]? = some stream) :
    (ssrc, stream.highest.index) ∈ rtp ∧ ∀ j, (ssrc, j) ∈ rtp → j.toNat ≤ stream.highest.index.toNat := by
  have hw := hr.highest ssrc stream hs
  have hm := hr.streams ssrc
  rw [hs] at hm
  simp only [← mem_indices]
  exact ⟨hm.2.highest_mem _ hw, hm.2.le_highest _ hw⟩

theorem Remembers.not_mem_of_none (hr : r.Remembers replayWindow rtp rtcp) (hs : r.streams[ssrc]? = none)
    (i : UInt64) : (ssrc, i) ∉ rtp := by
  have hm := hr.streams ssrc
  rw [hs] at hm
  rw [← mem_indices, show indices ssrc rtp = [] from hm]
  exact List.not_mem_nil

end Receiver

end SecureRtp
