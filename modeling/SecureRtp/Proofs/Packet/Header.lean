import SecureRtp.Packet.Header

namespace SecureRtp.Rtp

variable {a b packet : Bytes} {h : Header} {n start : Nat}

theorem extensionWords?_take (hn : start + 4 ≤ n) :
    extensionWords? (packet.take n) start = extensionWords? packet start := by
  obtain ⟨m, rfl⟩ : ∃ m, n = start + (m + 4) := ⟨n - start - 4, by omega⟩
  unfold extensionWords?
  rw [List.drop_take, Nat.add_sub_cancel_left]
  rcases packet.drop start with _ | ⟨_, _ | ⟨_, _ | ⟨_, _ | ⟨_, _⟩⟩⟩⟩ <;> rfl

namespace Header

def fixedEnd (h : Header) : Nat := extensionStart h.csrcCount + if h.extended then 4 else 0

theorem announcedLength?_of_read? (hr : read? packet = some h) :
    announcedLength? packet h.csrcCount h.extended = some h.length ∧ h.length ≤ packet.length := by
  unfold read? at hr
  split at hr
  · dsimp only at hr
    split at hr
    · split at hr
      · split at hr
        · cases hr
          exact ⟨‹_›, ‹_›⟩
        · cases hr
      · cases hr
    · cases hr
  · cases hr

theorem csrcCount_lt (hr : read? packet = some h) : h.csrcCount < 16 := by
  have hand (b : UInt8) : (b &&& 0x0f).toNat < 16 := by
    rw [UInt8.toNat_and]
    exact Nat.lt_of_le_of_lt Nat.and_le_right (by decide)
  unfold read? at hr
  split at hr
  · dsimp only at hr
    split at hr
    · split at hr
      · split at hr
        · cases hr
          exact hand _
        · cases hr
      · cases hr
    · cases hr
  · cases hr

theorem length_lt (hr : read? packet = some h) : h.length < 0x100000 := by
  have hcount := csrcCount_lt hr
  have hl := (announcedLength?_of_read? hr).1
  simp only [announcedLength?, extensionStart, fixedLength] at hl
  split at hl
  · obtain ⟨words, hw, hlen⟩ := Option.map_eq_some_iff.mp hl
    have hwords : words < 0x10000 := by
      unfold extensionWords? at hw
      split at hw
      · cases hw
        exact UInt16.toNat_lt _
      · cases hw
    omega
  · have hlen := Option.some.inj hl
    omega

theorem length_le (hr : read? packet = some h) : h.length ≤ packet.length := (announcedLength?_of_read? hr).2

theorem fixedEnd_le_length (hr : read? packet = some h) : h.fixedEnd ≤ h.length := by
  have hl := (announcedLength?_of_read? hr).1
  simp only [announcedLength?, fixedEnd] at hl ⊢
  cases he : h.extended with
  | false => simp_all
  | true =>
    simp only [he, if_true, Option.map_eq_some_iff] at hl ⊢
    obtain ⟨words, -, hw⟩ := hl
    omega

theorem fixedLength_le_fixedEnd (h : Header) : fixedLength ≤ h.fixedEnd := by
  simp only [fixedEnd, extensionStart]
  omega

theorem announcedLength?_of_take (ht : a.take n = b.take n) (hn : h.fixedEnd ≤ n) :
    announcedLength? a h.csrcCount h.extended = announcedLength? b h.csrcCount h.extended := by
  unfold announcedLength?
  cases he : h.extended with
  | false => rfl
  | true =>
    have hs : extensionStart h.csrcCount + 4 ≤ n := by simpa only [fixedEnd, he, if_true] using hn
    dsimp only
    have ha : extensionWords? (a.take n) (extensionStart h.csrcCount) =
        extensionWords? a (extensionStart h.csrcCount) := extensionWords?_take hs
    rw [← ha, ht, extensionWords?_take hs]

theorem read?_of_take (hr : read? a = some h) (hn : h.fixedEnd ≤ n) (ht : a.take n = b.take n)
    (hl : h.length ≤ b.length) : read? b = some h := by
  have ha := announcedLength?_of_read? hr
  rw [announcedLength?_of_take ht hn] at ha
  have h12 := fixedLength_le_fixedEnd h
  obtain ⟨m, rfl⟩ : ∃ m, n = m + 12 := ⟨n - 12, by simp only [fixedLength] at h12; omega⟩
  unfold read? at hr
  split at hr
  · rename_i b0 b1 s1 s0 t3 t2 t1 t0 x3 x2 x1 x0 rest
    have hb : b = b0 :: b1 :: s1 :: s0 :: t3 :: t2 :: t1 :: t0 :: x3 :: x2 :: x1 :: x0 ::
        (rest.take m ++ b.drop (m + 12)) := by
      apply (List.take_append_drop (m + 12) b).symm.trans
      rw [← ht]
      rfl
    generalize rest.take m ++ b.drop (m + 12) = tail at hb
    subst hb
    dsimp only at hr
    split at hr
    · rename_i hv
      split at hr
      · split at hr
        · cases hr
          simp only [read?, hv, if_true, ha.1, if_pos hl]
        · cases hr
      · cases hr
    · cases hr
  · cases hr

theorem read?_append (hr : read? a = some h) (b : Bytes) : read? (a ++ b) = some h := by
  have hl := length_le hr
  apply read?_of_take hr (fixedEnd_le_length hr)
  · rw [List.take_append_of_le_length hl]
  · rw [List.length_append]
    omega

theorem ssrc?_of_read? (hr : read? packet = some h) : ssrc? packet = some h.ssrc := by
  unfold read? at hr
  split at hr
  · dsimp only at hr
    split at hr
    · split at hr
      · split at hr
        · cases hr
          rfl
        · cases hr
      · cases hr
    · cases hr
  · cases hr

theorem read?_take (hr : read? packet = some h) (hn : h.length ≤ n) : read? (packet.take n) = some h := by
  have hl := length_le hr
  apply read?_of_take hr (fixedEnd_le_length hr)
  · rw [List.take_take, Nat.min_eq_left hn]
  · rw [List.length_take]
    omega

theorem read?_header (hr : read? packet = some h) : read? (packet.take h.length) = some h :=
  read?_take hr (Nat.le_refl h.length)

end Header

end SecureRtp.Rtp
