import SecureRtp.Proofs.Session.Run

namespace SecureRtp.Session

def acceptedRtp? (s : Session) : Call → Option (UInt32 × UInt64)
  | .unprotectRtp packet =>
    match (s.unprotectRtp packet).outcome with
    | .ok _ => s.rtpId? packet
    | .error _ => none
  | _ => none

def acceptedRtcp? (s : Session) : Call → Option (UInt32 × UInt64)
  | .unprotectRtcp packet =>
    match (s.unprotectRtcp packet).outcome with
    | .ok _ => s.rtcpId? packet
    | .error _ => none
  | _ => none

def acceptedRtp (s : Session) : List Call → List (UInt32 × UInt64)
  | [] => []
  | call :: past => ((s.after past).acceptedRtp? call).toList ++ s.acceptedRtp past

def acceptedRtcp (s : Session) : List Call → List (UInt32 × UInt64)
  | [] => []
  | call :: past => ((s.after past).acceptedRtcp? call).toList ++ s.acceptedRtcp past

def Remembers (s : Session) (rtp rtcp : List (UInt32 × UInt64)) : Prop :=
  match s.role with
  | .receiving r => r.Remembers s.settings.replayWindow rtp rtcp
  | _ => rtp = [] ∧ rtcp = []

structure Extends (s : Session) (call : Call) (rtp rtcp : List (UInt32 × UInt64)) : Prop where
  remembers : (s.perform call).Remembers ((s.acceptedRtp? call).toList ++ rtp) ((s.acceptedRtcp? call).toList ++ rtcp)
  newRtp : ∀ id ∈ s.acceptedRtp? call, id ∉ rtp
  newRtcp : ∀ id ∈ s.acceptedRtcp? call, id ∉ rtcp

variable {s : Session} {rtp rtcp : List (UInt32 × UInt64)}

theorem Remembers.receiver {r : Receiver} (hm : s.Remembers rtp rtcp) (hr : s.role = .receiving r) :
    r.Remembers s.settings.replayWindow rtp rtcp := by
  obtain ⟨settings, role⟩ := s
  cases hr
  exact hm

theorem Extends.of_none {call : Call} (hr : (s.perform call).Remembers rtp rtcp) (hrtp : s.acceptedRtp? call = none)
    (hrtcp : s.acceptedRtcp? call = none) : s.Extends call rtp rtcp := by
  constructor
  · rw [hrtp, hrtcp]
    exact hr
  · rw [hrtp]
    rintro id ⟨⟩
  · rw [hrtcp]
    rintro id ⟨⟩

theorem Remembers.unprotectRtp (hr : s.Remembers rtp rtcp) (packet : Bytes) :
    s.Extends (.unprotectRtp packet) rtp rtcp := by
  obtain ⟨settings, role⟩ := s
  cases role with
  | idle => exact .of_none hr rfl rfl
  | sending sender => exact .of_none hr rfl rfl
  | receiving r =>
    have hr : r.Remembers settings.replayWindow rtp rtcp := hr
    have hreply := unprotectRtp_of_receiving (s := ⟨settings, .receiving r⟩) rfl packet
    obtain ⟨n, ssrc, p, hid, ha, ho, hs⟩ | ⟨e, ho, hs⟩ := r.unprotectRtp_cases settings packet
    · have hacc : acceptedRtp? ⟨settings, .receiving r⟩ (.unprotectRtp packet) = some (ssrc, p.index) := by
        simp only [acceptedRtp?, hreply, PacketReply.mapState, ho, rtpId?, hid]
      constructor
      · rw [perform, hreply, hacc]
        simp only [PacketReply.mapState, hs]
        exact hr.recordRtp ssrc p
      · rw [hacc]
        rintro id ⟨⟩
        exact ((hr.acceptsRtp_iff ssrc p.index).mp ha).1
      · rintro id ⟨⟩
    · apply Extends.of_none _ _ rfl
      · rw [perform, hreply]
        simp only [PacketReply.mapState, hs]
        exact hr
      · simp only [acceptedRtp?, hreply, PacketReply.mapState, ho]

theorem Remembers.unprotectRtcp (hr : s.Remembers rtp rtcp) (packet : Bytes) :
    s.Extends (.unprotectRtcp packet) rtp rtcp := by
  obtain ⟨settings, role⟩ := s
  cases role with
  | idle => exact .of_none hr rfl rfl
  | sending sender => exact .of_none hr rfl rfl
  | receiving r =>
    have hr : r.Remembers settings.replayWindow rtp rtcp := hr
    have hreply := unprotectRtcp_of_receiving (s := ⟨settings, .receiving r⟩) rfl packet
    obtain ⟨n, ssrc, index, hid, ha, ho, hs⟩ | ⟨e, ho, hs⟩ := r.unprotectRtcp_cases settings packet
    · have hacc : acceptedRtcp? ⟨settings, .receiving r⟩ (.unprotectRtcp packet) =
          some (ssrc, index.toUInt64) := by
        simp only [acceptedRtcp?, hreply, PacketReply.mapState, ho, rtcpId?, hid]
      constructor
      · rw [perform, hreply, hacc]
        simp only [PacketReply.mapState, hs]
        exact hr.recordRtcp ssrc index
      · rintro id ⟨⟩
      · rw [hacc]
        rintro id ⟨⟩
        exact ((hr.acceptsRtcp_iff ssrc index).mp ha).1
    · apply Extends.of_none _ rfl
      · simp only [acceptedRtcp?, hreply, PacketReply.mapState, ho]
      · rw [perform, hreply]
        simp only [PacketReply.mapState, hs]
        exact hr

theorem Remembers.configure (hr : s.Remembers rtp rtcp) (direction : Direction) (suite : Suite) (material : Bytes) :
    (s.configure direction suite material).state.Remembers rtp rtcp := by
  obtain ⟨settings, role⟩ := s
  cases role with
  | sending sender => exact hr
  | receiving r => exact hr
  | idle =>
    obtain ⟨rfl, rfl⟩ : rtp = [] ∧ rtcp = [] := hr
    simp only [Session.configure, Role.direction?]
    split
    · cases direction with
      | send => exact ⟨rfl, rfl⟩
      | recv => exact Receiver.remembers_nil _ _
    · exact ⟨rfl, rfl⟩

theorem Remembers.extends (hr : s.Remembers rtp rtcp) (call : Call) : s.Extends call rtp rtcp := by
  cases call with
  | configure direction suite material => exact .of_none (hr.configure direction suite material) rfl rfl
  | setEncryptedIds ids => exact .of_none hr rfl rfl
  | enableExternalAuth => exact .of_none hr rfl rfl
  | unprotectRtp packet => exact hr.unprotectRtp packet
  | unprotectRtcp packet => exact hr.unprotectRtcp packet
  | protectRtp buffer length =>
    obtain ⟨settings, role⟩ := s
    cases role <;> exact .of_none hr rfl rfl
  | protectRtcp buffer length =>
    obtain ⟨settings, role⟩ := s
    cases role <;> exact .of_none hr rfl rfl

theorem remembers_after (replayWindow : UInt64) (calls : List Call) :
    ((ofWindow replayWindow).after calls).Remembers ((ofWindow replayWindow).acceptedRtp calls)
      ((ofWindow replayWindow).acceptedRtcp calls) := by
  induction calls with
  | nil => exact ⟨rfl, rfl⟩
  | cons call past ih => exact (ih.extends call).remembers

theorem nodup_toList_append {α : Type} {o : Option α} {l : List α} (ho : ∀ a ∈ o, a ∉ l) (hl : l.Nodup) :
    (o.toList ++ l).Nodup := by
  cases o with
  | none => exact hl
  | some a => exact List.nodup_cons.mpr ⟨ho a rfl, hl⟩

theorem nodup_accepted (replayWindow : UInt64) (calls : List Call) :
    ((ofWindow replayWindow).acceptedRtp calls).Nodup ∧ ((ofWindow replayWindow).acceptedRtcp calls).Nodup := by
  induction calls with
  | nil => exact ⟨.nil, .nil⟩
  | cons call past ih =>
    have he := (remembers_after replayWindow past).extends call
    exact ⟨nodup_toList_append he.newRtp ih.1, nodup_toList_append he.newRtcp ih.2⟩

theorem acceptedRtp_append (s : Session) (later past : List Call) :
    s.acceptedRtp (later ++ past) = (s.after past).acceptedRtp later ++ s.acceptedRtp past := by
  induction later with
  | nil => rfl
  | cons call later ih =>
    rw [List.cons_append, acceptedRtp, ih, after_append, ← List.append_assoc]
    rfl

theorem role_perform_of_receiving {r : Receiver} (hr : s.role = .receiving r) (call : Call) :
    ∃ r', (s.perform call).role = .receiving r' := by
  obtain ⟨settings, role⟩ := s
  cases hr
  cases call <;> exact ⟨_, rfl⟩

theorem role_after_of_receiving {r : Receiver} (hr : s.role = .receiving r) (calls : List Call) :
    ∃ r', (s.after calls).role = .receiving r' := by
  induction calls with
  | nil => exact ⟨r, hr⟩
  | cons call past ih =>
    obtain ⟨r', hr'⟩ := ih
    exact role_perform_of_receiving hr' call

/-- In a run of any calls on a new session, no packet is accepted for an index that another one of its stream was
accepted for. A stream counts from the highest index that was accepted, and never goes back. -/
theorem accepts_each_index_once (replayWindow : UInt64) (calls : List Call) :
    let s := ofWindow replayWindow
    (s.acceptedRtp calls).Nodup ∧ (s.acceptedRtcp calls).Nodup ∧
      ∀ r, (s.after calls).role = .receiving r → ∀ (ssrc : UInt32) (stream : ReceiveStream),
        r.streams[ssrc]? = some stream →
          stream.window.highest = some stream.highest.index ∧
          (ssrc, stream.highest.index) ∈ s.acceptedRtp calls ∧
          (∀ i, (ssrc, i) ∈ s.acceptedRtp calls → i ≤ stream.highest.index) ∧
          ∀ later, ∃ (r' : Receiver) (stream' : ReceiveStream), (s.after (later ++ calls)).role = .receiving r' ∧
            r'.streams[ssrc]? = some stream' ∧ stream.highest.index ≤ stream'.highest.index := by
  intro s
  refine ⟨(nodup_accepted replayWindow calls).1, (nodup_accepted replayWindow calls).2, ?_⟩
  intro r hr ssrc stream hs
  have hm := (remembers_after replayWindow calls).receiver hr
  obtain ⟨hmem, hmax⟩ := hm.highest_mem hs
  refine ⟨hm.highest ssrc stream hs, hmem, fun i hi => UInt64.le_iff_toNat_le.mpr (hmax i hi), ?_⟩
  intro later
  obtain ⟨r', hr'⟩ := role_after_of_receiving hr later
  rw [← after_append] at hr'
  have hm' := (remembers_after replayWindow (later ++ calls)).receiver hr'
  have hmem' : (ssrc, stream.highest.index) ∈ s.acceptedRtp (later ++ calls) := by
    rw [acceptedRtp_append]
    exact List.mem_append_right _ hmem
  cases hs' : r'.streams[ssrc]? with
  | none => exact absurd hmem' (hm'.not_mem_of_none hs' _)
  | some stream' =>
    have hle := (hm'.highest_mem hs').2 _ hmem'
    exact ⟨r', stream', hr', hs', UInt64.le_iff_toNat_le.mpr hle⟩

end SecureRtp.Session
