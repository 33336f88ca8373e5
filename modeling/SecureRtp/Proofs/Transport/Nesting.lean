import SecureRtp.Proofs.Transport.Reconciliation

namespace SecureRtp

class Lengthens (τ : Type) [Carrier τ] where
  added : τ → PacketKind → Nat
  length_send : ∀ (c : τ) (kind : PacketKind) (packet : PacketBuffer) (options : PacketOptions) (flags : UInt32),
    (Carrier.send c kind packet options flags).outcome = .ok () →
      (Carrier.send c kind packet options flags).packet.length = packet.length + added c kind

open Lengthens

theorem Recorder.packet_send (r : Recorder) (kind : PacketKind) (packet : PacketBuffer) (options : PacketOptions)
    (flags : UInt32) : (r.send kind packet options flags).packet = packet := by
  unfold send
  split <;> rfl

instance : Lengthens Recorder where
  added _ _ := 0
  length_send r kind packet options flags _ := congrArg PacketBuffer.length (r.packet_send kind packet options flags)

instance {τ υ : Type} [Carrier τ] [Carrier υ] [Lengthens τ] [Lengthens υ] : Lengthens (τ ⊕ υ) where
  added
    | .inl c, kind => added c kind
    | .inr c, kind => added c kind
  length_send
    | .inl c, kind, packet, options, flags, h => length_send c kind packet options flags h
    | .inr c, kind, packet, options, flags, h => length_send c kind packet options flags h

theorem PacketBuffer.length_setLength {b after : PacketBuffer} {n : Nat} (h : b.setLength n = .ok after) :
    after.length = n := by
  unfold setLength at h
  split at h
  · cases h
  · rename_i hn
    cases h
    rw [length, List.length_take, length_storage, Nat.min_eq_left (Nat.le_of_not_lt hn)]

theorem Role.eq_sending_of_sender {role : Role} {s : Sender} (h : role.sender = .ok s) : role = .sending s := by
  cases role <;> cases h
  rfl

theorem Suite.overhead_pos (suite : Suite) (kind : PacketKind) : 0 < suite.overhead kind := by
  cases suite <;> cases kind <;> decide

namespace Session

variable {s : Session}

theorem overhead_of_protectRtp {buffer : Bytes} {length : Nat} {answer : Nat × UInt64}
    (h : (s.protectRtp buffer length).outcome = .ok answer) :
    0 < s.overhead .rtp ∧ answer.1 = length + s.overhead .rtp := by
  unfold protectRtp at h
  split at h
  · rename_i sender hs
    rw [overhead_of_sending (Role.eq_sending_of_sender hs)]
    refine ⟨Suite.overhead_pos _ _, ?_⟩
    dsimp only [PacketReply.mapState] at h
    unfold Sender.protectRtp at h
    split at h
    · cases h
    · dsimp only at h
      split at h
      · cases h
      · cases h
        rfl
  · cases h

theorem overhead_of_protectRtcp {buffer : Bytes} {length n : Nat}
    (h : (s.protectRtcp buffer length).outcome = .ok n) : 0 < s.overhead .rtcp ∧ n = length + s.overhead .rtcp := by
  unfold protectRtcp at h
  split at h
  · rename_i sender hs
    rw [overhead_of_sending (Role.eq_sending_of_sender hs)]
    refine ⟨Suite.overhead_pos _ _, ?_⟩
    dsimp only [PacketReply.mapState] at h
    unfold Sender.protectRtcp at h
    split at h
    · cases h
    · dsimp only at h
      split at h
      · cases h
      · cases h
        rw [Suite.overhead]
        omega
  · cases h

end Session

namespace Transport

section

variable {τ : Type}

def overhead (t : Transport τ) (kind : PacketKind) : Nat :=
  (t.activation.sessions? kind).elim 0 fun pair => pair.send.overhead kind

theorem bytesProtected_receive (t : Transport τ) (kind : PacketKind) (packet : PacketBuffer)
    (arrival : Option Instant) :
    (t.receive kind packet arrival).state.stats.bytesProtected = t.stats.bytesProtected := by
  obtain ⟨-, h⟩ | ⟨pair, -, ⟨e, -, h⟩ | ⟨-, h⟩⟩ := t.receive_cases kind packet arrival <;> rw [h]
  · rfl
  · rfl
  · exact Stats.bytesProtected_countUnprotected _ _ _

theorem length_ofReply {α : Type} {packet : PacketBuffer} {reply : PacketReply Session α} {length : α → Nat}
    {options : α → PacketOptions} {sentOptions : PacketOptions}
    (h : (Protected.ofReply packet reply length options).outcome = .ok sentOptions) :
    ∃ a, reply.outcome = .ok a ∧ (Protected.ofReply packet reply length options).packet.length = length a := by
  unfold Protected.ofReply at h ⊢
  dsimp only at h ⊢
  split at h
  · cases h
  · rename_i a ha
    split at h
    · cases h
    · rename_i after hafter
      exact ⟨a, ha, PacketBuffer.length_setLength hafter⟩

theorem eq_ofReply_of_protectRtp {s : Session} {sendTimeId : Option UInt8} {packet : PacketBuffer}
    {options sentOptions : PacketOptions} (h : (protectRtp s sendTimeId packet options).outcome = .ok sentOptions) :
    ∃ optionsOf, protectRtp s sendTimeId packet options =
      Protected.ofReply packet (s.protectRtp packet.storage packet.length) (·.1) optionsOf := by
  unfold protectRtp at h ⊢
  split at h
  · rename_i hexternal
    rw [if_pos hexternal]
    split at h
    · cases h
    · exact ⟨_, rfl⟩
  · rename_i hexternal
    rw [if_neg hexternal]
    exact ⟨_, rfl⟩

theorem length_protectWith {s : Session} {kind : PacketKind} {sendTimeId : Option UInt8} {packet : PacketBuffer}
    {options sentOptions : PacketOptions}
    (h : (protectWith s kind sendTimeId packet options).outcome = .ok sentOptions) :
    0 < s.overhead kind ∧
      (protectWith s kind sendTimeId packet options).packet.length = packet.length + s.overhead kind := by
  unfold protectWith at h ⊢
  dsimp only at h ⊢
  split at h
  · cases h
  · rename_i hroom
    rw [if_neg hroom]
    cases kind with
    | rtp =>
      dsimp only at h ⊢
      obtain ⟨optionsOf, he⟩ := eq_ofReply_of_protectRtp h
      rw [he] at h ⊢
      obtain ⟨answer, hanswer, hlength⟩ := length_ofReply h
      obtain ⟨hpos, hn⟩ := Session.overhead_of_protectRtp hanswer
      exact ⟨hpos, hlength.trans hn⟩
    | rtcp =>
      obtain ⟨n, hanswer, hlength⟩ := length_ofReply h
      obtain ⟨hpos, hn⟩ := Session.overhead_of_protectRtcp hanswer
      exact ⟨hpos, hlength.trans hn⟩

end

section

variable {τ : Type} [Carrier τ] {t : Transport τ} {kind : PacketKind} {packet : PacketBuffer}
  {options : PacketOptions} {flags : UInt32}

structure SentDown (t : Transport τ) (kind : PacketKind) (packet : PacketBuffer) (flags : UInt32)
    (passed : PacketBuffer) (passedOptions : PacketOptions) (s : Sent (Transport τ)) : Prop where
  outcome : (Carrier.send t.carrier kind passed passedOptions flags).outcome = .ok ()
  packet_eq : s.packet = (Carrier.send t.carrier kind passed passedOptions flags).packet
  length_passed : passed.length = packet.length + t.overhead kind
  overhead_pos : 0 < t.overhead kind
  counted : s.carrier.stats.bytesProtected = t.stats.bytesProtected + s.packet.length

theorem bytesProtected_of_error {e : Error} (ho : (t.send kind packet options flags).outcome = .error e) :
    (t.send kind packet options flags).carrier.stats.bytesProtected = t.stats.bytesProtected := by
  obtain ⟨-, h⟩ | ⟨pair, -, ⟨e, -, h⟩ | ⟨sentOptions, -, h⟩⟩ := t.send_cases kind packet options flags <;>
    rw [h] at ho ⊢
  · rfl
  · rfl
  · rw [stats_handedDown_of_error ho]

theorem exists_sentDown (ho : (t.send kind packet options flags).outcome = .ok ()) :
    ∃ passed passedOptions, t.SentDown kind packet flags passed passedOptions (t.send kind packet options flags) := by
  obtain ⟨-, h⟩ | ⟨pair, hp, ⟨e, -, h⟩ | ⟨passedOptions, hprotected, h⟩⟩ := t.send_cases kind packet options flags <;>
    rw [h] at ho ⊢
  · cases ho
  · cases ho
  · obtain ⟨hpos, hlength⟩ := length_protectWith hprotected
    have hoverhead : t.overhead kind = pair.send.overhead kind := by rw [overhead, hp, Option.elim_some]
    refine ⟨_, passedOptions, ho, rfl, hoverhead ▸ hlength, hoverhead ▸ hpos, ?_⟩
    rw [stats_handedDown_of_ok ho, Stats.bytesProtected_countProtected]

variable [Lengthens τ]

theorem SentDown.length_packet {passed : PacketBuffer} {passedOptions : PacketOptions} {s : Sent (Transport τ)}
    (h : t.SentDown kind packet flags passed passedOptions s) :
    s.packet.length = packet.length + t.overhead kind + added t.carrier kind := by
  rw [h.packet_eq, length_send _ _ _ _ _ h.outcome, h.length_passed]

instance : Lengthens (Transport τ) where
  added t kind := t.overhead kind + added t.carrier kind
  length_send t kind packet options flags h := by
    obtain ⟨passed, passedOptions, hs⟩ := exists_sentDown h
    exact hs.length_packet.trans (Nat.add_assoc _ _ _)

theorem added_pos_of_ok (h : (t.send kind packet options flags).outcome = .ok ()) : 0 < added t kind := by
  obtain ⟨passed, passedOptions, hs⟩ := exists_sentDown h
  exact Nat.add_pos_left hs.overhead_pos _

def sentBytes (t : Transport τ) : Operation τ → Nat
  | .send kind packet options flags =>
    match (t.send kind packet options flags).outcome with
    | .ok () => packet.length + t.overhead kind + added t.carrier kind
    | .error _ => 0
  | _ => 0

def totalSent (t : Transport τ) : List (Operation τ) → Nat
  | [] => 0
  | operation :: past => t.totalSent past + (t.after past).sentBytes operation

theorem sentBytes_of_not_isPacketCall {operation : Operation τ} (hop : operation.isPacketCall = false) :
    t.sentBytes operation = 0 := by
  cases operation with
  | send kind packet options flags => cases hop
  | _ => rfl

theorem bytesProtected_perform (t : Transport τ) (operation : Operation τ) :
    (t.perform operation).stats.bytesProtected = t.stats.bytesProtected + t.sentBytes operation := by
  cases hop : operation.isPacketCall with
  | false => rw [(perform_of_not_isPacketCall hop).1, sentBytes_of_not_isPacketCall hop, Nat.add_zero]
  | true =>
    cases operation with
    | send kind packet options flags =>
      cases ho : (t.send kind packet options flags).outcome with
      | error e =>
        simp only [perform, sentBytes, ho, Nat.add_zero]
        exact bytesProtected_of_error ho
      | ok =>
        obtain ⟨passed, passedOptions, hs⟩ := exists_sentDown ho
        simp only [perform, sentBytes, ho, ← hs.length_packet]
        exact hs.counted
    | receive kind packet arrival => exact t.bytesProtected_receive kind packet arrival
    | _ => cases hop

theorem bytesProtected_after (t : Transport τ) (operations : List (Operation τ)) :
    (t.after operations).stats.bytesProtected = t.stats.bytesProtected + t.totalSent operations := by
  induction operations with
  | nil => rfl
  | cons operation past ih => rw [after, bytesProtected_perform, ih, totalSent, Nat.add_assoc]

end

/-- The count of bytes is that of the packets as the carriers left them. So one packet adds what was handed down exactly
if the carrier is a recorder; another transport adds its own overhead to the same packet. -/
theorem counts_bytes_handed_down_iff (t : Transport (Recorder ⊕ Transport Recorder))
    (operations : List (Operation (Recorder ⊕ Transport Recorder))) :
    let now := t.after operations
    now.stats.bytesProtected = t.stats.bytesProtected + t.totalSent operations ∧
      ∀ kind packet options flags,
        let s := now.send kind packet options flags
        (∀ e, s.outcome = .error e → s.carrier.stats.bytesProtected = now.stats.bytesProtected) ∧
        (s.outcome = .ok () → ∃ passed passedOptions, now.SentDown kind packet flags passed passedOptions s ∧
          s.carrier.stats.bytesProtected = now.stats.bytesProtected + passed.length + added now.carrier kind ∧
          (s.carrier.stats.bytesProtected = now.stats.bytesProtected + (packet.length + now.overhead kind) ↔
            ∃ r, now.carrier = .inl r)) := by
  intro now
  refine ⟨bytesProtected_after t operations, ?_⟩
  intro kind packet options flags s
  refine ⟨fun e => bytesProtected_of_error, ?_⟩
  intro ho
  obtain ⟨passed, passedOptions, hs⟩ := exists_sentDown ho
  have hcount : s.carrier.stats.bytesProtected = now.stats.bytesProtected + passed.length + added now.carrier kind := by
    rw [hs.counted, hs.length_packet, hs.length_passed, Nat.add_assoc now.stats.bytesProtected]
  refine ⟨passed, passedOptions, hs, hcount, ?_⟩
  rw [hcount, hs.length_passed]
  cases hc : now.carrier with
  | inl r => exact iff_of_true rfl ⟨r, rfl⟩
  | inr inner =>
    have houtcome := hs.outcome
    rw [hc] at houtcome
    have hpos : 0 < added inner kind := added_pos_of_ok houtcome
    apply iff_of_false
    · change ¬_ + added inner kind = _
      omega
    · rintro ⟨r, hr⟩
      cases hr

theorem send_of_setRtpParams {τ : Type} [Carrier τ] (carrier : τ) (params : KeyParams)
    (hs : params.sendMaterial.length = params.sendSuite.materialLength)
    (hr : params.recvMaterial.length = params.recvSuite.materialLength) {kind : PacketKind} {packet : PacketBuffer}
    (hl : packet.length < Galois.maxLength) (hc : CanProtect params.sendSuite kind packet) {flags : UInt32}
    (hcarrier : ∀ passed passedOptions, packet.Grown passed (params.sendSuite.overhead kind) →
      (Carrier.send carrier kind passed passedOptions flags).outcome = .ok ()) (options : PacketOptions) :
    let t := (ofConfig carrier {}).1.after [.setRtpParams params]
    t.carrier = carrier ∧ t.overhead kind = params.sendSuite.overhead kind ∧
      (t.send kind packet options flags).outcome = .ok () := by
  intro t
  obtain ⟨send, hsend, -⟩ := SessionCrypto.fits_ofMaterial hs
  obtain ⟨recv, hrecv, -⟩ := SessionCrypto.fits_ofMaterial hr
  have hcreate := createSessions_of_ofMaterial (ofConfig carrier {}).1 .rtp hsend hrecv
  have ht : t = { (ofConfig carrier {}).1 with
      activation := .rtpActive ((ofConfig carrier {}).1.pairOf .rtp send recv) } := by
    change ((ofConfig carrier {}).1.setRtpParams params).state = _
    rw [setRtpParams, hcreate]
    rfl
  have hk : ((ofConfig carrier {}).1.pairOf .rtp send recv).send.Keyed .send params.sendSuite params.sendMaterial :=
    ⟨rfl, send, hsend, rfl⟩
  have hp : t.activation.sessions? kind = some ((ofConfig carrier {}).1.pairOf .rtp send recv) := by
    rw [ht]
    cases kind <;> rfl
  have hcarrier_eq : t.carrier = carrier := by
    rw [ht]
    rfl
  obtain ⟨⟨sentOptions, ho⟩, hgrown⟩ := grown_protectWith hk hl hc t.sendTimeId options
  refine ⟨hcarrier_eq, ?_, ?_⟩
  · rw [overhead, hp, Option.elim_some, hk.overhead]
  · rw [send_of_ok hp ho]
    change (Carrier.send t.carrier _ _ _ _).outcome = _
    rw [hcarrier_eq]
    exact hcarrier _ _ hgrown

theorem counts_overhead_of_carrier :
    let params : KeyParams := ⟨.aesCm128HmacSha1_80, zeros 30, .aesCm128HmacSha1_80, zeros 30⟩
    let inner := (ofConfig ({} : Recorder) {}).1.after [.setRtpParams params]
    let outer := (ofConfig (.inr inner : Recorder ⊕ Transport Recorder) {}).1.after [.setRtpParams params]
    let packet : PacketBuffer := ⟨[0x80, 0xc8, 0, 1, 0, 0, 0, 1], zeros 28⟩
    let s := outer.send .rtcp packet {} 0
    s.outcome = .ok () ∧ packet.length + outer.overhead .rtcp = 22 ∧
      s.carrier.stats.bytesProtected = outer.stats.bytesProtected + 36 := by
  intro params inner outer packet s
  -- Whatever the outer transport makes of the report, there is room left for the inner one.
  have hinner (passed : PacketBuffer) (options : PacketOptions) (hgrown : packet.Grown passed 14) :
      inner.carrier = {} ∧ inner.overhead .rtcp = 14 ∧ (inner.send .rtcp passed options 0).outcome = .ok () := by
    have hlength : passed.length = 22 := hgrown.length
    have hspare : passed.spare = zeros 14 := hgrown.spare
    refine send_of_setRtpParams ({} : Recorder) params rfl rfl ?_ ⟨?_, ?_⟩ (fun _ _ _ => rfl) options
    · rw [hlength]
      decide
    · rw [PacketBuffer.headroom, hspare]
      decide
    · change 8 ≤ passed.packet.length
      rw [← PacketBuffer.length, hlength]
      decide
  have hroom : CanProtect params.sendSuite .rtcp packet := by decide
  obtain ⟨hcarrier, houter, hsent⟩ :=
    send_of_setRtpParams (.inr inner : Recorder ⊕ Transport Recorder) params rfl rfl (by decide) hroom
      (fun passed options hgrown => (hinner passed options hgrown).2.2) {}
  obtain ⟨passed, passedOptions, hdown⟩ := exists_sentDown hsent
  have hadded : added outer.carrier .rtcp = 14 := by
    rw [hcarrier]
    change inner.overhead .rtcp + added inner.carrier .rtcp = 14
    have hbelow := hinner ⟨packet.packet ++ zeros 14, zeros 14⟩ {} ⟨rfl, rfl, rfl⟩
    rw [hbelow.1, hbelow.2.1]
    rfl
  have hlength := hdown.length_packet
  rw [houter, hadded] at hlength
  refine ⟨hsent, ?_, ?_⟩
  · rw [houter]
    rfl
  · rw [hdown.counted, hlength]
    rfl

end Transport

end SecureRtp
