import SecureRtp.Proofs.Session.Control
import SecureRtp.Proofs.Session.Media
import SecureRtp.Proofs.Transport.Run

namespace SecureRtp

inductive PacketReply.Opened {σ : Type} : PacketReply σ Nat → Prop where
  | text (text rest : Bytes) (state : σ) (notices : List Notice) :
      Opened ⟨⟨.ok text.length, state, notices⟩, text ++ rest⟩
  | refusal {e : Error} (he : e.isCryptoFailure = true) (state : σ) (notices : List Notice) (bytes : Bytes) :
      Opened ⟨⟨.error e, state, notices⟩, bytes⟩

theorem PacketReply.Opened.mapState {σ τ : Type} {reply : PacketReply σ Nat} (h : reply.Opened) (f : σ → τ) :
    (reply.mapState f).Opened := by
  cases h with
  | text text rest state notices => exact .text text rest (f state) notices
  | refusal he state notices bytes => exact .refusal he (f state) notices bytes

namespace Receiver

variable {r : Receiver}

theorem opened_unprotectRtp (hc : r.crypto.Fits) (settings : Settings) (packet : Bytes) :
    (r.unprotectRtp settings packet).Opened := by
  cases hh : r.rtpHeader packet with
  | error e =>
    have he : e.isCryptoFailure = true := by
      unfold rtpHeader at hh
      dsimp only at hh
      split at hh
      · cases hh
        rfl
      · split at hh <;> cases hh
        rfl
    rw [unprotectRtp, hh]
    exact .refusal he _ _ _
  | ok h =>
    obtain ⟨body, tag, rfl, htag, hread⟩ := exists_of_rtpHeader hh
    rw [unprotectRtp_append hc settings hread htag]
    dsimp only
    split
    · split
      · rw [← SessionCrypto.length_rtpCrypt _ hread]
        exact .text _ _ _ _
      · exact .refusal rfl _ _ _
    · exact .refusal rfl _ _ _

theorem opened_unprotectRtcp (hc : r.crypto.Fits) (settings : Settings) (packet : Bytes) :
    (r.unprotectRtcp settings packet).Opened := by
  cases hh : r.rtcpStream packet with
  | error e =>
    have he : e.isCryptoFailure = true := by
      unfold rtcpStream at hh
      split at hh
      · cases hh
        rfl
      · split at hh <;> cases hh
        rfl
    rw [unprotectRtcp, hh]
    exact .refusal he _ _ _
  | ok ssrc =>
    obtain ⟨header, payload, tag, word, rfl, hheader, htag, hread⟩ := exists_of_rtcpStream hh
    rw [unprotectRtcp_append hc settings hheader hread htag]
    dsimp only
    split
    · split
      · exact .refusal rfl _ _ _
      · split
        · have hlength :
              (header ++ r.crypto.rtcp.openedControl ssrc ⟨header.length + payload.length, word⟩ payload).length =
                header.length + payload.length := by
            rw [List.length_append, StreamCrypto.length_openedControl]
          rw [← List.append_assoc, ← hlength]
          exact .text _ _ _ _
        · exact .refusal rfl _ _ _
    · exact .refusal rfl _ _ _

end Receiver

namespace Session

def unprotect (s : Session) : PacketKind → Bytes → PacketReply Session Nat
  | .rtp, packet => s.unprotectRtp packet
  | .rtcp, packet => s.unprotectRtcp packet

theorem Keyed.opened_unprotect {s : Session} {suite : Suite} {material : Bytes} (hk : s.Keyed .recv suite material)
    (kind : PacketKind) (packet : Bytes) : (s.unprotect kind packet).Opened := by
  obtain ⟨r, hr, hm⟩ := hk.receiver
  have hc := (SessionCrypto.fits_of_ofMaterial hm).2
  cases kind with
  | rtp =>
    rw [unprotect, unprotectRtp_of_receiving hr]
    exact (r.opened_unprotectRtp hc s.settings packet).mapState s.withReceiver
  | rtcp =>
    rw [unprotect, unprotectRtcp_of_receiving hr]
    exact (r.opened_unprotectRtcp hc s.settings packet).mapState s.withReceiver

end Session

namespace Transport

variable {τ : Type}

theorem unprotected_ofReply_ok {packet : PacketBuffer} (state : Session) (notices : List Notice) (text rest : Bytes) :
    Unprotected.ofReply packet ⟨⟨.ok text.length, state, notices⟩, text ++ rest⟩ =
      ⟨.ok (), state, ⟨text, rest ++ packet.spare⟩, notices⟩ := by
  have hle : ¬text.length > (text ++ rest).length + packet.spare.length := by
    rw [List.length_append]
    omega
  simp only [Unprotected.ofReply, PacketBuffer.setLength, PacketBuffer.capacity, PacketBuffer.length,
    PacketBuffer.headroom, PacketBuffer.storage, if_neg hle, List.append_assoc, List.take_left, List.drop_left]

theorem unprotectWith_eq (session : Session) (kind : PacketKind) (packet : PacketBuffer) :
    unprotectWith session kind packet = .ofReply packet (session.unprotect kind packet.packet) := by
  cases kind <;> rfl

/-- The text of a packet, if there is a session for its kind that takes it. -/
def textOf (t : Transport τ) (kind : PacketKind) (packet : Bytes) : Bytes :=
  match t.activation.sessions? kind with
  | none => []
  | some pair =>
    let reply := pair.recv.unprotect kind packet
    match reply.outcome with
    | .ok length => reply.bytes.take length
    | .error _ => []

/-- What an operation emits: one event for each change of readiness and each packet that was taken. -/
def emission (t : Transport τ) : Operation τ → List Event
  | .ready on => [.readyToSend on]
  | .receive kind packet arrival =>
    match (t.receive kind packet arrival).outcome with
    | .ok () => [.packetReceived kind (t.textOf kind packet.packet) arrival]
    | .error _ => []
  | _ => []

inductive ReceiveAnswer (t : Transport τ) (kind : PacketKind) (packet : PacketBuffer) (arrival : Option Instant) :
    Received τ → Prop
  | inactive (notices : List Notice) :
      ReceiveAnswer t kind packet arrival
        { outcome := .error .inactive, state := { t with stats := t.stats.countInactive }, notices }
  | failed {e : Error} (he : e.isCryptoFailure = true) (activation : Activation) (notices : List Notice) :
      ReceiveAnswer t kind packet arrival
        { outcome := .error e, state := { t with activation, stats := t.stats.countUnprotectFailure }, notices }
  | emitted (activation : Activation) (notices : List Notice) :
      ReceiveAnswer t kind packet arrival
        (emit { t with activation, stats := t.stats.countUnprotected kind (t.textOf kind packet.packet).length }
          (.packetReceived kind (t.textOf kind packet.packet) arrival) notices)

theorem receiveAnswer_receive {t : Transport τ} (ht : t.activation.Keyed) (kind : PacketKind) (packet : PacketBuffer)
    (arrival : Option Instant) : t.ReceiveAnswer kind packet arrival (t.receive kind packet arrival) := by
  cases hp : t.activation.sessions? kind with
  | none =>
    rw [receive, hp]
    exact .inactive _
  | some pair =>
    obtain ⟨suite, material, hk⟩ := (ht kind pair hp).recv
    have hopened := hk.opened_unprotect kind packet.packet
    have htext : t.textOf kind packet.packet =
        match (pair.recv.unprotect kind packet.packet).outcome with
        | .ok length => (pair.recv.unprotect kind packet.packet).bytes.take length
        | .error _ => [] := by
      rw [textOf, hp]
    simp only [receive, hp, unprotectWith_eq]
    generalize pair.recv.unprotect kind packet.packet = reply at hopened htext ⊢
    cases hopened with
    | text text rest state notices =>
      simp only [List.take_left] at htext
      rw [unprotected_ofReply_ok, ← htext]
      exact .emitted _ _
    | refusal he state notices bytes => exact .failed he _ _

section

variable [Carrier τ]

theorem after_append (t : Transport τ) (later past : List (Operation τ)) :
    t.after (later ++ past) = (t.after past).after later := by
  induction later with
  | nil => rfl
  | cons operation later ih => exact congrArg (perform · operation) ih

def gathered {α : Type} (t : Transport τ) (f : Transport τ → Operation τ → List α) : List (Operation τ) → List α
  | [] => []
  | operation :: past => t.gathered f past ++ f (t.after past) operation

theorem gathered_append {α : Type} (t : Transport τ) (f : Transport τ → Operation τ → List α)
    (later past : List (Operation τ)) :
    t.gathered f (later ++ past) = t.gathered f past ++ (t.after past).gathered f later := by
  induction later with
  | nil => exact (List.append_nil _).symm
  | cons operation later ih =>
    rw [List.cons_append, gathered, ih, gathered, after_append, List.append_assoc]

end

end Transport

end SecureRtp
