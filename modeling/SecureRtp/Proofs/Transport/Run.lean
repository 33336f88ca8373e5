import SecureRtp.Proofs.Session.Run
import SecureRtp.Transport.Receive
import SecureRtp.Transport.Send

namespace SecureRtp

structure SessionPair.Keyed (pair : SessionPair) : Prop where
  send : ∃ suite material, pair.send.Keyed .send suite material
  recv : ∃ suite material, pair.recv.Keyed .recv suite material

namespace Activation

variable {a : Activation}

theorem isSome_sessions? (a : Activation) (kind : PacketKind) : (a.sessions? kind).isSome = a.rtp?.isSome := by
  cases a with
  | unconfigured => rfl
  | rtpActive rtp => rfl
  | rtpAndRtcpActive rtp rtcp => cases kind <;> rfl

theorem sessions?_rtp (a : Activation) : a.sessions? .rtp = a.rtp? := by
  cases a <;> rfl

theorem exists_sessions?_of_modify {f : SessionPair → SessionPair} {kind asked : PacketKind} {pair : SessionPair}
    (h : (a.modify f kind).sessions? asked = some pair) :
    ∃ before, a.sessions? asked = some before ∧ (pair = before ∨ pair = f before) := by
  cases a with
  | unconfigured => cases h
  | rtpActive rtp =>
    cases h
    exact ⟨rtp, rfl, .inr rfl⟩
  | rtpAndRtcpActive rtp rtcp =>
    cases kind with
    | rtp =>
      cases asked <;> cases h
      · exact ⟨_, rfl, .inr rfl⟩
      · exact ⟨_, rfl, .inl rfl⟩
    | rtcp =>
      cases asked <;> cases h
      · exact ⟨_, rfl, .inl rfl⟩
      · exact ⟨_, rfl, .inr rfl⟩

theorem rtp?_modify_of_sessions? {kind : PacketKind} {pair rtp : SessionPair} (hr : a.rtp? = some rtp)
    (hp : a.sessions? kind = some pair) (f : SessionPair → SessionPair) :
    ((a.modify f kind).rtp? = some (f rtp) ∧ pair = rtp) ∨ ((a.modify f kind).rtp? = some rtp ∧ kind = .rtcp) := by
  cases a with
  | unconfigured => cases hr
  | rtpActive =>
    cases hr
    cases hp
    exact .inl ⟨rfl, rfl⟩
  | rtpAndRtcpActive =>
    cases hr
    cases kind with
    | rtp =>
      cases hp
      exact .inl ⟨rfl, rfl⟩
    | rtcp => exact .inr ⟨rfl, rfl⟩

def Keyed (a : Activation) : Prop := ∀ kind pair, a.sessions? kind = some pair → pair.Keyed

theorem Keyed.modify (ha : a.Keyed) {f : SessionPair → SessionPair} (hf : ∀ pair, pair.Keyed → (f pair).Keyed)
    (kind : PacketKind) : (a.modify f kind).Keyed := by
  intro asked pair hp
  obtain ⟨before, hb, rfl | rfl⟩ := exists_sessions?_of_modify hp
  · exact ha asked pair hb
  · exact hf before (ha asked before hb)

theorem Keyed.modify_send (ha : a.Keyed) {kind : PacketKind} {pair : SessionPair}
    (hp : a.sessions? kind = some pair) {s : Session} (hs : pair.send.SameSetup s) :
    (a.modify (fun pair => { pair with send := s }) kind).Keyed := by
  obtain ⟨suite, material, hk⟩ := (ha kind pair hp).send
  apply ha.modify
  exact fun other ho => ⟨⟨suite, material, hk.of_sameSetup hs⟩, ho.recv⟩

theorem Keyed.modify_recv (ha : a.Keyed) {kind : PacketKind} {pair : SessionPair}
    (hp : a.sessions? kind = some pair) {s : Session} (hs : pair.recv.SameSetup s) :
    (a.modify (fun pair => { pair with recv := s }) kind).Keyed := by
  obtain ⟨suite, material, hk⟩ := (ha kind pair hp).recv
  apply ha.modify
  exact fun other ho => ⟨ho.send, ⟨suite, material, hk.of_sameSetup hs⟩⟩

theorem keyed_unconfigured : unconfigured.Keyed := by
  intro kind pair h
  cases h

theorem keyed_rtpActive {rtp : SessionPair} (hr : rtp.Keyed) : (rtpActive rtp).Keyed := by
  intro kind pair h
  cases h
  exact hr

theorem keyed_rtpAndRtcpActive {rtp rtcp : SessionPair} (hr : rtp.Keyed) (hc : rtcp.Keyed) :
    (rtpAndRtcpActive rtp rtcp).Keyed := by
  intro kind pair h
  cases kind with
  | rtp =>
    cases h
    exact hr
  | rtcp =>
    cases h
    exact hc

end Activation

namespace Transport

variable {τ : Type}

inductive Operation (τ : Type) where
  | setRtpParams (params : KeyParams)
  | setRtcpParams (params : KeyParams)
  | resetParams
  | setEncryptedIds (source : ContentSource) (ids : List UInt8)
  | enableExternalAuth
  | setSendTimeId (id : Option UInt8)
  | setRtcpMux (on : Bool)
  | modifyCarrier (f : τ → τ)
  | send (kind : PacketKind) (packet : PacketBuffer) (options : PacketOptions) (flags : UInt32)
  | receive (kind : PacketKind) (packet : PacketBuffer) (arrival : Option Instant)
  | ready (on : Bool)
  | observe
  | subscribe
  | remove (id : ListenerId)
  | drain (receiver : ReceiverId)
  | dropReceiver (receiver : ReceiverId)

variable [Carrier τ]

def perform (t : Transport τ) : Operation τ → Transport τ
  | .setRtpParams params => (t.setRtpParams params).state
  | .setRtcpParams params => (t.setRtcpParams params).state
  | .resetParams => t.resetParams.1
  | .setEncryptedIds source ids => (t.setEncryptedIds source ids).1
  | .enableExternalAuth => t.enableExternalAuth.toOption.getD t
  | .setSendTimeId id => t.setSendTimeId id
  | .setRtcpMux on => t.setRtcpMux on
  | .modifyCarrier f => t.modifyCarrier f
  | .send kind packet options flags => (t.send kind packet options flags).carrier
  | .receive kind packet arrival => (t.receive kind packet arrival).state
  | .ready on => (t.ready on).state
  | .observe => t.modifyListeners fun l => l.observe.1
  | .subscribe => t.modifyListeners fun l => l.subscribe.1
  | .remove id => t.modifyListeners fun l => (l.remove id).1
  | .drain receiver => t.modifyListeners fun l => (l.drain receiver).1
  | .dropReceiver receiver => t.modifyListeners fun l => l.dropReceiver receiver

/-- The transport after some operations, which are listed with the latest first. -/
def after (t : Transport τ) : List (Operation τ) → Transport τ
  | [] => t
  | operation :: past => (t.after past).perform operation

def Reachable (t : Transport τ) : Prop :=
  ∃ carrier config operations, t = (ofConfig carrier config).1.after operations

section

omit [Carrier τ]

theorem role_freshSessions (t : Transport τ) (kind : PacketKind) :
    (t.freshSessions kind).send.role = .idle ∧ (t.freshSessions kind).recv.role = .idle := by
  cases kind <;> exact ⟨rfl, rfl⟩

def pairOf (t : Transport τ) (kind : PacketKind) (send recv : SessionCrypto) : SessionPair :=
  let fresh := t.freshSessions kind
  ⟨{ fresh.send with role := .sending { crypto := send } }, { fresh.recv with role := .receiving { crypto := recv } }⟩

theorem createSessions_of_ofMaterial (t : Transport τ) (kind : PacketKind) {params : KeyParams}
    {send recv : SessionCrypto} (hs : SessionCrypto.ofMaterial params.sendSuite params.sendMaterial = .ok send)
    (hr : SessionCrypto.ofMaterial params.recvSuite params.recvMaterial = .ok recv) :
    t.createSessions kind params = (.ok (t.pairOf kind send recv),
      [.sessionConfigured .send params.sendSuite, .sessionConfigured .recv params.recvSuite]) := by
  obtain ⟨hsend, hrecv⟩ := t.role_freshSessions kind
  simp only [createSessions, Session.configure_of_idle hsend, Session.configure_of_idle hrecv, hs, hr]
  rfl

theorem exists_of_createSessions {t : Transport τ} {kind : PacketKind} {params : KeyParams} {pair : SessionPair}
    {notices : List Notice} (h : t.createSessions kind params = (.ok pair, notices)) :
    ∃ send recv, SessionCrypto.ofMaterial params.sendSuite params.sendMaterial = .ok send ∧
      SessionCrypto.ofMaterial params.recvSuite params.recvMaterial = .ok recv ∧
      pair = t.pairOf kind send recv := by
  obtain ⟨hsend, hrecv⟩ := t.role_freshSessions kind
  cases hs : SessionCrypto.ofMaterial params.sendSuite params.sendMaterial with
  | error e =>
    simp only [createSessions, Session.configure_of_idle hsend, hs] at h
    cases h
  | ok send =>
    cases hr : SessionCrypto.ofMaterial params.recvSuite params.recvMaterial with
    | error e =>
      simp only [createSessions, Session.configure_of_idle hsend, Session.configure_of_idle hrecv, hs, hr] at h
      cases h
    | ok recv =>
      rw [createSessions_of_ofMaterial t kind hs hr] at h
      cases h
      exact ⟨send, recv, rfl, rfl, rfl⟩

theorem keyed_of_createSessions {t : Transport τ} {kind : PacketKind} {params : KeyParams} {pair : SessionPair}
    {notices : List Notice} (h : t.createSessions kind params = (.ok pair, notices)) : pair.Keyed := by
  obtain ⟨send, recv, hs, hr, rfl⟩ := exists_of_createSessions h
  exact ⟨⟨_, _, ⟨rfl, send, hs, rfl⟩⟩, ⟨_, _, ⟨rfl, recv, hr, rfl⟩⟩⟩

theorem activation_setRtpParams {t : Transport τ} {params : KeyParams} {pair : SessionPair} {notices : List Notice}
    (h : t.createSessions .rtp params = (.ok pair, notices)) :
    ∃ activation, (t.setRtpParams params).state = { t with activation } ∧ activation.rtp? = some pair := by
  rw [setRtpParams, h]
  refine ⟨_, rfl, ?_⟩
  split <;> rfl

theorem keyed_setRtpParams {t : Transport τ} (ht : t.activation.Keyed) (params : KeyParams) :
    (t.setRtpParams params).state.activation.Keyed := by
  rw [setRtpParams]
  split
  · rename_i rtp notices hc
    have hk := keyed_of_createSessions hc
    dsimp only
    split
    · rename_i _ rtcp ha
      apply Activation.keyed_rtpAndRtcpActive hk
      exact ht .rtcp rtcp (by rw [ha]; rfl)
    · exact Activation.keyed_rtpActive hk
  · exact Activation.keyed_unconfigured

theorem keyed_setRtcpParams {t : Transport τ} (ht : t.activation.Keyed) (params : KeyParams) :
    (t.setRtcpParams params).state.activation.Keyed := by
  rw [setRtcpParams]
  split
  · exact ht
  · exact ht
  · rename_i rtp ha
    split
    · rename_i rtcp notices hc
      apply Activation.keyed_rtpAndRtcpActive
      · exact ht .rtp rtp (by rw [ha]; rfl)
      · exact keyed_of_createSessions hc
    · exact ht

theorem exists_setRtpParams (t : Transport τ) (params : KeyParams) :
    ∃ activation, (t.setRtpParams params).state = { t with activation } := by
  rw [setRtpParams]
  split <;> exact ⟨_, rfl⟩

theorem exists_setRtcpParams (t : Transport τ) (params : KeyParams) :
    ∃ activation, (t.setRtcpParams params).state = { t with activation } := by
  rw [setRtcpParams]
  split
  · exact ⟨_, rfl⟩
  · exact ⟨_, rfl⟩
  · split <;> exact ⟨_, rfl⟩

theorem keyed_setEncryptedIds {t : Transport τ} (ht : t.activation.Keyed) (source : ContentSource)
    (ids : List UInt8) : (t.setEncryptedIds source ids).1.activation.Keyed := by
  cases source with
  | own =>
    apply ht.modify
    rintro pair ⟨hs, suite, material, hr⟩
    exact ⟨hs, ⟨suite, material, ⟨hr.direction, hr.crypto⟩⟩⟩
  | peer =>
    apply ht.modify
    rintro pair ⟨⟨suite, material, hs⟩, hr⟩
    exact ⟨⟨suite, material, ⟨hs.direction, hs.crypto⟩⟩, hr⟩

theorem exists_enableExternalAuth (t : Transport τ) :
    ∃ externalAuth, t.enableExternalAuth.toOption.getD t = { t with externalAuth } := by
  unfold enableExternalAuth
  split
  · exact ⟨t.externalAuth, rfl⟩
  · exact ⟨true, rfl⟩

theorem session_ofReply {α : Type} (packet : PacketBuffer) (reply : PacketReply Session α) (length : α → Nat)
    (options : α → PacketOptions) : (Protected.ofReply packet reply length options).session = reply.state := by
  unfold Protected.ofReply
  dsimp only
  split
  · rfl
  · split <;> rfl

theorem sameSetup_protectWith (session : Session) (kind : PacketKind) (sendTimeId : Option UInt8)
    (packet : PacketBuffer) (options : PacketOptions) :
    session.SameSetup (protectWith session kind sendTimeId packet options).session := by
  unfold protectWith
  dsimp only
  split
  · exact .refl _
  · cases kind with
    | rtp =>
      dsimp only
      unfold protectRtp
      split
      · split
        · exact .refl _
        · rw [session_ofReply]
          exact session.sameSetup_protectRtp _ _
      · rw [session_ofReply]
        exact session.sameSetup_protectRtp _ _
    | rtcp =>
      dsimp only
      rw [session_ofReply]
      exact session.sameSetup_protectRtcp _ _

theorem sameSetup_unprotectWith (session : Session) (kind : PacketKind) (packet : PacketBuffer) :
    session.SameSetup (unprotectWith session kind packet).session := by
  have hstate (reply : PacketReply Session Nat) : (Unprotected.ofReply packet reply).session = reply.state := by
    unfold Unprotected.ofReply
    dsimp only
    split
    · rfl
    · split <;> rfl
  cases kind with
  | rtp =>
    rw [unprotectWith, hstate]
    exact session.sameSetup_unprotectRtp _
  | rtcp =>
    rw [unprotectWith, hstate]
    exact session.sameSetup_unprotectRtcp _

theorem receive_cases (t : Transport τ) (kind : PacketKind) (packet : PacketBuffer) (arrival : Option Instant) :
    (t.activation.sessions? kind = none ∧ t.receive kind packet arrival =
      { outcome := .error .inactive
        state := { t with stats := t.stats.countInactive }
        notices := [.receiveInactive t.contentName kind] }) ∨
    ∃ pair, t.activation.sessions? kind = some pair ∧
      let u := unprotectWith pair.recv kind packet
      let activation := t.activation.modify (fun pair => { pair with recv := u.session }) kind
      (∃ e, u.outcome = .error e ∧ t.receive kind packet arrival =
        { outcome := .error e
          state := { t with activation, stats := t.stats.countUnprotectFailure }
          notices := u.notices ++ [unprotectFailure t.contentName kind u.packet.packet
            t.stats.countUnprotectFailure.unprotectFailures e] }) ∨
      (u.outcome = .ok () ∧ t.receive kind packet arrival =
        emit { t with activation, stats := t.stats.countUnprotected kind u.packet.length }
          (.packetReceived kind u.packet.packet arrival) u.notices) := by
  cases hp : t.activation.sessions? kind with
  | none =>
    left
    simp only [receive, hp, and_self]
  | some pair =>
    refine .inr ⟨pair, rfl, ?_⟩
    cases ho : (unprotectWith pair.recv kind packet).outcome with
    | error e => exact .inl ⟨e, ho, by simp only [receive, hp, ho]⟩
    | ok => exact .inr ⟨ho, by simp only [receive, hp, ho]⟩

theorem keyed_receive {t : Transport τ} (ht : t.activation.Keyed) (kind : PacketKind) (packet : PacketBuffer)
    (arrival : Option Instant) : (t.receive kind packet arrival).state.activation.Keyed := by
  obtain ⟨-, h⟩ | ⟨pair, hp, ⟨e, -, h⟩ | ⟨-, h⟩⟩ := t.receive_cases kind packet arrival <;> rw [h]
  · exact ht
  · exact ht.modify_recv hp (sameSetup_unprotectWith pair.recv kind packet)
  · exact ht.modify_recv hp (sameSetup_unprotectWith pair.recv kind packet)

end

theorem exists_send {t : Transport τ} {kind : PacketKind} {pair : SessionPair}
    (hp : t.activation.sessions? kind = some pair) (packet : PacketBuffer) (options : PacketOptions) (flags : UInt32) :
    ∃ carrier stats, (t.send kind packet options flags).carrier =
      { t with
        activation := t.activation.modify
          (fun other => { other with send := (protectWith pair.send kind t.sendTimeId packet options).session }) kind
        carrier
        stats } := by
  unfold send
  rw [hp]
  dsimp only
  split
  · exact ⟨_, _, rfl⟩
  · split <;> exact ⟨_, _, rfl⟩

theorem send_of_inactive {t : Transport τ} {kind : PacketKind} (hp : t.activation.sessions? kind = none)
    (packet : PacketBuffer) (options : PacketOptions) (flags : UInt32) :
    t.send kind packet options flags =
      ⟨.error .inactive, packet, { t with stats := t.stats.countInactive }, [.sendInactive t.contentName kind]⟩ := by
  simp only [send, hp]

theorem keyed_send {t : Transport τ} (ht : t.activation.Keyed) (kind : PacketKind) (packet : PacketBuffer)
    (options : PacketOptions) (flags : UInt32) :
    (t.send kind packet options flags).carrier.activation.Keyed := by
  cases hp : t.activation.sessions? kind with
  | none =>
    rw [send_of_inactive hp]
    exact ht
  | some pair =>
    obtain ⟨carrier, stats, hs⟩ := exists_send hp packet options flags
    rw [hs]
    exact ht.modify_send hp (sameSetup_protectWith pair.send kind t.sendTimeId packet options)

theorem keyed_perform {t : Transport τ} (ht : t.activation.Keyed) (operation : Operation τ) :
    (t.perform operation).activation.Keyed := by
  cases operation with
  | setRtpParams params => exact keyed_setRtpParams ht params
  | setRtcpParams params => exact keyed_setRtcpParams ht params
  | resetParams => exact Activation.keyed_unconfigured
  | setEncryptedIds source ids => exact keyed_setEncryptedIds ht source ids
  | enableExternalAuth =>
    obtain ⟨externalAuth, he⟩ := t.exists_enableExternalAuth
    rw [perform, he]
    exact ht
  | send kind packet options flags => exact keyed_send ht kind packet options flags
  | receive kind packet arrival => exact keyed_receive ht kind packet arrival
  | setSendTimeId id => exact ht
  | setRtcpMux on => exact ht
  | modifyCarrier f => exact ht
  | ready on => exact ht
  | observe => exact ht
  | subscribe => exact ht
  | remove id => exact ht
  | drain receiver => exact ht
  | dropReceiver receiver => exact ht

theorem keyed_after {t : Transport τ} (ht : t.activation.Keyed) (operations : List (Operation τ)) :
    (t.after operations).activation.Keyed := by
  induction operations with
  | nil => exact ht
  | cons operation past ih => exact keyed_perform ih operation

theorem Reachable.keyed {t : Transport τ} (ht : t.Reachable) : t.activation.Keyed := by
  obtain ⟨carrier, config, operations, rfl⟩ := ht
  exact keyed_after Activation.keyed_unconfigured operations

end Transport

end SecureRtp
