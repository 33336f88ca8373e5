import SecureRtp.Proofs.Transport.Run
import SecureRtp.Transport.Recorder

namespace SecureRtp

theorem SessionCrypto.ofMaterial_of_ne {suite : Suite} {material : Bytes}
    (h : material.length ≠ suite.materialLength) :
    ofMaterial suite material = .error (.invalidKey (.materialLength suite material.length)) := by
  rw [ofMaterial, MasterKey.ofMaterial, if_neg h]
  rfl

namespace KeyParams

structure Fit (params : KeyParams) : Prop where
  send : params.sendMaterial.length = params.sendSuite.materialLength
  recv : params.recvMaterial.length = params.recvSuite.materialLength

instance (params : KeyParams) : Decidable params.Fit :=
  decidable_of_iff (params.sendMaterial.length = params.sendSuite.materialLength ∧
    params.recvMaterial.length = params.recvSuite.materialLength)
    ⟨fun h => ⟨h.1, h.2⟩, fun h => ⟨h.send, h.recv⟩⟩

structure Gives (params : KeyParams) (send recv : SessionCrypto) : Prop where
  send : SessionCrypto.ofMaterial params.sendSuite params.sendMaterial = .ok send
  recv : SessionCrypto.ofMaterial params.recvSuite params.recvMaterial = .ok recv

theorem Fit.gives {params : KeyParams} (h : params.Fit) : ∃ send recv, params.Gives send recv := by
  obtain ⟨send, hs, -⟩ := SessionCrypto.fits_ofMaterial h.send
  obtain ⟨recv, hr, -⟩ := SessionCrypto.fits_ofMaterial h.recv
  exact ⟨send, recv, hs, hr⟩

end KeyParams

def SessionPair.settings (pair : SessionPair) : Settings × Settings := (pair.send.settings, pair.recv.settings)

namespace Activation

def withRtp (a : Activation) (rtp : SessionPair) : Activation :=
  match a with
  | rtpAndRtcpActive _ rtcp => rtpAndRtcpActive rtp rtcp
  | _ => rtpActive rtp

def SetTo (a : Activation) (settings : PacketKind → Settings × Settings) : Prop :=
  match a with
  | unconfigured => True
  | rtpActive rtp => rtp.settings = settings .rtp
  | rtpAndRtcpActive rtp rtcp => rtp.settings = settings .rtp ∧ rtcp.settings = settings .rtcp

theorem SetTo.modify {a : Activation} {settings : PacketKind → Settings × Settings} (ha : a.SetTo settings)
    {f : SessionPair → SessionPair} {kind : PacketKind}
    (hf : ∀ pair, a.sessions? kind = some pair → (f pair).settings = pair.settings) :
    (a.modify f kind).SetTo settings := by
  cases a with
  | unconfigured => trivial
  | rtpActive rtp => exact (hf rtp rfl).trans ha
  | rtpAndRtcpActive rtp rtcp =>
    obtain ⟨hr, hc⟩ := ha
    cases kind with
    | rtp => exact ⟨(hf rtp rfl).trans hr, hc⟩
    | rtcp => exact ⟨hr, (hf rtcp rfl).trans hc⟩

theorem SetTo.modify_rtp {a : Activation} {before after : PacketKind → Settings × Settings} (ha : a.SetTo before)
    {f : SessionPair → SessionPair} (hf : ∀ pair, pair.settings = before .rtp → (f pair).settings = after .rtp)
    (hc : before .rtcp = after .rtcp) : (a.modify f .rtp).SetTo after := by
  cases a with
  | unconfigured => trivial
  | rtpActive rtp => exact hf rtp ha
  | rtpAndRtcpActive rtp rtcp => exact ⟨hf rtp ha.1, ha.2.trans hc⟩

@[simp] theorem describe_modify (a : Activation) (f : SessionPair → SessionPair) (kind : PacketKind) :
    (a.modify f kind).describe = a.describe := by
  cases a with
  | unconfigured => rfl
  | rtpActive rtp => rfl
  | rtpAndRtcpActive rtp rtcp => cases kind <;> rfl

end Activation

namespace Transport

variable {τ : Type}

theorem createSessions_of_gives (t : Transport τ) (kind : PacketKind) {params : KeyParams}
    {send recv : SessionCrypto} (h : params.Gives send recv) :
    t.createSessions kind params = (.ok (t.pairOf kind send recv),
      [.sessionConfigured .send params.sendSuite, .sessionConfigured .recv params.recvSuite]) :=
  t.createSessions_of_ofMaterial kind h.send h.recv

theorem createSessions_of_not_fit (t : Transport τ) (kind : PacketKind) {params : KeyParams} (h : ¬params.Fit) :
    ∃ fault notices, t.createSessions kind params = (.error (.invalidKey fault), notices) := by
  obtain ⟨hsend, hrecv⟩ := t.role_freshSessions kind
  by_cases hs : params.sendMaterial.length = params.sendSuite.materialLength
  · have hr : params.recvMaterial.length ≠ params.recvSuite.materialLength := fun hr => h ⟨hs, hr⟩
    obtain ⟨send, hof, -⟩ := SessionCrypto.fits_ofMaterial hs
    simp only [createSessions, Session.configure_of_idle hsend, Session.configure_of_idle hrecv, hof,
      SessionCrypto.ofMaterial_of_ne hr]
    exact ⟨_, _, rfl⟩
  · simp only [createSessions, Session.configure_of_idle hsend, SessionCrypto.ofMaterial_of_ne hs]
    exact ⟨_, _, rfl⟩

section

variable {t : Transport τ} {params : KeyParams}

theorem setRtpParams_of_gives {send recv : SessionCrypto} (h : params.Gives send recv) :
    (t.setRtpParams params).outcome = .ok () ∧
      (t.setRtpParams params).state = { t with activation := t.activation.withRtp (t.pairOf .rtp send recv) } := by
  rw [setRtpParams, createSessions_of_gives t .rtp h]
  exact ⟨rfl, rfl⟩

theorem setRtpParams_of_not_fit (h : ¬params.Fit) :
    (∃ fault, (t.setRtpParams params).outcome = .error (.invalidKey fault)) ∧
      (t.setRtpParams params).state = { t with activation := .unconfigured } := by
  obtain ⟨fault, notices, hc⟩ := t.createSessions_of_not_fit .rtp h
  rw [setRtpParams, hc]
  exact ⟨⟨fault, rfl⟩, rfl⟩

theorem setRtcpParams_of_unconfigured (ha : t.activation = .unconfigured) (params : KeyParams) :
    (t.setRtcpParams params).outcome = .error .inactive ∧ (t.setRtcpParams params).state = t := by
  constructor
  · simp only [setRtcpParams, ha]
  · simp only [setRtcpParams, ha]

theorem setRtcpParams_of_rtpAndRtcpActive {rtp rtcp : SessionPair} (ha : t.activation = .rtpAndRtcpActive rtp rtcp)
    (params : KeyParams) :
    (t.setRtcpParams params).outcome = .error (.conflict .controlParamsSet) ∧ (t.setRtcpParams params).state = t := by
  constructor
  · simp only [setRtcpParams, ha]
  · simp only [setRtcpParams, ha]

theorem setRtcpParams_of_gives {rtp : SessionPair} (ha : t.activation = .rtpActive rtp) {send recv : SessionCrypto}
    (h : params.Gives send recv) :
    (t.setRtcpParams params).outcome = .ok () ∧
      (t.setRtcpParams params).state = { t with activation := .rtpAndRtcpActive rtp (t.pairOf .rtcp send recv) } := by
  have hcreate := createSessions_of_gives t .rtcp h
  constructor
  · simp only [setRtcpParams, ha, hcreate]
  · simp only [setRtcpParams, ha, hcreate]

theorem setRtcpParams_of_not_fit {rtp : SessionPair} (ha : t.activation = .rtpActive rtp) (h : ¬params.Fit) :
    (∃ fault, (t.setRtcpParams params).outcome = .error (.invalidKey fault)) ∧ (t.setRtcpParams params).state = t := by
  obtain ⟨fault, notices, hc⟩ := t.createSessions_of_not_fit .rtcp h
  constructor
  · simp only [setRtcpParams, ha, hc]
    exact ⟨fault, rfl⟩
  · simp only [setRtcpParams, ha, hc]

end

def settings (t : Transport τ) : PacketKind → Settings × Settings
  | .rtp => (⟨t.replayWindow, t.sendEncryptedIds, t.externalAuth⟩, ⟨t.replayWindow, t.recvEncryptedIds, false⟩)
  | .rtcp => (⟨t.replayWindow, [], false⟩, ⟨t.replayWindow, [], false⟩)

def Configured (t : Transport τ) : Prop := t.activation.SetTo t.settings

section

variable {t : Transport τ}

theorem settings_pairOf (t : Transport τ) (kind : PacketKind) (send recv : SessionCrypto) :
    (t.pairOf kind send recv).settings = t.settings kind := by
  cases kind <;> rfl

theorem configured_of_inactive (h : t.isActive = false) : t.Configured := by
  unfold isActive at h
  unfold Configured
  cases ha : t.activation with
  | unconfigured => trivial
  | rtpActive rtp =>
    rw [ha] at h
    cases h
  | rtpAndRtcpActive rtp rtcp =>
    rw [ha] at h
    cases h

theorem Configured.setRtpParams (ht : t.Configured) (params : KeyParams) :
    (t.setRtpParams params).state.Configured := by
  by_cases hp : params.Fit
  · obtain ⟨send, recv, hg⟩ := hp.gives
    have hnew := t.settings_pairOf .rtp send recv
    rw [(setRtpParams_of_gives hg).2]
    unfold Configured at ht ⊢
    cases ha : t.activation with
    | unconfigured => exact hnew
    | rtpActive rtp => exact hnew
    | rtpAndRtcpActive rtp rtcp =>
      rw [ha] at ht
      exact ⟨hnew, ht.2⟩
  · rw [(setRtpParams_of_not_fit hp).2]
    trivial

theorem Configured.setRtcpParams (ht : t.Configured) (params : KeyParams) :
    (t.setRtcpParams params).state.Configured := by
  cases ha : t.activation with
  | unconfigured =>
    rw [(setRtcpParams_of_unconfigured ha params).2]
    exact ht
  | rtpAndRtcpActive rtp rtcp =>
    rw [(setRtcpParams_of_rtpAndRtcpActive ha params).2]
    exact ht
  | rtpActive rtp =>
    by_cases hp : params.Fit
    · obtain ⟨send, recv, hg⟩ := hp.gives
      rw [(setRtcpParams_of_gives ha hg).2]
      unfold Configured at ht
      rw [ha] at ht
      exact ⟨ht, t.settings_pairOf .rtcp send recv⟩
    · rw [(setRtcpParams_of_not_fit ha hp).2]
      exact ht

theorem Configured.setEncryptedIds (ht : t.Configured) (source : ContentSource) (ids : List UInt8) :
    (t.setEncryptedIds source ids).1.Configured := by
  cases source with
  | own =>
    apply ht.modify_rtp
    · intro pair hp
      obtain ⟨hsend, hrecv⟩ := Prod.mk.inj hp
      apply Prod.ext
      · exact hsend
      · exact congrArg (fun s : Settings => { s with encryptedIds := ids }) hrecv
    · rfl
  | peer =>
    apply ht.modify_rtp
    · intro pair hp
      obtain ⟨hsend, hrecv⟩ := Prod.mk.inj hp
      apply Prod.ext
      · exact congrArg (fun s : Settings => { s with encryptedIds := ids }) hsend
      · exact hrecv
    · rfl

theorem Configured.receive (ht : t.Configured) (kind : PacketKind) (packet : PacketBuffer)
    (arrival : Option Instant) : (t.receive kind packet arrival).state.Configured := by
  cases hp : t.activation.sessions? kind with
  | none =>
    simp only [Transport.receive, hp]
    exact ht
  | some pair =>
    have hmodify : (t.activation.modify
        (fun other => { other with recv := (unprotectWith pair.recv kind packet).session }) kind).SetTo t.settings := by
      apply ht.modify
      intro other ho
      obtain rfl : pair = other := Option.some.inj (hp.symm.trans ho)
      exact Prod.ext rfl (sameSetup_unprotectWith pair.recv kind packet).settings
    unfold Transport.receive
    rw [hp]
    dsimp only
    split
    · exact hmodify
    · exact hmodify

theorem enableExternalAuth_of_active (h : t.isActive = true) :
    t.enableExternalAuth = .error .externalAuthWhileActive := if_pos h

theorem enableExternalAuth_of_inactive (h : t.isActive = false) :
    t.enableExternalAuth = .ok { t with externalAuth := true } := by
  rw [enableExternalAuth, h]
  rfl

theorem Configured.enableExternalAuth (ht : t.Configured) : (t.enableExternalAuth.toOption.getD t).Configured := by
  cases ha : t.isActive with
  | true =>
    rw [enableExternalAuth_of_active ha]
    exact ht
  | false =>
    rw [enableExternalAuth_of_inactive ha]
    exact configured_of_inactive ha

variable [Carrier τ]

theorem Configured.send (ht : t.Configured) (kind : PacketKind) (packet : PacketBuffer) (options : PacketOptions)
    (flags : UInt32) : (t.send kind packet options flags).carrier.Configured := by
  cases hp : t.activation.sessions? kind with
  | none =>
    rw [send_of_inactive hp]
    exact ht
  | some pair =>
    obtain ⟨carrier, stats, hs⟩ := exists_send hp packet options flags
    rw [hs]
    apply ht.modify
    intro other ho
    obtain rfl : pair = other := Option.some.inj (hp.symm.trans ho)
    exact Prod.ext (sameSetup_protectWith pair.send kind t.sendTimeId packet options).settings rfl

theorem configured_perform (ht : t.Configured) (operation : Operation τ) : (t.perform operation).Configured := by
  cases operation with
  | setRtpParams params => exact ht.setRtpParams params
  | setRtcpParams params => exact ht.setRtcpParams params
  | resetParams => exact configured_of_inactive rfl
  | setEncryptedIds source ids => exact ht.setEncryptedIds source ids
  | enableExternalAuth => exact ht.enableExternalAuth
  | send kind packet options flags => exact ht.send kind packet options flags
  | receive kind packet arrival => exact ht.receive kind packet arrival
  | setSendTimeId id => exact ht
  | setRtcpMux on => exact ht
  | modifyCarrier f => exact ht
  | ready on => exact ht
  | observe => exact ht
  | subscribe => exact ht
  | remove id => exact ht
  | drain receiver => exact ht
  | dropReceiver receiver => exact ht

theorem configured_after (ht : t.Configured) (operations : List (Operation τ)) :
    (t.after operations).Configured := by
  induction operations with
  | nil => exact ht
  | cons operation past ih => exact configured_perform ih operation

theorem Reachable.configured (ht : t.Reachable) : t.Configured := by
  obtain ⟨carrier, config, operations, rfl⟩ := ht
  exact configured_after (configured_of_inactive rfl) operations

def Operation.setsKeys : Operation τ → Bool
  | .setRtpParams _ => true
  | .setRtcpParams _ => true
  | .resetParams => true
  | _ => false

theorem describe_perform (t : Transport τ) {operation : Operation τ} (h : operation.setsKeys = false) :
    (t.perform operation).activation.describe = t.activation.describe := by
  cases operation with
  | setRtpParams params => cases h
  | setRtcpParams params => cases h
  | resetParams => cases h
  | setEncryptedIds source ids => cases source <;> exact Activation.describe_modify _ _ _
  | enableExternalAuth =>
    obtain ⟨externalAuth, he⟩ := t.exists_enableExternalAuth
    rw [perform, he]
  | send kind packet options flags =>
    cases hp : t.activation.sessions? kind with
    | none => rw [perform, send_of_inactive hp]
    | some pair =>
      obtain ⟨carrier, stats, hs⟩ := exists_send hp packet options flags
      rw [perform, hs, Activation.describe_modify]
  | receive kind packet arrival =>
    rw [perform, Transport.receive]
    split
    · rfl
    · dsimp only
      split <;> exact Activation.describe_modify _ _ _
  | setSendTimeId id => rfl
  | setRtcpMux on => rfl
  | modifyCarrier f => rfl
  | ready on => rfl
  | observe => rfl
  | subscribe => rfl
  | remove id => rfl
  | drain receiver => rfl
  | dropReceiver receiver => rfl

/-- How the sessions of a transport come and go. Those for media are always new ones, and those for control alone stay
what they are until the transport has no keys at all. -/
structure ActivationRules (t : Transport τ) : Prop where
  rtpParams : ∀ params : KeyParams, params.Fit → ∃ send recv, params.Gives send recv ∧
    (t.setRtpParams params).outcome = .ok () ∧
    (t.setRtpParams params).state = { t with activation := t.activation.withRtp (t.pairOf .rtp send recv) }
  rtpParamsRefused : ∀ params : KeyParams, ¬params.Fit →
    (∃ fault, (t.setRtpParams params).outcome = .error (.invalidKey fault)) ∧
      (t.setRtpParams params).state = { t with activation := .unconfigured }
  rtcpParams : ∀ (params : KeyParams) rtp, t.activation = .rtpActive rtp → params.Fit →
    ∃ send recv, params.Gives send recv ∧ (t.setRtcpParams params).outcome = .ok () ∧
      (t.setRtcpParams params).state = { t with activation := .rtpAndRtcpActive rtp (t.pairOf .rtcp send recv) }
  rtcpParamsInactive : ∀ params : KeyParams, t.activation = .unconfigured →
    (t.setRtcpParams params).outcome = .error .inactive ∧ (t.setRtcpParams params).state = t
  rtcpParamsAgain : ∀ (params : KeyParams) rtp rtcp, t.activation = .rtpAndRtcpActive rtp rtcp →
    (t.setRtcpParams params).outcome = .error (.conflict .controlParamsSet) ∧ (t.setRtcpParams params).state = t
  rtcpParamsRefused : ∀ (params : KeyParams) rtp, t.activation = .rtpActive rtp → ¬params.Fit →
    (∃ fault, (t.setRtcpParams params).outcome = .error (.invalidKey fault)) ∧ (t.setRtcpParams params).state = t
  reset : t.resetParams.1 = { t with activation := .unconfigured }
  externalAuthRefused : t.isActive = true →
    t.enableExternalAuth = .error .externalAuthWhileActive ∧ t.perform .enableExternalAuth = t
  externalAuth : t.isActive = false → t.enableExternalAuth = .ok { t with externalAuth := true }
  others : ∀ operation : Operation τ, operation.setsKeys = false →
    (t.perform operation).activation.describe = t.activation.describe
  configured : t.Configured

theorem activationRules_of_reachable (ht : t.Reachable) : t.ActivationRules where
  rtpParams params hp := by
    obtain ⟨send, recv, hg⟩ := hp.gives
    exact ⟨send, recv, hg, setRtpParams_of_gives hg⟩
  rtpParamsRefused params hp := setRtpParams_of_not_fit hp
  rtcpParams params rtp ha hp := by
    obtain ⟨send, recv, hg⟩ := hp.gives
    exact ⟨send, recv, hg, setRtcpParams_of_gives ha hg⟩
  rtcpParamsInactive params ha := setRtcpParams_of_unconfigured ha params
  rtcpParamsAgain params rtp rtcp ha := setRtcpParams_of_rtpAndRtcpActive ha params
  rtcpParamsRefused params rtp ha hp := setRtcpParams_of_not_fit ha hp
  reset := rfl
  externalAuthRefused ha := by
    rw [perform, enableExternalAuth_of_active ha]
    exact ⟨rfl, rfl⟩
  externalAuth ha := enableExternalAuth_of_inactive ha
  others operation h := t.describe_perform h
  configured := ht.configured

theorem activationRules_rtpAndRtcpActive :
    let params : KeyParams := ⟨.aesCm128HmacSha1_80, zeros 30, .aesCm128HmacSha1_80, zeros 30⟩
    let t : Transport Recorder :=
      (ofConfig {} {}).1.after [.setRtcpParams params, .setRtpParams params, .setEncryptedIds .peer [5]]
    t.Reachable ∧ t.activation.describe = "RtpAndRtcpActive" ∧ t.ActivationRules := by
  intro params t
  have ht : t.Reachable := ⟨{}, {}, _, rfl⟩
  refine ⟨ht, ?_, activationRules_of_reachable ht⟩
  obtain ⟨send, recv, hg⟩ := KeyParams.Fit.gives (show params.Fit from ⟨rfl, rfl⟩)
  let fresh : Transport Recorder := (ofConfig {} {}).1.after [.setEncryptedIds .peer [5]]
  have hrtp : (fresh.setRtpParams params).state.activation = .rtpActive (fresh.pairOf .rtp send recv) :=
    congrArg activation (setRtpParams_of_gives hg).2
  have hrtcp := (setRtcpParams_of_gives hrtp hg).2
  exact congrArg (fun u : Transport Recorder => u.activation.describe) hrtcp

end

end Transport

end SecureRtp
