import SecureRtp.Proofs.Session.SendTime
import SecureRtp.Proofs.Transport.Sending
/-!
A transport that leaves the tag of media packets to a later layer hands down what that layer needs for it. The packet
that layer makes is the one that a transport with the same past would have sent, had the send time been in it.
-/
namespace SecureRtp

namespace Sender

def mediaOnly (s : Sender) : Sender := { s with controlIndices := {} }

def afterMedia (s : Sender) (packet : PacketBuffer) : Sender :=
  match Rtp.Header.read? packet.packet with
  | some h =>
    if s.crypto.suite.rtpTagLength ≤ packet.headroom then s.recordRtp h.ssrc (s.nextPosition h.ssrc h.seq) else s
  | none => s

theorem mediaOnly_recordRtp (s : Sender) (ssrc : UInt32) (p : Position) :
    (s.recordRtp ssrc p).mediaOnly = s.mediaOnly.recordRtp ssrc p := by
  unfold recordRtp mediaOnly
  dsimp only
  split
  · split <;> rfl
  · rfl

theorem mediaOnly_afterMedia (s : Sender) (packet : PacketBuffer) :
    (s.afterMedia packet).mediaOnly = s.mediaOnly.afterMedia packet := by
  unfold afterMedia
  split
  · rename_i h _
    have hrecord := s.mediaOnly_recordRtp h.ssrc (s.nextPosition h.ssrc h.seq)
    by_cases hn : s.crypto.suite.rtpTagLength ≤ packet.headroom
    · rw [if_pos hn, if_pos (show s.mediaOnly.crypto.suite.rtpTagLength ≤ packet.headroom from hn)]
      exact hrecord
    · rw [if_neg hn, if_neg (show ¬s.mediaOnly.crypto.suite.rtpTagLength ≤ packet.headroom from hn)]
  · rfl

theorem mediaOnly_protectRtcp (s : Sender) (buffer : Bytes) (length : Nat) :
    (s.protectRtcp buffer length).state.mediaOnly = s.mediaOnly := by
  unfold protectRtcp
  split
  · rfl
  · dsimp only
    split <;> rfl

theorem crypto_afterMedia (s : Sender) (packet : PacketBuffer) : (s.afterMedia packet).crypto = s.crypto := by
  unfold afterMedia
  split
  · split
    · exact crypto_recordRtp _ _ _
    · rfl
  · rfl

end Sender

structure MediaState where
  sender : Sender
  ids : List UInt8

namespace Session

structure SendsMedia (s : Session) (external : Bool) (m : MediaState) : Prop where
  role : ∃ sender, s.role = .sending sender ∧ sender.mediaOnly = m.sender
  ids : s.settings.encryptedIds = m.ids
  external : s.settings.externalAuth = external

variable {s : Session} {external : Bool} {m : MediaState}

theorem SendsMedia.withSender (hm : s.SendsMedia external m) {sender : Sender} (hs : sender.mediaOnly = m.sender) :
    (s.withSender sender).SendsMedia external m := ⟨⟨sender, rfl, hs⟩, hm.ids, hm.external⟩

end Session

namespace Transport

open Session

section

variable {s : Session} {sender : Sender}

theorem session_protectWith_rtp (hs : s.role = .sending sender) (hc : sender.crypto.Fits)
    (hmac : sender.crypto.suite.isAead = false) (sendTimeId : Option UInt8) (packet : PacketBuffer)
    (options : PacketOptions) :
    (protectWith s .rtp sendTimeId packet options).session = s.withSender (sender.afterMedia packet) := by
  unfold protectWith
  simp only [overhead_of_sending hs, Suite.overhead]
  by_cases hn : packet.headroom < sender.crypto.suite.rtpTagLength
  · have hsame : sender.afterMedia packet = sender := by
      unfold Sender.afterMedia
      split
      · exact if_neg (Nat.not_le.mpr hn)
      · rfl
    rw [if_pos hn, hsame, withSender_of_sending hs]
  · rw [if_neg hn]
    have hroom := Nat.not_lt.mp hn
    cases hr : Rtp.Header.read? packet.packet with
    | none =>
      simp only [protectRtp_malformed hs hc hr, Sender.afterMedia, hr, withSender_of_sending hs]
    | some h =>
      have hsends : sender.SendsRtp packet.storage packet.length h packet.packet packet.spare :=
        ⟨rfl, rfl, hroom, hr, hc.rtp.seals fun h => Bool.noConfusion (hmac.symm.trans h)⟩
      simp only [protectRtp_eq hs hc hsends, Sender.afterMedia, hr, if_pos hroom]

theorem session_protectWith_rtcp (hs : s.role = .sending sender) (sendTimeId : Option UInt8) (packet : PacketBuffer)
    (options : PacketOptions) :
    ∃ after, (protectWith s .rtcp sendTimeId packet options).session = s.withSender after ∧
      after.mediaOnly = sender.mediaOnly := by
  unfold protectWith
  dsimp only
  split
  · exact ⟨sender, (withSender_of_sending hs).symm, rfl⟩
  · rw [session_ofReply, protectRtcp_of_sending hs]
    exact ⟨_, rfl, sender.mediaOnly_protectRtcp _ _⟩

end

variable {τ : Type}

structure SendsMedia (t : Transport τ) (external : Bool) (m : MediaState) : Prop where
  session : ∃ pair, t.activation.rtp? = some pair ∧ pair.send.SendsMedia external m
  ids : t.sendEncryptedIds = m.ids

def Operation.rekeysMedia : Operation τ → Bool
  | .setRtpParams _ => true
  | .resetParams => true
  | _ => false

def Operation.bearsOnMedia : Operation τ → Bool
  | .send .rtp _ _ _ => true
  | .setEncryptedIds .peer _ => true
  | _ => false

end Transport

namespace MediaState

open Transport

variable {τ : Type}

def perform (m : MediaState) : Operation τ → MediaState
  | .send .rtp packet _ _ => { m with sender := m.sender.afterMedia packet }
  | .setEncryptedIds .peer ids => { m with ids }
  | _ => m

def after (m : MediaState) : List (Operation τ) → MediaState
  | [] => m
  | operation :: past => (m.after past).perform operation

theorem perform_of_not_bears {operation : Operation τ} (h : operation.bearsOnMedia = false) (m : MediaState) :
    m.perform operation = m := by
  unfold perform
  split
  · cases h
  · cases h
  · rfl

theorem after_filter (m : MediaState) (operations : List (Operation τ)) :
    m.after (operations.filter Operation.bearsOnMedia) = m.after operations := by
  induction operations with
  | nil => rfl
  | cons operation past ih =>
    cases hb : operation.bearsOnMedia with
    | true =>
      rw [List.filter_cons_of_pos hb, after, after, ih]
    | false =>
      rw [List.filter_cons_of_neg (by simp [hb]), after, ih, perform_of_not_bears hb]

theorem crypto_perform (m : MediaState) (operation : Operation τ) :
    (m.perform operation).sender.crypto = m.sender.crypto := by
  unfold perform
  split
  · exact m.sender.crypto_afterMedia _
  · rfl
  · rfl

theorem crypto_after (m : MediaState) (operations : List (Operation τ)) :
    (m.after operations).sender.crypto = m.sender.crypto := by
  induction operations with
  | nil => rfl
  | cons operation past ih => exact ((m.after past).crypto_perform operation).trans ih

end MediaState

namespace Transport

open Session

variable {τ : Type} {t : Transport τ} {external : Bool} {m : MediaState}

theorem SendsMedia.of_eq {u : Transport τ} (ht : t.SendsMedia external m)
    (ha : u.activation.rtp? = t.activation.rtp?) (hi : u.sendEncryptedIds = t.sendEncryptedIds) :
    u.SendsMedia external m := by
  obtain ⟨pair, hp, hm⟩ := ht.session
  exact ⟨⟨pair, ha.trans hp, hm⟩, hi.trans ht.ids⟩

theorem SendsMedia.exists_sessions? (ht : t.SendsMedia external m) (kind : PacketKind) :
    ∃ pair, t.activation.sessions? kind = some pair := by
  obtain ⟨pair, hp, -⟩ := ht.session
  apply t.sessions?_of_isActive
  rw [isActive, hp]
  rfl

theorem SendsMedia.setRtcpParams (ht : t.SendsMedia external m) (params : KeyParams) :
    (t.setRtcpParams params).state.SendsMedia external m := by
  unfold Transport.setRtcpParams
  split
  · exact ht
  · exact ht
  · rename_i rtp ha
    split
    · exact ht.of_eq (by rw [ha]; rfl) rfl
    · exact ht

theorem SendsMedia.setEncryptedIds (ht : t.SendsMedia external m) (source : ContentSource) (ids : List UInt8) :
    (t.setEncryptedIds source ids).1.SendsMedia external (m.perform (.setEncryptedIds source ids : Operation τ)) := by
  obtain ⟨⟨pair, hp, hm⟩, hi⟩ := ht
  have hrtp (f : SessionPair → SessionPair) : (t.activation.modify f .rtp).rtp? = some (f pair) := by
    obtain ⟨h, -⟩ | ⟨-, h⟩ := Activation.rtp?_modify_of_sessions? hp (t.activation.sessions?_rtp.trans hp) f
    · exact h
    · cases h
  cases source with
  | own => exact ⟨⟨_, hrtp _, hm⟩, hi⟩
  | peer => exact ⟨⟨_, hrtp _, ⟨hm.role, rfl, hm.external⟩⟩, rfl⟩

theorem SendsMedia.receive (ht : t.SendsMedia external m) (kind : PacketKind) (packet : PacketBuffer)
    (arrival : Option Instant) : (t.receive kind packet arrival).state.SendsMedia external m := by
  obtain ⟨pair, hp⟩ := ht.exists_sessions? kind
  obtain ⟨⟨rtp, hr, hm⟩, hi⟩ := ht
  have hmodify : ∃ rtp', (t.activation.modify
      (fun other => { other with recv := (unprotectWith pair.recv kind packet).session }) kind).rtp? = some rtp' ∧
      rtp'.send = rtp.send := by
    obtain ⟨h, -⟩ | ⟨h, -⟩ := Activation.rtp?_modify_of_sessions? hr hp
      (fun other => { other with recv := (unprotectWith pair.recv kind packet).session })
    · exact ⟨_, h, rfl⟩
    · exact ⟨_, h, rfl⟩
  obtain ⟨rtp', hr', hsend⟩ := hmodify
  rw [← hsend] at hm
  unfold Transport.receive
  rw [hp]
  dsimp only
  split
  · exact ⟨⟨rtp', hr', hm⟩, hi⟩
  · exact ⟨⟨rtp', hr', hm⟩, hi⟩

variable [Carrier τ]

theorem SendsMedia.send (ht : t.SendsMedia external m) (hc : m.sender.crypto.Fits)
    (hmac : m.sender.crypto.suite.isAead = false) (kind : PacketKind) (packet : PacketBuffer) (options : PacketOptions)
    (flags : UInt32) :
    (t.send kind packet options flags).carrier.SendsMedia external
      (m.perform (.send kind packet options flags : Operation τ)) := by
  obtain ⟨pair, hp⟩ := ht.exists_sessions? kind
  obtain ⟨carrier, stats, hs⟩ := exists_send hp packet options flags
  obtain ⟨⟨rtp, hr, hm⟩, hi⟩ := ht
  obtain ⟨sender, hrole, hsender⟩ := hm.role
  rw [hs]
  have hmodify := Activation.rtp?_modify_of_sessions? hr hp
    (fun other => { other with send := (protectWith pair.send kind t.sendTimeId packet options).session })
  cases kind with
  | rtp =>
    obtain ⟨h, rfl⟩ | ⟨-, h⟩ := hmodify
    · have hcrypto : sender.crypto = m.sender.crypto := by
        rw [← hsender]
        rfl
      have hsession := session_protectWith_rtp hrole (hcrypto ▸ hc) (hcrypto ▸ hmac) t.sendTimeId packet options
      refine ⟨⟨_, h, ?_⟩, hi⟩
      dsimp only
      rw [hsession]
      refine ⟨⟨_, rfl, ?_⟩, hm.ids, hm.external⟩
      rw [Sender.mediaOnly_afterMedia, hsender]
      rfl
    · cases h
  | rtcp =>
    -- Without sessions of their own, control packets pass through the session for media.
    obtain ⟨h, rfl⟩ | ⟨h, -⟩ := hmodify
    · obtain ⟨after, hsession, hafter⟩ := session_protectWith_rtcp hrole t.sendTimeId packet options
      refine ⟨⟨_, h, ?_⟩, hi⟩
      dsimp only
      rw [hsession]
      exact hm.withSender (hafter.trans hsender)
    · exact ⟨⟨rtp, h, hm⟩, hi⟩

theorem SendsMedia.perform (ht : t.SendsMedia external m) (hc : m.sender.crypto.Fits)
    (hmac : m.sender.crypto.suite.isAead = false) {operation : Operation τ} (hk : operation.rekeysMedia = false) :
    (t.perform operation).SendsMedia external (m.perform operation) := by
  cases operation with
  | setRtpParams params => cases hk
  | resetParams => cases hk
  | setRtcpParams params => exact ht.setRtcpParams params
  | setEncryptedIds source ids => exact ht.setEncryptedIds source ids
  | enableExternalAuth =>
    obtain ⟨externalAuth, he⟩ := t.exists_enableExternalAuth
    rw [Transport.perform, he]
    exact ht.of_eq rfl rfl
  | send kind packet options flags => exact ht.send hc hmac kind packet options flags
  | receive kind packet arrival => exact ht.receive kind packet arrival
  | setSendTimeId id => exact ht.of_eq rfl rfl
  | setRtcpMux on => exact ht.of_eq rfl rfl
  | modifyCarrier f => exact ht.of_eq rfl rfl
  | ready on => exact ht.of_eq rfl rfl
  | observe => exact ht.of_eq rfl rfl
  | subscribe => exact ht.of_eq rfl rfl
  | remove id => exact ht.of_eq rfl rfl
  | drain receiver => exact ht.of_eq rfl rfl
  | dropReceiver receiver => exact ht.of_eq rfl rfl

theorem SendsMedia.after (ht : t.SendsMedia external m) (hc : m.sender.crypto.Fits)
    (hmac : m.sender.crypto.suite.isAead = false) {operations : List (Operation τ)}
    (hk : ∀ operation ∈ operations, operation.rekeysMedia = false) :
    (t.after operations).SendsMedia external (m.after operations) := by
  induction operations with
  | nil => exact ht
  | cons operation past ih =>
    obtain ⟨hfirst, hrest⟩ := List.forall_mem_cons.mp hk
    have hcrypto := m.crypto_after past
    exact (ih hrest).perform (hcrypto ▸ hc) (hcrypto ▸ hmac) hfirst

omit [Carrier τ] in
theorem sendsMedia_setRtpParams {params : KeyParams} (ho : (t.setRtpParams params).outcome = .ok ()) :
    ∃ crypto, SessionCrypto.ofMaterial params.sendSuite params.sendMaterial = .ok crypto ∧
      (t.setRtpParams params).state.SendsMedia t.externalAuth ⟨{ crypto }, t.sendEncryptedIds⟩ := by
  cases hc : t.createSessions .rtp params with
  | mk created notices =>
    cases created with
    | error e =>
      rw [Transport.setRtpParams, hc] at ho
      cases ho
    | ok pair =>
      obtain ⟨activation, hstate, hrtp⟩ := activation_setRtpParams hc
      obtain ⟨crypto, recv, hm, -, rfl⟩ := exists_of_createSessions hc
      refine ⟨crypto, hm, ?_⟩
      rw [hstate]
      exact ⟨⟨_, hrtp, ⟨_, rfl, rfl⟩, rfl, rfl⟩, rfl⟩

section

variable {s : Session} {sender : Sender} {key salt : Bytes} {auth : Authenticator}

theorem authParams_of_sending (hs : s.role = .sending sender) (hrtp : sender.crypto.rtp = .counterMode key salt auth) :
    s.authParams = .ok auth := by
  simp only [Session.authParams, hs, Role.sender, ok_bind, hrtp]
  rfl

theorem rtpOptions_of_sending (hs : s.role = .sending sender) (hmac : sender.crypto.suite.isAead = false)
    (hrtp : sender.crypto.rtp = .counterMode key salt auth) (sendTimeId : Option UInt8) (options : PacketOptions)
    (index : UInt64) :
    s.rtpOptions sendTimeId options index =
      if s.settings.externalAuth then
        { options with timeParams := ⟨sendTimeId, auth.key, auth.tagLength, some index⟩ }
      else options := by
  simp only [Session.rtpOptions, Session.externalAuthActive, hs, Suite.supportsExternalAuth, hmac, Bool.not_false,
    Bool.and_true, authParams_of_sending hs hrtp]
  cases s.settings.externalAuth <;> rfl

end

theorem SendsMedia.sent_rtp {t : Transport Recorder} (ht : t.SendsMedia external m) (hc : m.sender.crypto.Fits)
    (hmac : m.sender.crypto.suite.isAead = false) {key salt : Bytes} {auth : Authenticator}
    (hrtp : m.sender.crypto.rtp = .counterMode key salt auth) (hf : t.carrier.failing = false) {packet : PacketBuffer}
    {h : Rtp.Header} (hr : Rtp.Header.read? packet.packet = some h)
    (hn : m.sender.crypto.suite.rtpTagLength ≤ packet.headroom) (options : PacketOptions) (flags : UInt32) :
    let p := m.sender.nextPosition h.ssrc h.seq
    ∃ pair, t.activation.rtp? = some pair ∧ pair.send.authParams = .ok auth ∧
      (pair.send.protectRtp packet.storage packet.length).outcome =
        .ok (packet.length + m.sender.crypto.suite.rtpTagLength, p.index) ∧
      (t.send .rtp packet options flags).carrier.carrier.sent = t.carrier.sent ++
        [⟨.rtp, m.sender.crypto.rtpWire external m.ids h p packet.packet,
          if external then { options with timeParams := ⟨t.sendTimeId, auth.key, auth.tagLength, some p.index⟩ }
          else options, flags⟩] := by
  intro p
  obtain ⟨pair, hpair, hm⟩ := ht.session
  obtain ⟨sender, hs, hsender⟩ := hm.role
  obtain ⟨_, ids⟩ := m
  obtain rfl := hsender
  have hsends : sender.SendsRtp packet.storage packet.length h packet.packet packet.spare :=
    ⟨rfl, rfl, hn, hr, hc.rtp.seals fun h => Bool.noConfusion (hmac.symm.trans h)⟩
  have hprotect : protectWith pair.send .rtp t.sendTimeId packet options =
      protectRtp pair.send t.sendTimeId packet options := by
    unfold protectWith
    simp only [overhead_of_sending hs, Suite.overhead]
    exact if_neg (Nat.not_lt.mpr hn)
  rw [protectRtp_eq hs hc hsends] at hprotect
  dsimp only at hprotect
  rw [rtpOptions_of_sending hs hmac hrtp, hm.ids, hm.external] at hprotect
  refine ⟨pair, hpair, authParams_of_sending hs hrtp, ?_, ?_⟩
  · rw [protectRtp_of_sending hs, hsends.protectRtp hc]
    rfl
  · have hp : t.activation.sessions? .rtp = some pair := t.activation.sessions?_rtp.trans hpair
    rw [send_of_ok hp (congrArg Protected.outcome hprotect), hprotect]
    simp only [handedDown, Carrier.send, Recorder.send, hf]
    rfl

/-- Transports that got the same keys to send by, of which only `x` leaves the tags of media packets to a later layer,
and what was done with each since then. Both were given the same media packets and the same extensions to encrypt. -/
structure SendAlike {τ : Type} [Carrier τ] (x y : Transport τ) (xKeys yKeys : KeyParams)
    (xPast yPast : List (Operation τ)) : Prop where
  deferred : x.externalAuth = true
  direct : y.externalAuth = false
  ids : x.sendEncryptedIds = y.sendEncryptedIds
  suite : xKeys.sendSuite = yKeys.sendSuite
  material : xKeys.sendMaterial = yKeys.sendMaterial
  hmac : xKeys.sendSuite.isAead = false
  xKeyed : (x.setRtpParams xKeys).outcome = .ok ()
  yKeyed : (y.setRtpParams yKeys).outcome = .ok ()
  xKept : ∀ operation ∈ xPast, operation.rekeysMedia = false
  yKept : ∀ operation ∈ yPast, operation.rekeysMedia = false
  media : xPast.filter Operation.bearsOnMedia = yPast.filter Operation.bearsOnMedia

theorem SendAlike.exists_mediaState {x y : Transport τ} {xKeys yKeys : KeyParams} {xPast yPast : List (Operation τ)}
    (h : SendAlike x y xKeys yKeys xPast yPast) :
    ∃ m : MediaState, SessionCrypto.ofMaterial xKeys.sendSuite xKeys.sendMaterial = .ok m.sender.crypto ∧
      ((x.setRtpParams xKeys).state.after xPast).SendsMedia true m ∧
      ((y.setRtpParams yKeys).state.after yPast).SendsMedia false m := by
  obtain ⟨crypto, hm, hx⟩ := sendsMedia_setRtpParams h.xKeyed
  obtain ⟨crypto', hm', hy⟩ := sendsMedia_setRtpParams h.yKeyed
  rw [← h.suite, ← h.material] at hm'
  cases hm.symm.trans hm'
  rw [h.deferred] at hx
  rw [h.direct, ← h.ids] at hy
  obtain ⟨hsuite, hfits⟩ := SessionCrypto.fits_of_ofMaterial hm
  have hmac : crypto.suite.isAead = false := hsuite ▸ h.hmac
  have hx := hx.after hfits hmac h.xKept
  have hy := hy.after hfits hmac h.yKept
  -- What differs between the two pasts does not bear on media.
  rw [← MediaState.after_filter, ← h.media, MediaState.after_filter] at hy
  refine ⟨_, ?_, hx, hy⟩
  rw [MediaState.crypto_after]
  exact hm

/-- The later layer makes of the deferring transport's packet the one that the other sends for the same packet with the
time in it. -/
theorem deferred_auth_eq_direct {x y : Transport Recorder} {xKeys yKeys : KeyParams}
    {xPast yPast : List (Operation Recorder)} (h : SendAlike x y xKeys yKeys xPast yPast)
    {X Y : Transport Recorder} (hX : X = (x.setRtpParams xKeys).state.after xPast)
    (hY : Y = (y.setRtpParams yKeys).state.after yPast) (hXc : X.carrier.failing = false)
    (hYc : Y.carrier.failing = false) {packet : PacketBuffer} (hpacket : CanProtect xKeys.sendSuite .rtp packet)
    (hid : ∀ id, X.sendTimeId = some id → id ∉ X.sendEncryptedIds) (ms : UInt64) (options yOptions : PacketOptions)
    (flags yFlags : UInt32) :
    ∃ pair auth index wire yWire,
      X.activation.rtp? = some pair ∧ pair.send.authParams = .ok auth ∧
      (pair.send.protectRtp packet.storage packet.length).outcome = .ok (packet.length + auth.tagLength, index) ∧
      let params : TimeParams := ⟨X.sendTimeId, auth.key, auth.tagLength, some index⟩
      let yPacket : PacketBuffer := ⟨Rtp.withSendTime X.sendTimeId ms packet.packet, packet.spare⟩
      (X.send .rtp packet options flags).carrier.carrier.sent =
          X.carrier.sent ++ [⟨.rtp, wire, { options with timeParams := params }, flags⟩] ∧
        (Y.send .rtp yPacket yOptions yFlags).carrier.carrier.sent =
          Y.carrier.sent ++ [⟨.rtp, yWire, yOptions, yFlags⟩] ∧
        params.apply ms wire = (.ok (), yWire) := by
  obtain ⟨m, hm, hx, hy⟩ := h.exists_mediaState
  obtain ⟨key, salt, auth, hrtp, hkey, htag⟩ := SessionCrypto.exists_authKey hm h.hmac
  obtain ⟨hsuite, hfits⟩ := SessionCrypto.fits_of_ofMaterial hm
  have hmac : m.sender.crypto.suite.isAead = false := hsuite ▸ h.hmac
  rw [← hX] at hx
  rw [← hY] at hy
  obtain ⟨hn, hw⟩ := hpacket
  have hroom : m.sender.crypto.suite.rtpTagLength ≤ packet.headroom := hsuite ▸ hn
  obtain ⟨header, hr⟩ := PacketKind.wellFormed_rtp_iff.mp hw
  obtain ⟨pair, hpair, hauth, hindex, hsent⟩ := hx.sent_rtp hfits hmac hrtp hXc hr hroom options flags
  rw [hsuite, ← htag] at hindex
  generalize hposition : m.sender.nextPosition header.ssrc header.seq = position at hindex hsent
  obtain ⟨-, -, -, -, hysent⟩ := @SendsMedia.sent_rtp _ _ _ hy hfits hmac _ _ _ hrtp hYc
    ⟨Rtp.withSendTime X.sendTimeId ms packet.packet, packet.spare⟩ _ (Rtp.read?_withSendTime X.sendTimeId hr ms)
    hroom yOptions yFlags
  rw [hposition] at hysent
  have hkeyed : auth.key ≠ [] := by
    intro hnil
    rw [hnil] at hkey
    cases hkey
  have htag' : 0 < auth.tagLength ∧ auth.tagLength ≤ 20 := by
    rw [htag]
    cases xKeys.sendSuite <;> decide
  rw [hx.ids] at hid
  have happly := SessionCrypto.apply_rtpWire hrtp hkeyed htag'.1 htag'.2 hr hid position ms
  exact ⟨pair, auth, position.index, _, _, hpair, hauth, hindex, hsent, hysent, happly⟩

theorem deferred_auth_of_timed_header :
    let keys : KeyParams := ⟨.aesCm128HmacSha1_80, zeros 30, .aesCm128HmacSha1_80, zeros 30⟩
    let first : Operation Recorder := .send .rtp ⟨0x80 :: zeros 11, zeros 10⟩ {} 0
    let encrypt : Operation Recorder := .setEncryptedIds .peer [5]
    let empty : Operation Recorder := .modifyCarrier fun _ => {}
    let x := (ofConfig ({} : Recorder) { externalAuth := true }).1
    let y := (ofConfig ({} : Recorder) {}).1
    let X := (x.setRtpParams keys).state.after [empty, encrypt, .setSendTimeId (some 3), first]
    let Y := (y.setRtpParams keys).state.after [empty, encrypt, first]
    let header := 0x90 :: zeros 11 ++ [0xbe, 0xde, 0, 1]
    SendAlike x y keys keys [empty, encrypt, .setSendTimeId (some 3), first] [empty, encrypt, first] ∧
      ∃ params wire yWire, params.extensionId = some 3 ∧
        (X.send .rtp ⟨header ++ [0x32, 0, 0, 0], zeros 10⟩ {} 0).carrier.carrier.sent =
          [⟨.rtp, wire, { timeParams := params }, 0⟩] ∧
        (Y.send .rtp ⟨header ++ [0x32, 4, 0, 0], zeros 10⟩ {} 0).carrier.carrier.sent = [⟨.rtp, yWire, {}, 0⟩] ∧
        params.apply 1000 wire = (.ok (), yWire) := by
  intro keys first encrypt empty x y X Y header
  obtain ⟨c, hm, -⟩ := SessionCrypto.fits_ofMaterial
    (show (zeros 30).length = Suite.aesCm128HmacSha1_80.materialLength from rfl)
  have hkeyed (t : Transport Recorder) : (t.setRtpParams keys).outcome = .ok () := by
    rw [Transport.setRtpParams, createSessions_of_ofMaterial t .rtp (show _ = _ from hm) (show _ = _ from hm)]
  have halike : SendAlike x y keys keys [empty, encrypt, .setSendTimeId (some 3), first] [empty, encrypt, first] :=
    { deferred := rfl
      direct := rfl
      ids := rfl
      suite := rfl
      material := rfl
      hmac := rfl
      xKeyed := hkeyed x
      yKeyed := hkeyed y
      xKept := by simp [empty, encrypt, first, Operation.rekeysMedia]
      yKept := by simp [empty, encrypt, first, Operation.rekeysMedia]
      media := rfl }
  have hroom : CanProtect keys.sendSuite .rtp ⟨header ++ [0x32, 0, 0, 0], zeros 10⟩ := by decide
  have hid : ∀ id, X.sendTimeId = some id → id ∉ X.sendEncryptedIds := by
    rintro id hid
    cases hid
    decide
  obtain ⟨_, auth, index, wire, yWire, -, -, -, hsent, hysent, happly⟩ :=
    deferred_auth_eq_direct halike (X := X) (Y := Y) rfl rfl rfl rfl hroom hid 1000 {} {} 0 0
  exact ⟨halike, _, wire, yWire, rfl, hsent, hysent, happly⟩

end Transport

end SecureRtp
