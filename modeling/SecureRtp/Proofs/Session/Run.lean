import SecureRtp.Proofs.Session.Keys
import SecureRtp.Proofs.Session.Memory
import SecureRtp.Session.Send

namespace SecureRtp

namespace Sender

theorem crypto_recordRtp (s : Sender) (ssrc : UInt32) (p : Position) : (s.recordRtp ssrc p).crypto = s.crypto := by
  unfold recordRtp
  split
  · split <;> rfl
  · rfl

theorem controlIndices_recordRtp (s : Sender) (ssrc : UInt32) (p : Position) :
    (s.recordRtp ssrc p).controlIndices = s.controlIndices := by
  unfold recordRtp
  split
  · split <;> rfl
  · rfl

def latest (last? : Option Position) (p : Position) : Position :=
  match last? with
  | some last => if p.index > last.index then p else last
  | none => p

theorem toNat_index_latest (last? : Option Position) (p : Position) :
    (latest last? p).index.toNat =
      (last?.map (·.index.toNat)).elim p.index.toNat fun highest => max p.index.toNat highest := by
  cases last? with
  | none => rw [Option.map_none, Option.elim_none, latest]
  | some last =>
    rw [Option.map_some, Option.elim_some, latest]
    by_cases hnew : p.index > last.index
    · rw [if_pos hnew]
      exact (Nat.max_eq_left (Nat.le_of_lt (UInt64.lt_iff_toNat_lt.mp hnew))).symm
    · rw [if_neg hnew]
      exact (Nat.max_eq_right (UInt64.le_iff_toNat_le.mp (UInt64.not_lt.mp hnew))).symm

theorem positions_recordRtp_self (s : Sender) (ssrc : UInt32) (p : Position) :
    (s.recordRtp ssrc p).positions[ssrc]? = some (latest s.positions[ssrc]? p) := by
  have hinsert : (s.positions.insert ssrc p)[ssrc]? = some p := Std.TreeMap.getElem?_insert_self
  unfold recordRtp
  cases hlast : s.positions[ssrc]? with
  | none => exact hinsert
  | some last =>
    dsimp only [latest]
    by_cases hnew : p.index > last.index
    · rw [if_pos hnew, if_pos hnew]
      exact hinsert
    · rw [if_neg hnew, if_neg hnew]
      exact hlast

theorem positions_recordRtp_of_ne {ssrc other : UInt32} (s : Sender) (p : Position) (h : other ≠ ssrc) :
    (s.recordRtp other p).positions[ssrc]? = s.positions[ssrc]? := by
  have hinsert : (s.positions.insert other p)[ssrc]? = s.positions[ssrc]? := by
    rw [Std.TreeMap.getElem?_insert, if_neg (by simpa using h)]
  unfold recordRtp
  split
  · split
    · exact hinsert
    · rfl
  · exact hinsert

theorem crypto_protectRtp (s : Sender) (settings : Settings) (buffer : Bytes) (length : Nat) :
    (s.protectRtp settings buffer length).state.crypto = s.crypto := by
  unfold protectRtp
  split
  · rfl
  · dsimp only
    split
    · rfl
    · exact crypto_recordRtp _ _ _

theorem crypto_protectRtcp (s : Sender) (buffer : Bytes) (length : Nat) :
    (s.protectRtcp buffer length).state.crypto = s.crypto := by
  unfold protectRtcp
  split
  · rfl
  · dsimp only
    split <;> rfl

theorem protectRtp_cases (s : Sender) (settings : Settings) (buffer : Bytes) (length : Nat) :
    (∃ answer, (s.protectRtp settings buffer length).outcome = .ok answer) ∨
      ∃ e, (s.protectRtp settings buffer length).outcome = .error e ∧
        (s.protectRtp settings buffer length).state = s := by
  unfold protectRtp
  split
  · exact .inr ⟨_, rfl, rfl⟩
  · dsimp only
    split
    · exact .inr ⟨_, rfl, rfl⟩
    · exact .inl ⟨_, rfl⟩

theorem protectRtcp_cases (s : Sender) (buffer : Bytes) (length : Nat) :
    (∃ n, (s.protectRtcp buffer length).outcome = .ok n) ∨
      ∃ e, (s.protectRtcp buffer length).outcome = .error e ∧ (s.protectRtcp buffer length).state = s := by
  unfold protectRtcp
  split
  · exact .inr ⟨_, rfl, rfl⟩
  · dsimp only
    split
    · exact .inr ⟨_, rfl, rfl⟩
    · exact .inl ⟨_, rfl⟩

end Sender

namespace Receiver

def rtpId? (r : Receiver) (packet : Bytes) : Option (UInt32 × UInt64) :=
  match r.rtpHeader packet with
  | .ok h => some (h.ssrc, (r.position h.ssrc h.seq).index)
  | .error _ => none

def rtcpId? (r : Receiver) (packet : Bytes) : Option (UInt32 × UInt64) :=
  match r.rtcpStream packet with
  | .ok ssrc => some (ssrc, (r.crypto.rtcp.controlTrailer packet r.crypto.suite.rtcpTagLength).index.toUInt64)
  | .error _ => none

theorem unprotectRtp_cases (r : Receiver) (settings : Settings) (packet : Bytes) :
    (∃ n ssrc p, r.rtpId? packet = some (ssrc, p.index) ∧ r.acceptsRtp ssrc p.index = true ∧
        (r.unprotectRtp settings packet).outcome = .ok n ∧
        (r.unprotectRtp settings packet).state = r.recordRtp settings.replayWindow ssrc p) ∨
      ∃ e, (r.unprotectRtp settings packet).outcome = .error e ∧ (r.unprotectRtp settings packet).state = r := by
  unfold unprotectRtp rtpId?
  cases r.rtpHeader packet with
  | error e => exact .inr ⟨e, rfl, rfl⟩
  | ok h =>
    dsimp only
    by_cases ha : r.acceptsRtp h.ssrc (r.position h.ssrc h.seq).index = true
    · rw [if_pos ha]
      split
      · exact .inr ⟨_, rfl, rfl⟩
      · exact .inl ⟨_, _, _, rfl, ha, rfl, rfl⟩
    · rw [if_neg ha]
      exact .inr ⟨_, rfl, rfl⟩

theorem unprotectRtcp_cases (r : Receiver) (settings : Settings) (packet : Bytes) :
    (∃ n ssrc index, r.rtcpId? packet = some (ssrc, UInt32.toUInt64 index) ∧ r.acceptsRtcp ssrc index = true ∧
        (r.unprotectRtcp settings packet).outcome = .ok n ∧
        (r.unprotectRtcp settings packet).state = r.recordRtcp settings.replayWindow ssrc index) ∨
      ∃ e, (r.unprotectRtcp settings packet).outcome = .error e ∧ (r.unprotectRtcp settings packet).state = r := by
  unfold unprotectRtcp rtcpId?
  cases r.rtcpStream packet with
  | error e => exact .inr ⟨e, rfl, rfl⟩
  | ok ssrc =>
    dsimp only
    split
    · rename_i ha
      split
      · exact .inr ⟨_, rfl, rfl⟩
      · exact .inl ⟨_, _, _, rfl, ha, rfl, rfl⟩
    · exact .inr ⟨_, rfl, rfl⟩

theorem crypto_unprotectRtp (r : Receiver) (settings : Settings) (packet : Bytes) :
    (r.unprotectRtp settings packet).state.crypto = r.crypto := by
  obtain ⟨_, _, _, _, _, _, hs⟩ | ⟨_, _, hs⟩ := r.unprotectRtp_cases settings packet
  · rw [hs]
    rfl
  · rw [hs]

theorem crypto_unprotectRtcp (r : Receiver) (settings : Settings) (packet : Bytes) :
    (r.unprotectRtcp settings packet).state.crypto = r.crypto := by
  obtain ⟨_, _, _, _, _, _, hs⟩ | ⟨_, _, hs⟩ := r.unprotectRtcp_cases settings packet
  · rw [hs]
    rfl
  · rw [hs]

end Receiver

namespace Session

def rtpId? (s : Session) (packet : Bytes) : Option (UInt32 × UInt64) :=
  match s.role with
  | .receiving r => r.rtpId? packet
  | _ => none

def rtcpId? (s : Session) (packet : Bytes) : Option (UInt32 × UInt64) :=
  match s.role with
  | .receiving r => r.rtcpId? packet
  | _ => none

inductive Call where
  | configure (direction : Direction) (suite : Suite) (material : Bytes)
  | setEncryptedIds (ids : List UInt8)
  | enableExternalAuth
  | protectRtp (buffer : Bytes) (length : Nat)
  | protectRtcp (buffer : Bytes) (length : Nat)
  | unprotectRtp (packet : Bytes)
  | unprotectRtcp (packet : Bytes)

def perform (s : Session) : Call → Session
  | .configure direction suite material => (s.configure direction suite material).state
  | .setEncryptedIds ids => s.setEncryptedIds ids
  | .enableExternalAuth => s.enableExternalAuth
  | .protectRtp buffer length => (s.protectRtp buffer length).state
  | .protectRtcp buffer length => (s.protectRtcp buffer length).state
  | .unprotectRtp packet => (s.unprotectRtp packet).state
  | .unprotectRtcp packet => (s.unprotectRtcp packet).state

/-- The session after some calls. Calls are listed with the latest first, here and in what follows. -/
def after (s : Session) : List Call → Session
  | [] => s
  | call :: past => (s.after past).perform call

theorem after_append (s : Session) (later past : List Call) : s.after (later ++ past) = (s.after past).after later := by
  induction later with
  | nil => rfl
  | cons call later ih => exact congrArg (perform · call) ih

def Reachable (s : Session) : Prop := ∃ replayWindow calls, s = (ofWindow replayWindow).after calls

structure Keyed (s : Session) (direction : Direction) (suite : Suite) (material : Bytes) : Prop where
  direction : s.role.direction? = some direction
  crypto : ∃ crypto, SessionCrypto.ofMaterial suite material = .ok crypto ∧ s.role.crypto? = some crypto

variable {s : Session} {direction : Direction} {suite : Suite} {material : Bytes}

theorem unprotectRtp_of_receiving {r : Receiver} (hr : s.role = .receiving r) (packet : Bytes) :
    s.unprotectRtp packet = (r.unprotectRtp s.settings packet).mapState s.withReceiver := by
  rw [unprotectRtp, hr]
  rfl

theorem unprotectRtcp_of_receiving {r : Receiver} (hr : s.role = .receiving r) (packet : Bytes) :
    s.unprotectRtcp packet = (r.unprotectRtcp s.settings packet).mapState s.withReceiver := by
  rw [unprotectRtcp, hr]
  rfl

theorem protectRtp_of_sending {sender : Sender} (hs : s.role = .sending sender) (buffer : Bytes) (length : Nat) :
    s.protectRtp buffer length = (sender.protectRtp s.settings buffer length).mapState s.withSender := by
  rw [protectRtp, hs]
  rfl

theorem protectRtcp_of_sending {sender : Sender} (hs : s.role = .sending sender) (buffer : Bytes) (length : Nat) :
    s.protectRtcp buffer length = (sender.protectRtcp buffer length).mapState s.withSender := by
  rw [protectRtcp, hs]
  rfl

theorem configure_of_idle (hs : s.role = .idle) (direction : Direction) (suite : Suite) (material : Bytes) :
    s.configure direction suite material =
      match SessionCrypto.ofMaterial suite material with
      | .ok crypto => ⟨.ok (), { s with role := roleOf direction crypto }, [.sessionConfigured direction suite]⟩
      | .error e => ⟨.error e, s, []⟩ := by
  obtain ⟨settings, role⟩ := s
  cases hs
  rfl

theorem configure_of_configured (hd : s.role.direction? = some direction) (asked : Direction) (suite : Suite)
    (material : Bytes) : (s.configure asked suite material).state = s := by
  obtain ⟨settings, role⟩ := s
  cases role with
  | idle => cases hd
  | sending sender => rfl
  | receiving receiver => rfl

structure SameSetup (s t : Session) : Prop where
  direction : t.role.direction? = s.role.direction?
  crypto : t.role.crypto? = s.role.crypto?
  settings : t.settings = s.settings

theorem SameSetup.refl (s : Session) : s.SameSetup s := ⟨rfl, rfl, rfl⟩

theorem sameSetup_protectRtp (s : Session) (buffer : Bytes) (length : Nat) :
    s.SameSetup (s.protectRtp buffer length).state := by
  obtain ⟨settings, role⟩ := s
  cases role with
  | sending sender => exact ⟨rfl, congrArg some (sender.crypto_protectRtp settings buffer length), rfl⟩
  | idle => exact .refl _
  | receiving receiver => exact .refl _

theorem sameSetup_protectRtcp (s : Session) (buffer : Bytes) (length : Nat) :
    s.SameSetup (s.protectRtcp buffer length).state := by
  obtain ⟨settings, role⟩ := s
  cases role with
  | sending sender => exact ⟨rfl, congrArg some (sender.crypto_protectRtcp buffer length), rfl⟩
  | idle => exact .refl _
  | receiving receiver => exact .refl _

theorem sameSetup_unprotectRtp (s : Session) (packet : Bytes) : s.SameSetup (s.unprotectRtp packet).state := by
  obtain ⟨settings, role⟩ := s
  cases role with
  | receiving receiver => exact ⟨rfl, congrArg some (receiver.crypto_unprotectRtp settings packet), rfl⟩
  | idle => exact .refl _
  | sending sender => exact .refl _

theorem sameSetup_unprotectRtcp (s : Session) (packet : Bytes) : s.SameSetup (s.unprotectRtcp packet).state := by
  obtain ⟨settings, role⟩ := s
  cases role with
  | receiving receiver => exact ⟨rfl, congrArg some (receiver.crypto_unprotectRtcp settings packet), rfl⟩
  | idle => exact .refl _
  | sending sender => exact .refl _

theorem Keyed.of_sameSetup {t : Session} (hk : s.Keyed direction suite material) (h : s.SameSetup t) :
    t.Keyed direction suite material := by
  refine ⟨h.direction.trans hk.direction, ?_⟩
  rw [h.crypto]
  exact hk.crypto

theorem Keyed.perform (hk : s.Keyed direction suite material) (call : Call) :
    (s.perform call).Keyed direction suite material := by
  cases call with
  | configure asked suite material =>
    rw [Session.perform, configure_of_configured hk.direction]
    exact hk
  | setEncryptedIds ids => exact ⟨hk.direction, hk.crypto⟩
  | enableExternalAuth => exact ⟨hk.direction, hk.crypto⟩
  | protectRtp buffer length => exact hk.of_sameSetup (s.sameSetup_protectRtp buffer length)
  | protectRtcp buffer length => exact hk.of_sameSetup (s.sameSetup_protectRtcp buffer length)
  | unprotectRtp packet => exact hk.of_sameSetup (s.sameSetup_unprotectRtp packet)
  | unprotectRtcp packet => exact hk.of_sameSetup (s.sameSetup_unprotectRtcp packet)

theorem Keyed.after (hk : s.Keyed direction suite material) (calls : List Call) :
    (s.after calls).Keyed direction suite material := by
  induction calls with
  | nil => exact hk
  | cons call past ih => exact ih.perform call

theorem keyed_configure {settings : Settings} {asked : Direction}
    (hd : (configure ⟨settings, .idle⟩ asked suite material).state.role.direction? = some direction) :
    (configure ⟨settings, .idle⟩ asked suite material).state.Keyed direction suite material := by
  cases hm : SessionCrypto.ofMaterial suite material with
  | error e =>
    simp only [configure, Role.direction?, hm] at hd
    cases hd
  | ok crypto =>
    simp only [configure, Role.direction?, hm] at hd ⊢
    cases asked with
    | send => exact ⟨hd, crypto, hm, rfl⟩
    | recv => exact ⟨hd, crypto, hm, rfl⟩

theorem Reachable.keyed (hs : s.Reachable) (hd : s.role.direction? = some direction) :
    ∃ suite material, s.Keyed direction suite material := by
  obtain ⟨replayWindow, calls, rfl⟩ := hs
  induction calls generalizing direction with
  | nil => cases hd
  | cons call past ih =>
    simp only [Session.after] at hd ⊢
    cases hpast : ((ofWindow replayWindow).after past).role.direction? with
    | some configured =>
      obtain ⟨suite, material, hk⟩ := ih hpast
      have hk := hk.perform call
      cases hk.direction.symm.trans hd
      exact ⟨suite, material, hk⟩
    | none =>
      generalize (ofWindow replayWindow).after past = s at hd hpast ⊢
      obtain ⟨settings, role⟩ := s
      cases role with
      | sending sender => cases hpast
      | receiving r => cases hpast
      | idle =>
        cases call with
        | configure asked suite material => exact ⟨suite, material, keyed_configure hd⟩
        | setEncryptedIds ids => cases hd
        | enableExternalAuth => cases hd
        | protectRtp buffer length => cases hd
        | protectRtcp buffer length => cases hd
        | unprotectRtp packet => cases hd
        | unprotectRtcp packet => cases hd

theorem Keyed.receiver (hk : s.Keyed .recv suite material) :
    ∃ r, s.role = .receiving r ∧ SessionCrypto.ofMaterial suite material = .ok r.crypto := by
  obtain ⟨crypto, hm, hc⟩ := hk.crypto
  have hd := hk.direction
  cases hr : s.role with
  | idle => simp [hr, Role.direction?] at hd
  | sending sender => simp [hr, Role.direction?] at hd
  | receiving r =>
    rw [hr] at hc
    cases hc
    exact ⟨r, rfl, hm⟩

theorem Keyed.sender (hk : s.Keyed .send suite material) :
    ∃ sender, s.role = .sending sender ∧ SessionCrypto.ofMaterial suite material = .ok sender.crypto := by
  obtain ⟨crypto, hm, hc⟩ := hk.crypto
  have hd := hk.direction
  cases hr : s.role with
  | idle => simp [hr, Role.direction?] at hd
  | receiving r => simp [hr, Role.direction?] at hd
  | sending sender =>
    rw [hr] at hc
    cases hc
    exact ⟨sender, rfl, hm⟩

def start (replayWindow : UInt64) (ids : List UInt8) (direction : Direction) (suite : Suite) (material : Bytes) :
    Session :=
  (((ofWindow replayWindow).setEncryptedIds ids).configure direction suite material).state

theorem start_eq (replayWindow : UInt64) (ids : List UInt8) (direction : Direction) {crypto : SessionCrypto}
    (hm : SessionCrypto.ofMaterial suite material = .ok crypto) :
    start replayWindow ids direction suite material =
      ⟨⟨replayWindow, ids, false⟩, roleOf direction crypto⟩ := by
  simp only [start, configure, setEncryptedIds, ofWindow, Role.direction?, suite?, hm]

theorem role_start_send (replayWindow : UInt64) (ids : List UInt8) {crypto : SessionCrypto}
    (hm : SessionCrypto.ofMaterial suite material = .ok crypto) :
    (start replayWindow ids .send suite material).role = .sending { crypto } := by
  rw [start_eq replayWindow ids .send hm]
  rfl

theorem role_start_recv (replayWindow : UInt64) (ids : List UInt8) {crypto : SessionCrypto}
    (hm : SessionCrypto.ofMaterial suite material = .ok crypto) :
    (start replayWindow ids .recv suite material).role = .receiving { crypto } := by
  rw [start_eq replayWindow ids .recv hm]
  rfl

theorem settings_start {replayWindow : UInt64} {ids : List UInt8} {crypto : SessionCrypto}
    (hm : SessionCrypto.ofMaterial suite material = .ok crypto) (direction : Direction) :
    (start replayWindow ids direction suite material).settings = ⟨replayWindow, ids, false⟩ := by
  rw [start_eq replayWindow ids direction hm]

theorem keyed_start (replayWindow : UInt64) (ids : List UInt8) (direction : Direction)
    (hm : material.length = suite.materialLength) :
    (start replayWindow ids direction suite material).Keyed direction suite material := by
  obtain ⟨crypto, hc, -⟩ := SessionCrypto.fits_ofMaterial hm
  rw [start_eq replayWindow ids direction hc]
  cases direction with
  | send => exact ⟨rfl, crypto, hc, rfl⟩
  | recv => exact ⟨rfl, crypto, hc, rfl⟩

end Session

end SecureRtp
