import SecureRtp.Proofs.Listeners
import SecureRtp.Proofs.Transport.Activation
import SecureRtp.Proofs.Transport.Pairing
/-!
Two transports, each set up as the mirror image of the other. They stay in step through all changes of keys and
extensions, and what one sends the other one gives out.
-/
namespace SecureRtp

open Transport

namespace KeyParams

variable {params : KeyParams}

def mirror (params : KeyParams) : KeyParams :=
  ⟨params.recvSuite, params.recvMaterial, params.sendSuite, params.sendMaterial⟩

theorem Gives.mirror {send recv : SessionCrypto} (h : params.Gives send recv) : params.mirror.Gives recv send :=
  ⟨h.recv, h.send⟩

theorem fit_mirror : params.mirror.Fit ↔ params.Fit := ⟨fun h => ⟨h.recv, h.send⟩, fun h => ⟨h.recv, h.send⟩⟩

end KeyParams

namespace Paired

variable {c : SessionCrypto} {l : Ledger} {send recv : Session}

theorem setEncryptedIds (hp : Paired c l send recv) (ids : List UInt8) :
    Paired c l (send.setEncryptedIds ids) (recv.setEncryptedIds ids) :=
  ⟨hp.sound, hp.fits, hp.sender, hp.receiver, rfl, hp.external⟩

end Paired

theorem Transport.paired_pairOf {τ υ : Type} {near : Transport τ} {far : Transport υ} (kind : PacketKind)
    {c : SessionCrypto} (hc : c.Fits) (other : SessionCrypto) (hi : near.sendEncryptedIds = far.recvEncryptedIds)
    (he : near.externalAuth = false) :
    Paired c {} (near.pairOf kind c other).send (far.pairOf kind other c).recv := by
  have hsender : ∃ s : Sender, Role.sending { crypto := c } = .sending s ∧ s.crypto = c ∧
      s.Follows [] ∧ s.Counts [] := by
    refine ⟨_, rfl, rfl, ?_, ?_⟩
    · intro ssrc
      simp [numbers]
    · intro ssrc
      rfl
  have hreceiver : ∃ r : Receiver, Role.receiving { crypto := c } = .receiving r ∧ r.crypto = c ∧
      r.Remembers far.replayWindow [] [] := ⟨_, rfl, rfl, Receiver.remembers_nil _ _⟩
  cases kind with
  | rtp => exact ⟨Ledger.sound_nil, hc, hsender, hreceiver, hi.symm, he⟩
  | rtcp => exact ⟨Ledger.sound_nil, hc, hsender, hreceiver, rfl, rfl⟩

namespace Activation

def keptControls (a : Activation) (controls : List SentControl) : List SentControl :=
  match a with
  | rtpAndRtcpActive _ _ => controls
  | _ => []

/-- Every session that sends is paired with the one that receives from it. Sessions that no longer get packets of one
kind may account for other ones of that kind. -/
inductive InStep (l : Ledger) : Activation → Activation → Prop
  | unconfigured : InStep l unconfigured unconfigured
  | rtpActive {c : SessionCrypto} {near far : SessionPair} (both : Paired c l near.send far.recv) :
      InStep l (rtpActive near) (rtpActive far)
  | rtpAndRtcpActive {c c' : SessionCrypto} {near far near' far' : SessionPair} {controls : List SentControl}
      {media : List SentPacket} (rtp : Paired c { l with controls } near.send far.recv)
      (rtcp : Paired c' { l with media } near'.send far'.recv) :
      InStep l (rtpAndRtcpActive near near') (rtpAndRtcpActive far far')

namespace InStep

variable {l : Ledger} {near far : Activation}

theorem describe (h : InStep l near far) : near.describe = far.describe := by
  cases h <;> rfl

theorem withRtp (h : InStep l near far) {c : SessionCrypto} {nearRtp farRtp : SessionPair}
    (hnew : Paired c {} nearRtp.send farRtp.recv) :
    InStep ⟨[], (near.withRtp nearRtp).keptControls l.controls⟩ (near.withRtp nearRtp) (far.withRtp farRtp) := by
  cases h with
  | unconfigured => exact .rtpActive hnew
  | rtpActive both => exact .rtpActive hnew
  | rtpAndRtcpActive rtp rtcp => exact .rtpAndRtcpActive hnew rtcp

theorem setEncryptedIds (h : InStep l near far) (ids : List UInt8) :
    InStep l (near.modify (fun p => { p with send := p.send.setEncryptedIds ids }) .rtp)
      (far.modify (fun p => { p with recv := p.recv.setEncryptedIds ids }) .rtp) := by
  cases h with
  | unconfigured => exact .unconfigured
  | rtpActive both => exact .rtpActive (both.setEncryptedIds ids)
  | rtpAndRtcpActive rtp rtcp => exact .rtpAndRtcpActive (rtp.setEncryptedIds ids) rtcp

end InStep

structure Joined (l : Ledger) (near far : Activation) (kind : PacketKind) (nearPair farPair : SessionPair)
    (c : SessionCrypto) (part : Ledger) : Prop where
  near_eq : near.sessions? kind = some nearPair
  far_eq : far.sessions? kind = some farPair
  paired : Paired c part nearPair.send farPair.recv
  allows : ∀ text, l.Allows kind text → part.Allows kind text
  next : ∀ text wire send recv, Paired c (part.note kind text wire) send recv →
    InStep (l.note kind text wire) (near.modify (fun other => { other with send }) kind)
      (far.modify (fun other => { other with recv }) kind)

theorem InStep.joined {l : Ledger} {near far : Activation} (h : InStep l near far) (kind : PacketKind) :
    (near.sessions? kind = none ∧ far.sessions? kind = none) ∨
      ∃ nearPair farPair c part, Joined l near far kind nearPair farPair c part := by
  cases h with
  | unconfigured => exact .inl ⟨rfl, rfl⟩
  | rtpActive both => exact .inr ⟨_, _, _, _, rfl, rfl, both, fun _ ha => ha, fun _ _ _ _ hp => .rtpActive hp⟩
  | rtpAndRtcpActive rtp rtcp =>
    cases kind with
    | rtp => exact .inr ⟨_, _, _, _, rfl, rfl, rtp, fun _ ha => ha, fun _ _ _ _ hp => .rtpAndRtcpActive hp rtcp⟩
    | rtcp => exact .inr ⟨_, _, _, _, rfl, rfl, rtcp, fun _ ha => ha, fun _ _ _ _ hp => .rtpAndRtcpActive rtp hp⟩

end Activation

namespace Transport

variable {υ : Type}

theorem exists_send_recorded {t : Transport Recorder} (hf : t.carrier.failing = false) {kind : PacketKind}
    {pair : SessionPair} (hp : t.activation.sessions? kind = some pair) {packet : PacketBuffer}
    {options sentOptions : PacketOptions}
    (ho : (protectWith pair.send kind t.sendTimeId packet options).outcome = .ok sentOptions) (flags : UInt32) :
    let p := protectWith pair.send kind t.sendTimeId packet options
    (t.send kind packet options flags).outcome = .ok () ∧ ∃ stats, (t.send kind packet options flags).carrier =
      { t with
        activation := t.activation.modify (fun other => { other with send := p.session }) kind
        carrier := { t.carrier with sent := t.carrier.sent ++ [⟨kind, p.packet.packet, sentOptions, flags⟩] }
        stats } := by
  intro p
  have hcarrier : Carrier.send t.carrier kind p.packet sentOptions flags =
      { outcome := .ok (), packet := p.packet,
        carrier := { t.carrier with sent := t.carrier.sent ++ [⟨kind, p.packet.packet, sentOptions, flags⟩] } } := by
    change Recorder.send _ _ _ _ _ = _
    rw [Recorder.send, if_neg (by simp [hf])]
  rw [send_of_ok hp ho, handedDown, hcarrier]
  exact ⟨rfl, _, rfl⟩

theorem exists_receive_of_ok {t : Transport υ} {kind : PacketKind} {pair : SessionPair}
    (hp : t.activation.sessions? kind = some pair) {packet : PacketBuffer}
    (ho : (unprotectWith pair.recv kind packet).outcome = .ok ()) (arrival : Option Instant) :
    let u := unprotectWith pair.recv kind packet
    ∃ stats, t.receive kind packet arrival =
      emit { t with activation := t.activation.modify (fun other => { other with recv := u.session }) kind, stats }
        (.packetReceived kind u.packet.packet arrival) u.notices := by
  intro u
  simp only [receive, hp]
  rw [ho]
  exact ⟨_, rfl⟩

end Transport

/-- Two transports, and the packets that went from the near one to the far one by their present sessions. -/
structure Link (υ : Type) where
  near : Transport Recorder
  far : Transport υ
  ledger : Ledger := {}

namespace Link

inductive Event where
  | setRtpParams (params : KeyParams)
  | setRtcpParams (params : KeyParams)
  | resetParams
  | setEncryptedIds (ids : List UInt8)
  | send (kind : PacketKind) (packet : PacketBuffer) (options : PacketOptions) (flags : UInt32)
    (arrival : Option Instant)

variable {υ : Type}

def perform (l : Link υ) : Event → Link υ
  | .setRtpParams params =>
    let near := (l.near.setRtpParams params).state
    -- Sessions for control alone go on, and with them the numbers of their packets.
    ⟨near, (l.far.setRtpParams params.mirror).state, ⟨[], near.activation.keptControls l.ledger.controls⟩⟩
  | .setRtcpParams params =>
    let reply := l.near.setRtcpParams params
    let controls := match reply.outcome with
      | .ok () => []
      | .error _ => l.ledger.controls
    ⟨reply.state, (l.far.setRtcpParams params.mirror).state, { l.ledger with controls }⟩
  | .resetParams => ⟨l.near.resetParams.1, l.far.resetParams.1, {}⟩
  | .setEncryptedIds ids =>
    { l with near := (l.near.setEncryptedIds .peer ids).1, far := (l.far.setEncryptedIds .own ids).1 }
  | .send kind packet options flags arrival =>
    let near := (l.near.send kind packet options flags).carrier
    -- What the recorder got is delivered at once.
    match near.carrier.sent.drop l.near.carrier.sent.length with
    | [] => { l with near }
    | recorded :: _ =>
      ⟨near, (l.far.receive recorded.kind (.ofBytes recorded.data) arrival).state,
        l.ledger.note kind packet.packet recorded.data⟩

def after (l : Link υ) : List Event → Link υ
  | [] => l
  | event :: past => (l.after past).perform event

/-- Where there are keys, a packet that is sent can be protected under them, and its numbers are in order. -/
def Allows (l : Link υ) : Event → Prop
  | .send kind packet _ _ _ =>
    ∀ pair suite, l.near.activation.sessions? kind = some pair → pair.send.suite? = some suite →
      CanProtect suite kind packet ∧ (suite.isAead = true → packet.length ≤ Galois.maxLength) ∧
        l.ledger.Allows kind packet.packet
  | _ => True

def Proper (l : Link υ) : List Event → Prop
  | [] => True
  | event :: past => (l.after past).Allows event ∧ l.Proper past

structure Fresh (l : Link υ) : Prop where
  near : l.near.activation = .unconfigured
  far : l.far.activation = .unconfigured
  ids : l.near.sendEncryptedIds = l.far.recvEncryptedIds
  external : l.near.externalAuth = false
  working : l.near.carrier.failing = false
  ledger : l.ledger = {}
  listeners : l.far.listeners.WellFormed

/-- With keys, a packet goes down once and each listener of the far side is told of it once, as it was. Without keys
nothing goes down, and nothing happens on the far side. -/
def Delivers (l : Link υ) (kind : PacketKind) (packet : PacketBuffer) (options : PacketOptions) (flags : UInt32)
    (arrival : Option Instant) : Prop :=
  let sent := l.near.send kind packet options flags
  let next := l.perform (.send kind packet options flags arrival)
  if l.near.isActive then
    ∃ wire sentOptions,
      let received := l.far.receive kind (.ofBytes wire) arrival
      sent.outcome = .ok () ∧ sent.carrier.carrier.sent = l.near.carrier.sent ++ [⟨kind, wire, sentOptions, flags⟩] ∧
        received.outcome = .ok () ∧ next.far = received.state ∧
        l.far.listeners.Told (.packetReceived kind packet.packet arrival) received.calls received.state.listeners
  else sent = l.near.dropped kind packet ∧ next.far = l.far

structure InStep (l : Link υ) : Prop where
  activations : l.near.activation.InStep l.ledger l.far.activation
  ids : l.near.sendEncryptedIds = l.far.recvEncryptedIds
  external : l.near.externalAuth = false
  working : l.near.carrier.failing = false
  listeners : l.far.listeners.WellFormed

variable {l : Link υ}

theorem Fresh.inStep (h : l.Fresh) : l.InStep := by
  refine ⟨?_, h.ids, h.external, h.working, h.listeners⟩
  rw [h.near, h.far]
  exact .unconfigured

theorem perform_send_of_recorded {kind : PacketKind} {packet : PacketBuffer} {options : PacketOptions}
    {flags : UInt32} {near : Transport Recorder} {recorded : RecordedPacket}
    (hn : (l.near.send kind packet options flags).carrier = near)
    (hs : near.carrier.sent = l.near.carrier.sent ++ [recorded]) (arrival : Option Instant) :
    l.perform (.send kind packet options flags arrival) =
      ⟨near, (l.far.receive recorded.kind (.ofBytes recorded.data) arrival).state,
        l.ledger.note kind packet.packet recorded.data⟩ := by
  simp only [perform, hn, hs, List.drop_left]

theorem perform_send_of_inactive {kind : PacketKind} (hp : l.near.activation.sessions? kind = none)
    (packet : PacketBuffer) (options : PacketOptions) (flags : UInt32) (arrival : Option Instant) :
    l.perform (.send kind packet options flags arrival) =
      { l with near := (l.near.dropped kind packet).carrier } := by
  simp only [perform, send_of_inactive hp, List.drop_length]
  rfl

namespace InStep

variable (h : l.InStep)

include h

theorem setRtpParams (params : KeyParams) : (l.perform (.setRtpParams params)).InStep := by
  by_cases hp : params.Fit
  · obtain ⟨send, recv, hg⟩ := hp.gives
    have hnew := paired_pairOf .rtp (SessionCrypto.fits_of_ofMaterial hg.send).2 recv h.ids h.external
    simp only [perform, (setRtpParams_of_gives hg).2, (setRtpParams_of_gives hg.mirror).2]
    exact ⟨h.activations.withRtp hnew, h.ids, h.external, h.working, h.listeners⟩
  · simp only [perform, (setRtpParams_of_not_fit hp).2, (setRtpParams_of_not_fit (mt KeyParams.fit_mirror.mp hp)).2]
    exact ⟨.unconfigured, h.ids, h.external, h.working, h.listeners⟩

theorem setRtcpParams (params : KeyParams) : (l.perform (.setRtcpParams params)).InStep := by
  have ha := h.activations
  generalize hnear : l.near.activation = near at ha
  generalize hfar : l.far.activation = far at ha
  cases ha with
  | unconfigured =>
    simp only [perform, setRtcpParams_of_unconfigured hnear, setRtcpParams_of_unconfigured hfar]
    exact h
  | rtpAndRtcpActive rtp rtcp =>
    simp only [perform, setRtcpParams_of_rtpAndRtcpActive hnear, setRtcpParams_of_rtpAndRtcpActive hfar]
    exact h
  | rtpActive both =>
    by_cases hp : params.Fit
    · obtain ⟨send, recv, hg⟩ := hp.gives
      have hnew := paired_pairOf .rtcp (SessionCrypto.fits_of_ofMaterial hg.send).2 recv h.ids h.external
      simp only [perform, setRtcpParams_of_gives hnear hg, setRtcpParams_of_gives hfar hg.mirror]
      exact ⟨.rtpAndRtcpActive both hnew, h.ids, h.external, h.working, h.listeners⟩
    · obtain ⟨⟨fault, hout⟩, hstate⟩ := setRtcpParams_of_not_fit hnear hp
      have hmirror := (setRtcpParams_of_not_fit hfar (mt KeyParams.fit_mirror.mp hp)).2
      simp only [perform, hout, hstate, hmirror]
      exact h

theorem setEncryptedIds (ids : List UInt8) : (l.perform (.setEncryptedIds ids)).InStep :=
  ⟨h.activations.setEncryptedIds ids, rfl, h.external, h.working, h.listeners⟩

theorem send_of_active {kind : PacketKind} (hactive : l.near.isActive = true) {packet : PacketBuffer}
    {options : PacketOptions} {flags : UInt32} {arrival : Option Instant}
    (ha : l.Allows (.send kind packet options flags arrival)) :
    (l.perform (.send kind packet options flags arrival)).InStep ∧ l.Delivers kind packet options flags arrival := by
  obtain ⟨pair, hpair⟩ := l.near.sessions?_of_isActive hactive kind
  obtain ⟨hnone, -⟩ | ⟨nearPair, farPair, c, part, hj⟩ := h.activations.joined kind
  · cases hnone.symm.trans hpair
  · obtain ⟨s, hs, hcrypto, -, -⟩ := hj.paired.sender
    have hsuite : nearPair.send.suite? = some c.suite := by
      rw [Session.suite?, hs, ← hcrypto]
      rfl
    obtain ⟨hcan, hlen, hnext⟩ := ha nearPair c.suite hj.near_eq hsuite
    obtain ⟨⟨sentOptions, hsent⟩, htaken, htext, hpaired⟩ :=
      exchanged hj.paired hcan hlen (hj.allows _ hnext) l.near.sendTimeId options
    obtain ⟨hout, stats, hcarrier⟩ := exists_send_recorded h.working hj.near_eq hsent flags
    obtain ⟨stats', hreceive⟩ := exists_receive_of_ok hj.far_eq htaken arrival
    have hperform := perform_send_of_recorded hcarrier rfl arrival
    dsimp only at hperform
    rw [hreceive] at hperform
    have htold := h.listeners.told_emit (.packetReceived kind packet.packet arrival)
    rw [htext] at hreceive hperform
    constructor
    · rw [hperform]
      exact ⟨hj.next _ _ _ _ hpaired, h.ids, h.external, h.working, h.listeners.of_sameEntries htold.all.registered⟩
    · unfold Delivers
      rw [if_pos hactive]
      refine ⟨_, sentOptions, hout, congrArg (fun t => t.carrier.sent) hcarrier, ?_⟩
      rw [hreceive, hperform]
      exact ⟨rfl, rfl, htold⟩

theorem send_of_inactive {kind : PacketKind} (hactive : l.near.isActive = false) (packet : PacketBuffer)
    (options : PacketOptions) (flags : UInt32) (arrival : Option Instant) :
    (l.perform (.send kind packet options flags arrival)).InStep ∧ l.Delivers kind packet options flags arrival := by
  have hnone : l.near.activation.sessions? kind = none := by
    rw [← Option.not_isSome_iff_eq_none, Activation.isSome_sessions?, Bool.not_eq_true]
    exact hactive
  have hperform := perform_send_of_inactive hnone packet options flags arrival
  constructor
  · rw [hperform]
    exact ⟨h.activations, h.ids, h.external, h.working, h.listeners⟩
  · unfold Delivers
    rw [if_neg (Bool.not_eq_true _ ▸ hactive), hperform]
    exact ⟨Transport.send_of_inactive hnone packet options flags, rfl⟩

theorem send {kind : PacketKind} {packet : PacketBuffer} {options : PacketOptions} {flags : UInt32}
    {arrival : Option Instant} (ha : l.Allows (.send kind packet options flags arrival)) :
    (l.perform (.send kind packet options flags arrival)).InStep ∧ l.Delivers kind packet options flags arrival := by
  cases hactive : l.near.isActive with
  | true => exact h.send_of_active hactive ha
  | false => exact h.send_of_inactive hactive packet options flags arrival

theorem perform {event : Event} (ha : l.Allows event) : (l.perform event).InStep := by
  cases event with
  | setRtpParams params => exact h.setRtpParams params
  | setRtcpParams params => exact h.setRtcpParams params
  | resetParams => exact ⟨.unconfigured, h.ids, h.external, h.working, h.listeners⟩
  | setEncryptedIds ids => exact h.setEncryptedIds ids
  | send kind packet options flags arrival => exact (h.send ha).1

theorem after {events : List Event} (hp : l.Proper events) : (l.after events).InStep := by
  induction events with
  | nil => exact h
  | cons event past ih =>
    obtain ⟨ha, hpast⟩ := hp
    exact (ih hpast).perform ha

end InStep

theorem sameEntries_perform (l : Link υ) (event : Event) :
    l.far.listeners.SameEntries (l.perform event).far.listeners := by
  cases event with
  | setRtpParams params =>
    obtain ⟨activation, h⟩ := l.far.exists_setRtpParams params.mirror
    rw [perform, h]
    exact .refl _
  | setRtcpParams params =>
    obtain ⟨activation, h⟩ := l.far.exists_setRtcpParams params.mirror
    rw [perform, h]
    exact .refl _
  | resetParams => exact .refl _
  | setEncryptedIds ids => exact .refl _
  | send kind packet options flags arrival =>
    rw [perform]
    split
    · exact .refl _
    · rename_i recorded others hsent
      obtain ⟨-, h⟩ | ⟨pair, -, ⟨e, -, h⟩ | ⟨-, h⟩⟩ :=
        l.far.receive_cases recorded.kind (.ofBytes recorded.data) arrival <;> rw [h]
      · exact .refl _
      · exact .refl _
      · exact Listeners.sameEntries_deliverAll _ _ _

theorem sameEntries_after (l : Link υ) (events : List Event) :
    l.far.listeners.SameEntries (l.after events).far.listeners := by
  induction events with
  | nil => exact .refl _
  | cons event past ih => exact ih.trans ((l.after past).sameEntries_perform event)

theorem fresh_ofConfig [Carrier υ] {config : TransportConfig} (he : config.externalAuth = false) (carrier : υ)
    (other : TransportConfig) (actions : List Listeners.Action) :
    Fresh { near := (ofConfig {} config).1, far := (ofConfig carrier other).1.modifyListeners (·.after actions) } := by
  refine ⟨rfl, rfl, rfl, he, ?_, rfl, Listeners.wellFormed_empty.after actions⟩
  unfold ofConfig
  dsimp only
  split <;> rfl

theorem stays_in_step (hl : l.Fresh) {events : List Event} (hp : l.Proper events) :
    let now := l.after events
    now.near.activation.describe = now.far.activation.describe ∧ l.far.listeners.SameEntries now.far.listeners ∧
      ∀ kind packet options flags arrival, now.Allows (.send kind packet options flags arrival) →
        now.Delivers kind packet options flags arrival := by
  intro now
  have hnow : now.InStep := hl.inStep.after hp
  refine ⟨?_, ?_, ?_⟩
  · exact hnow.activations.describe
  · exact l.sameEntries_after events
  · intro kind packet options flags arrival ha
    exact (hnow.send ha).2

theorem stays_in_step_over_new_keys :
    let params : KeyParams := ⟨.aesCm128HmacSha1_80, zeros 30, .aeadAes128Gcm, zeros 28⟩
    let packet : PacketBuffer := ⟨[0x80, 96, 0xff, 0xff] ++ zeros 9, zeros 32⟩
    let l : Link Recorder :=
      { near := (ofConfig {} {}).1, far := (ofConfig {} {}).1.modifyListeners (·.after [.subscribe, .observe]) }
    let send : Event := .send .rtp packet {} 0 none
    let events : List Event := [.setRtpParams params, send, .setEncryptedIds [5], .setRtpParams params, send]
    let now := l.after events
    l.Fresh ∧ l.Proper events ∧ now.near.isActive = true ∧ now.Allows send ∧
      now.near.activation.describe = now.far.activation.describe ∧
      now.far.listeners.entries = [(⟨0⟩, .observer), (⟨1⟩, .channel ⟨0⟩)] ∧ now.Delivers .rtp packet {} 0 none := by
  intro params packet l send events now
  have hfresh : l.Fresh := fresh_ofConfig rfl _ _ _
  have hallows {m : Link Recorder} (hm : m.ledger.media = []) : m.Allows send := by
    intro pair suite _ _
    refine ⟨?_, ?_, ?_⟩
    · cases suite <;> decide
    · intro haead
      decide
    · intro h hread
      rw [hm]
      exact stepsAhead_nil _ _
  have hproper : l.Proper events := ⟨trivial, hallows rfl, trivial, trivial, hallows rfl, trivial⟩
  have hactive : now.near.isActive = true := by
    obtain ⟨sendCrypto, recvCrypto, hg⟩ := KeyParams.Fit.gives (show params.Fit from ⟨rfl, rfl⟩)
    obtain ⟨activation, hstate, hrtp⟩ :=
      activation_setRtpParams (createSessions_of_gives (l.after events.tail).near .rtp hg)
    have hnear : now.near = { (l.after events.tail).near with activation } := hstate
    rw [hnear, isActive, hrtp]
    rfl
  obtain ⟨hstates, hsame, hdelivers⟩ := stays_in_step hfresh hproper
  exact ⟨hfresh, hproper, hactive, hallows rfl, hstates, hsame.entries,
    hdelivers .rtp packet {} 0 none (hallows rfl)⟩

end Link

end SecureRtp
