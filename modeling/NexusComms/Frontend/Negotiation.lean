import NexusComms.Concurrency.Runs

/-! The offer and the answer of a direct call, from the hooks `useWebRTC` of its two sides. A
description covers the tracks that are attached when it is created. The initiator creates one
offer, in an effect that runs when the partner has joined; `onnegotiationneeded` keeps the value
that `partnerJoined` had when the connection was made, and so never creates one.
-/

namespace NexusComms.Frontend.Negotiation

open Concurrency

abbrev TrackId := Nat

/-- The tracks that an offer or an answer covers. -/
structure Description where
  tracks : List TrackId
deriving DecidableEq, Repr

inductive SignalingState where
  | stable
  | haveLocalOffer
  | haveRemoteOffer
deriving DecidableEq, Repr

/-- A connection, with the value of `partnerJoined` that `onnegotiationneeded` has captured. -/
structure RTCPeerConnection where
  senders : List TrackId
  signalingState : SignalingState
  localDescription : Option Description
  remoteDescription : Option Description
  partnerJoined : Bool
deriving DecidableEq, Repr

/-- A handler that awaits a promise of the connection. The offer of the effect is recorded in
`offerSentRef` once it has been set. -/
inductive Handler where
  | createOffer (offer : Description) (byEffect : Bool)
  | setLocalOffer (offer : Description) (byEffect : Bool)
  | setRemoteOffer (offer : Description)
  | createAnswer (answer : Description)
  | setLocalAnswer (answer : Description)
  | setRemoteAnswer (answer : Description)
deriving DecidableEq, Repr

/-- The props, states and refs of `useWebRTC` on one side. -/
structure Peer where
  isInitiator : Bool
  isConnected : Bool
  localStream : Option (List TrackId)
  pc : Option RTCPeerConnection
  offerSent : Bool
  partnerJoined : Bool
  handlers : List Handler
deriving DecidableEq, Repr

namespace Peer

/-- The hook at its first render. -/
def mount (isInitiator : Bool) : Peer :=
  {
    isInitiator := isInitiator
    isConnected := false
    localStream := none
    pc := none
    offerSent := false
    partnerJoined := !isInitiator
    handlers := []
  }

/-- `addTrack` for the tracks of the local stream that have no sender. -/
def attach (stream : Option (List TrackId)) (pc : RTCPeerConnection) : RTCPeerConnection :=
  match stream with
  | none => pc
  | some tracks =>
      { pc with senders := pc.senders ++ tracks.filter (fun track => track ∉ pc.senders) }

/-- A connection that exists is kept. -/
def initPeerConnection (peer : Peer) : Peer :=
  match peer.pc with
  | some _ => peer
  | none =>
      let pc :=
        {
          senders := []
          signalingState := .stable
          localDescription := none
          remoteDescription := none
          partnerJoined := peer.partnerJoined
        }
      { peer with pc := some (attach peer.localStream pc) }

/-- The effect that offers: its promise is pending when it returns. -/
def offerEffect (peer : Peer) : Peer :=
  match peer.pc with
  | none => peer
  | some pc =>
      if peer.isConnected && peer.isInitiator && peer.partnerJoined
          && decide (pc.signalingState = .stable) && !peer.offerSent then
        { peer with handlers := peer.handlers ++ [.createOffer ⟨pc.senders⟩ true] }
      else
        peer

/-- The socket connects: the effects that depend on `isConnected` run. -/
def connect (peer : Peer) : Peer :=
  ({ peer with isConnected := true } : Peer).initPeerConnection.offerEffect

/-- The local stream becomes available. The effect that offers does not depend on it. -/
def media (tracks : List TrackId) (peer : Peer) : Peer :=
  { peer with localStream := some tracks, pc := peer.pc.map (attach (some tracks)) }

/-- The effects run again where the value changes. -/
def handleAccepted (peer : Peer) : Peer :=
  if peer.partnerJoined then
    peer
  else
    ({ peer with partnerJoined := true } : Peer).offerEffect

def onnegotiationneeded (peer : Peer) (pc : RTCPeerConnection) : Peer :=
  if peer.isInitiator && pc.partnerJoined then
    {
      peer with
      offerSent := true
      handlers := peer.handlers ++ [.createOffer ⟨pc.senders⟩ false]
    }
  else
    peer

/-- `handleOffer` up to its first `await`. The handlers are installed once the socket is
connected. -/
def handleOffer (offer : Description) (peer : Peer) : Peer :=
  match peer.pc with
  | none => peer
  | some pc =>
      if peer.isConnected = false then
        peer
      else if peer.isInitiator then
        peer
      else if pc.signalingState ≠ .stable then
        peer
      else
        { peer with handlers := peer.handlers ++ [.setRemoteOffer offer] }

def handleAnswer (answer : Description) (peer : Peer) : Peer :=
  match peer.pc with
  | none => peer
  | some pc =>
      if peer.isConnected = false then
        peer
      else if peer.isInitiator = false then
        peer
      else if pc.signalingState ≠ .haveLocalOffer then
        peer
      else
        { peer with handlers := peer.handlers ++ [.setRemoteAnswer answer] }

/-- A handler goes on to its next `await`: what becomes of the peer, and what it sends. A
description that does not fit the signaling state is rejected. -/
def resume (peer : Peer) (pc : RTCPeerConnection) : Handler → Peer × List Description
  | .createOffer offer byEffect =>
      ({ peer with handlers := peer.handlers ++ [.setLocalOffer offer byEffect] }, [])
  | .setLocalOffer offer byEffect =>
      if pc.signalingState = .haveRemoteOffer then
        (peer, [])
      else
        ({
          peer with
          pc := some { pc with signalingState := .haveLocalOffer, localDescription := some offer }
          offerSent := peer.offerSent || byEffect
        },
        [offer])
  | .setRemoteOffer offer =>
      if pc.signalingState = .stable then
        ({
          peer with
          pc := some { pc with signalingState := .haveRemoteOffer, remoteDescription := some offer }
          handlers := peer.handlers ++ [.createAnswer ⟨pc.senders⟩]
        },
        [])
      else
        (peer, [])
  | .createAnswer answer =>
      ({ peer with handlers := peer.handlers ++ [.setLocalAnswer answer] }, [])
  | .setLocalAnswer answer =>
      if pc.signalingState = .haveRemoteOffer then
        ({
          peer with
          pc := some { pc with signalingState := .stable, localDescription := some answer }
        },
        [answer])
      else
        (peer, [])
  | .setRemoteAnswer answer =>
      if pc.signalingState = .haveLocalOffer then
        ({
          peer with
          pc := some { pc with signalingState := .stable, remoteDescription := some answer }
        },
        [])
      else
        (peer, [])

/-- The promise of one of the handlers resolves. -/
def settle (peer : Peer) (index : Nat) : Option (Peer × List Description) :=
  match peer.handlers[index]?, peer.pc with
  | some handler, some pc =>
      some (({ peer with handlers := peer.handlers.eraseIdx index } : Peer).resume pc handler)
  | _, _ => none

end Peer

inductive Side where
  | initiator
  | other
deriving DecidableEq, Repr

/-- The two sides, what is on its way between them, and whether the partner has joined. -/
structure System where
  initiator : Peer
  other : Peer
  offers : List Description
  answers : List Description
  accepted : Bool
deriving DecidableEq, Repr

inductive Action where
  | connect (side : Side)
  | media (side : Side)
  | accepted
  | negotiationNeeded (side : Side)
  | settle (side : Side) (index : Nat)
  | deliverOffer (index : Nat)
  | deliverAnswer (index : Nat)
deriving DecidableEq, Repr

namespace System

def mount : System :=
  {
    initiator := .mount true
    other := .mount false
    offers := []
    answers := []
    accepted := false
  }

def peer (system : System) : Side → Peer
  | .initiator => system.initiator
  | .other => system.other

def put (system : System) (peer : Peer) : Side → System
  | .initiator => { system with initiator := peer }
  | .other => { system with other := peer }

/-- What a side sends is for the other one. -/
def send (system : System) (sent : List Description) : Side → System
  | .initiator => { system with offers := system.offers ++ sent }
  | .other => { system with answers := system.answers ++ sent }

/-- Each of these happens once: a side connects, its stream becomes available, the partner
joins. `negotiationneeded` fires in the state stable for tracks that no description covers. -/
def step (streams : Side → List TrackId) (system : System) : Action → Option System
  | .connect side =>
      if (system.peer side).isConnected then
        none
      else
        some (system.put (system.peer side).connect side)
  | .media side =>
      if (system.peer side).localStream.isSome then
        none
      else
        some (system.put ((system.peer side).media (streams side)) side)
  | .accepted =>
      if system.accepted then
        none
      else if system.initiator.isConnected then
        some { system with accepted := true, initiator := system.initiator.handleAccepted }
      else
        some { system with accepted := true }
  | .negotiationNeeded side =>
      (system.peer side).pc.bind fun pc =>
        if pc.signalingState = .stable
            ∧ ∃ track ∈ pc.senders, ∀ description ∈ pc.localDescription,
              track ∉ description.tracks then
          some (system.put ((system.peer side).onnegotiationneeded pc) side)
        else
          none
  | .settle side index =>
      ((system.peer side).settle index).map fun result =>
        (system.put result.1 side).send result.2 side
  | .deliverOffer index =>
      system.offers[index]?.map fun offer =>
        {
          system with
          offers := system.offers.eraseIdx index
          other := system.other.handleOffer offer
        }
  | .deliverAnswer index =>
      system.answers[index]?.map fun answer =>
        {
          system with
          answers := system.answers.eraseIdx index
          initiator := system.initiator.handleAnswer answer
        }

/-- Nothing is in flight and no handler is pending. -/
def Settled (system : System) : Prop :=
  system.initiator.handlers = [] ∧ system.other.handlers = []
    ∧ system.offers = [] ∧ system.answers = []

end System

/-- A description covers the tracks of the peer's local stream. -/
def Covers (description : Description) (peer : Peer) : Prop :=
  ∀ tracks ∈ peer.localStream, ∀ track ∈ tracks, track ∈ description.tracks

/-- Once the partner has joined, an offer and an answer have been exchanged that cover every
track of both local streams. -/
def Negotiated (system : System) : Prop :=
  system.accepted = true → ∃ caller ∈ system.initiator.pc, ∃ callee ∈ system.other.pc,
    ∃ offer answer,
      (caller.localDescription = some offer ∧ caller.remoteDescription = some answer)
      ∧ (callee.localDescription = some answer ∧ callee.remoteDescription = some offer)
      ∧ Covers offer system.initiator ∧ Covers answer system.other

/-- All orders of what happens on the two sides and between them. -/
def negotiation (streams : Side → List TrackId) : Machine System Action where
  init := .mount
  step := System.step streams

--------------------------------------------------------------------------------
-- The one exchange
--------------------------------------------------------------------------------

/-- How far the exchange has come. An acceptance or an offer that arrives before its side has
connected is not heard. -/
inductive Phase where
  | waiting
  | missed
  | creatingOffer (offer : Description)
  | settingOffer (offer : Description)
  | offered (offer : Description)
  | lost (offer : Description)
  | receivingOffer (offer : Description)
  | creatingAnswer (offer answer : Description)
  | settingAnswer (offer answer : Description)
  | answered (offer answer : Description)
  | receivingAnswer (offer answer : Description)
  | exchanged (offer answer : Description)

/-- The signaling state of a connection and its two descriptions. -/
abbrev View := SignalingState × Option Description × Option Description

def RTCPeerConnection.view (pc : RTCPeerConnection) : View :=
  (pc.signalingState, pc.localDescription, pc.remoteDescription)

def View.fresh : View := (.stable, none, none)

namespace Phase

def accepted : Phase → Bool
  | waiting => false
  | _ => true

/-- The initiator has heard that its partner has joined. -/
def joined : Phase → Bool
  | waiting | missed => false
  | _ => true

def offerSent : Phase → Bool
  | waiting | missed | creatingOffer _ | settingOffer _ => false
  | _ => true

def offer : Phase → Option Description
  | waiting | missed => none
  | creatingOffer o | settingOffer o | offered o | lost o | receivingOffer o
  | creatingAnswer o _ | settingAnswer o _ | answered o _ | receivingAnswer o _
  | exchanged o _ => some o

def answer : Phase → Option Description
  | creatingAnswer _ a | settingAnswer _ a | answered _ a | receivingAnswer _ a
  | exchanged _ a => some a
  | _ => none

/-- The other side has heard the offer. -/
def heard : Phase → Bool
  | receivingOffer _ | creatingAnswer _ _ | settingAnswer _ _ | answered _ _
  | receivingAnswer _ _ | exchanged _ _ => true
  | _ => false

def initiatorHandlers : Phase → List Handler
  | creatingOffer o => [.createOffer o true]
  | settingOffer o => [.setLocalOffer o true]
  | receivingAnswer _ a => [.setRemoteAnswer a]
  | _ => []

def otherHandlers : Phase → List Handler
  | receivingOffer o => [.setRemoteOffer o]
  | creatingAnswer _ a => [.createAnswer a]
  | settingAnswer _ a => [.setLocalAnswer a]
  | _ => []

def offers : Phase → List Description
  | offered o => [o]
  | _ => []

def answers : Phase → List Description
  | answered _ a => [a]
  | _ => []

def initiatorView : Phase → View
  | waiting | missed | creatingOffer _ | settingOffer _ => .fresh
  | offered o | lost o | receivingOffer o | creatingAnswer o _ | settingAnswer o _
  | answered o _ | receivingAnswer o _ => (.haveLocalOffer, some o, none)
  | exchanged o a => (.stable, some o, some a)

def otherView : Phase → View
  | creatingAnswer o _ | settingAnswer o _ => (.haveRemoteOffer, none, some o)
  | answered o a | receivingAnswer o a | exchanged o a => (.stable, some a, some o)
  | _ => .fresh

/-- Nothing has been missed or lost. -/
def sound : Phase → Bool
  | missed | lost _ => false
  | _ => true

end Phase

/-- A side at a phase. A side that has connected has a connection whose senders are the tracks
of its stream; that of the initiator was made before the partner joined. -/
structure PeerStands (peer : Peer) (isInitiator joined offerSent : Bool)
    (handlers : List Handler) (view : View)
    : Prop where
  role : peer.isInitiator = isInitiator
  joined : peer.partnerJoined = joined
  sent : peer.offerSent = offerSent
  handlers : peer.handlers = handlers
  connected : peer.pc.isSome = peer.isConnected
  view : ∀ pc ∈ peer.pc, pc.view = view
  senders : ∀ pc ∈ peer.pc, pc.senders = peer.localStream.getD []
  captured : isInitiator = true → ∀ pc ∈ peer.pc, pc.partnerJoined = false

/-- The system at a phase. A description that was created without a stream covers nothing. -/
structure Stands (system : System) (phase : Phase) : Prop where
  initiator : PeerStands system.initiator true phase.joined phase.offerSent
    phase.initiatorHandlers phase.initiatorView
  other : PeerStands system.other false true false phase.otherHandlers phase.otherView
  offers : system.offers = phase.offers
  answers : system.answers = phase.answers
  accepted : system.accepted = phase.accepted
  listening : phase.joined = true → system.initiator.isConnected = true
  hearing : phase.heard = true → system.other.isConnected = true
  offer : system.initiator.localStream = none → ∀ offer ∈ phase.offer, offer.tracks = []
  answer : system.other.localStream = none → ∀ answer ∈ phase.answer, answer.tracks = []

theorem mount_stands : Stands .mount .waiting := by
  constructor
  case initiator => constructor <;> simp [System.mount, Peer.mount, Phase.joined,
    Phase.offerSent, Phase.initiatorHandlers]
  case other => constructor <;> simp [System.mount, Peer.mount, Phase.otherHandlers]
  all_goals simp [System.mount, Peer.mount, Phase.offers, Phase.answers, Phase.accepted,
    Phase.joined, Phase.heard, Phase.offer, Phase.answer]

section

variable {peer : Peer} {isInitiator joined offerSent : Bool} {handlers : List Handler}
  {view : View}

/-- Who can't offer doesn't. -/
theorem offerEffect_idle (idle : (peer.isInitiator && peer.partnerJoined) = false)
    : peer.offerEffect = peer := by
  unfold Peer.offerEffect
  split
  · rfl
  · rw [if_neg]
    simp only [Bool.and_assoc, Bool.and_eq_true, not_and, Bool.and_eq_false_iff] at idle ⊢
    intro _ initiator joined
    rcases idle with other | apart
    · rw [other] at initiator
      cases initiator
    · rw [apart] at joined
      cases joined

/-- Attaching tracks changes nothing but the senders. -/
theorem attach_same (stream : Option (List TrackId)) (pc : RTCPeerConnection)
    : (Peer.attach stream pc).view = pc.view
      ∧ (Peer.attach stream pc).partnerJoined = pc.partnerJoined := by
  cases stream with
  | none => exact ⟨rfl, rfl⟩
  | some tracks => exact ⟨rfl, rfl⟩

theorem attach_senders {stream : Option (List TrackId)} {pc : RTCPeerConnection}
    (empty : pc.senders = [])
    : (Peer.attach stream pc).senders = stream.getD [] := by
  cases stream with
  | none => exact empty
  | some tracks => simp [Peer.attach, empty]

/-- A side that connects gets a fresh connection with the tracks of its stream. -/
theorem PeerStands.connect (stands : PeerStands peer isInitiator joined offerSent handlers view)
    (away : peer.isConnected = false) (idle : (isInitiator && joined) = false)
    (fresh : view = .fresh)
    : PeerStands peer.connect isInitiator joined offerSent handlers view
      ∧ peer.connect.isConnected = true ∧ peer.connect.localStream = peer.localStream := by
  have none : peer.pc = none := by simpa [away] using stands.connected
  let pc : RTCPeerConnection := ⟨[], .stable, .none, .none, peer.partnerJoined⟩
  have made : ({ peer with isConnected := true } : Peer).initPeerConnection
      = { peer with isConnected := true, pc := some (Peer.attach peer.localStream pc) } := by
    simp [Peer.initPeerConnection, none, pc]
  have connected : peer.connect
      = { peer with isConnected := true, pc := some (Peer.attach peer.localStream pc) } := by
    rw [Peer.connect, made, offerEffect_idle]
    simpa [stands.role, stands.joined] using idle
  rw [connected]
  refine ⟨{ stands with connected := rfl, view := ?_, senders := ?_, captured := ?_ }, rfl, rfl⟩
  · rintro _ ⟨⟩
    rw [(attach_same _ _).1, fresh]
    rfl
  · rintro _ ⟨⟩
    exact attach_senders rfl
  · rintro initiator _ ⟨⟩
    rw [(attach_same _ _).2]
    simpa [pc, stands.joined, initiator] using idle

/-- A stream that becomes available is attached. -/
theorem PeerStands.media (stands : PeerStands peer isInitiator joined offerSent handlers view)
    (unavailable : peer.localStream = none) (tracks : List TrackId)
    : PeerStands (peer.media tracks) isInitiator joined offerSent handlers view := by
  refine { stands with connected := ?_, view := ?_, senders := ?_, captured := ?_ }
  · have same := stands.connected
    simpa [Peer.media] using same
  · intro pc found
    obtain ⟨old, known, rfl⟩ := Option.map_eq_some_iff.mp found
    rw [(attach_same _ _).1]
    exact stands.view old known
  · intro pc found
    obtain ⟨old, known, rfl⟩ := Option.map_eq_some_iff.mp found
    have empty := stands.senders old known
    rw [unavailable] at empty
    exact attach_senders empty
  · intro initiator pc found
    obtain ⟨old, known, rfl⟩ := Option.map_eq_some_iff.mp found
    rw [(attach_same _ _).2]
    exact stands.captured initiator old known

/-- `onnegotiationneeded` offers nothing: it has captured that nobody had joined. -/
theorem PeerStands.idle (stands : PeerStands peer isInitiator joined offerSent handlers view)
    {pc : RTCPeerConnection} (found : pc ∈ peer.pc)
    : peer.onnegotiationneeded pc = peer := by
  rw [Peer.onnegotiationneeded, if_neg]
  rw [Bool.and_eq_true, not_and, stands.role]
  intro initiator
  rw [stands.captured initiator pc found]
  exact Bool.false_ne_true

end

--------------------------------------------------------------------------------
-- Steps
--------------------------------------------------------------------------------

/-- The exchange covers what is available, as far as it has come. -/
structure Covered (system : System) (phase : Phase) : Prop where
  sound : phase.sound = true
  offer : ∀ offer ∈ phase.offer, Covers offer system.initiator
  answer : ∀ answer ∈ phase.answer, Covers answer system.other

/-- A peer has created its answer. -/
def Peer.hasAnswered (peer : Peer) : Bool :=
  peer.handlers.any (fun handler => match handler with
      | .createAnswer _ | .setLocalAnswer _ => true
      | _ => false)
    || peer.pc.any (fun pc => pc.localDescription.isSome)

/-- The initiator has its stream before its partner joins, the other side before it answers,
and each of the two has connected before it is told of the other: of the acceptance, of the
offer. A stream without tracks is never late. -/
def Timely (streams : Side → List TrackId) (system : System) : Action → Prop
  | .media .initiator => system.initiator.partnerJoined = true → streams .initiator = []
  | .media .other => system.other.hasAnswered = true → streams .other = []
  | .accepted => system.initiator.isConnected = true
  | .deliverOffer _ => system.other.isConnected = true
  | _ => True

instance (streams : Side → List TrackId) (system : System) (action : Action)
    : Decidable (Timely streams system action) := by
  unfold Timely
  split
  all_goals infer_instance

section

variable {streams : Side → List TrackId} {system : System} {phase : Phase}

theorem covers_congr {description : Description} {peer peer' : Peer}
    (same : peer'.localStream = peer.localStream)
    : Covers description peer' ↔ Covers description peer := by
  rw [Covers, Covers, same]

/-- What a phase covers depends on the streams, its descriptions and whether it is sound. -/
theorem covered_congr {system' : System} {phase' : Phase}
    (initiator : system'.initiator.localStream = system.initiator.localStream)
    (other : system'.other.localStream = system.other.localStream)
    (same : (phase'.sound, phase'.offer, phase'.answer) = (phase.sound, phase.offer, phase.answer))
    : Covered system' phase' ↔ Covered system phase := by
  obtain ⟨sound, rest⟩ := Prod.mk.inj same
  obtain ⟨offer, answer⟩ := Prod.mk.inj rest
  constructor
  · intro covered
    refine ⟨sound ▸ covered.sound, fun o known => ?_, fun a known => ?_⟩
    · exact (covers_congr initiator).mp (covered.offer o (offer ▸ known))
    · exact (covers_congr other).mp (covered.answer a (answer ▸ known))
  · intro covered
    refine ⟨sound ▸ covered.sound, fun o known => ?_, fun a known => ?_⟩
    · exact (covers_congr initiator).mpr (covered.offer o (offer ▸ known))
    · exact (covers_congr other).mpr (covered.answer a (answer ▸ known))

/-- So it is after a step that is timely wherever it is taken. -/
theorem covered_still {system' : System} {phase' : Phase} {action : Action}
    (initiator : system'.initiator.localStream = system.initiator.localStream)
    (other : system'.other.localStream = system.other.localStream)
    (same : (phase'.sound, phase'.offer, phase'.answer) = (phase.sound, phase.offer, phase.answer))
    (timely : Timely streams system action)
    : Covered system' phase' ↔ Covered system phase ∧ Timely streams system action :=
  (covered_congr initiator other same).trans (and_iff_left timely).symm

/-- What a step makes of the phase and of what is covered. -/
def Advances (streams : Side → List TrackId) (system : System) (phase : Phase)
    (action : Action) (next : System)
    : Prop :=
  ∃ phase', Stands next phase'
    ∧ (Covered next phase' ↔ Covered system phase ∧ Timely streams system action)

theorem connect_advances (stands : Stands system phase) {side : Side}
    (away : (system.peer side).isConnected = false)
    : Advances streams system phase (.connect side)
        (system.put (system.peer side).connect side) := by
  cases side with
  | initiator =>
      have notJoined : phase.joined = false := by
        by_contra joined
        rw [Bool.not_eq_false] at joined
        rw [System.peer, stands.listening joined] at away
        cases away
      have fresh : phase.initiatorView = .fresh := by
        cases phase <;> first | rfl | cases notJoined
      obtain ⟨initiator, connected, stream⟩ :=
        stands.initiator.connect away (by simp [notJoined]) fresh
      refine ⟨phase, { stands with initiator := initiator, listening := ?_, offer := ?_ }, ?_⟩
      · exact fun _ => connected
      · exact fun unavailable => stands.offer (stream ▸ unavailable)
      · exact covered_still stream rfl rfl trivial
  | other =>
      have unheard : phase.heard = false := by
        by_contra heard
        rw [Bool.not_eq_false] at heard
        rw [System.peer, stands.hearing heard] at away
        cases away
      have fresh : phase.otherView = .fresh := by
        cases phase <;> first | rfl | cases unheard
      obtain ⟨other, connected, stream⟩ := stands.other.connect away rfl fresh
      refine ⟨phase, { stands with other := other, hearing := ?_, answer := ?_ }, ?_⟩
      · exact fun _ => connected
      · exact fun unavailable => stands.answer (stream ▸ unavailable)
      · exact covered_still rfl stream rfl trivial

/-- Whoever covers nothing covers a stream exactly if that is empty. -/
theorem covers_nothing {description : Description} {peer : Peer} {tracks : List TrackId}
    (nothing : description.tracks = []) (available : peer.localStream = some tracks)
    : Covers description peer ↔ tracks = [] := by
  simp [Covers, nothing, available, List.eq_nil_iff_forall_not_mem]

/-- Nothing is missing of a stream that is not there. -/
theorem covers_unavailable {description : Description} {peer : Peer}
    (unavailable : peer.localStream = none)
    : Covers description peer := by
  simp [Covers, unavailable]

/-- The initiator has heard of its partner at the phases that have an offer. -/
theorem joined_eq : phase.joined = phase.offer.isSome := by
  cases phase <;> rfl

/-- The other side has answered at the phases that have an answer. -/
theorem hasAnswered_eq (stands : Stands system phase)
    : system.other.hasAnswered = phase.answer.isSome := by
  have handlers := stands.other.handlers
  have described : ∀ pc ∈ system.other.pc, pc.localDescription = phase.otherView.2.1 :=
    fun pc found => congrArg (fun view : View => view.2.1) (stands.other.view pc found)
  have connected : phase.heard = true → system.other.pc.isSome = true := by
    intro heard
    rw [stands.other.connected, stands.hearing heard]
  rw [Peer.hasAnswered, handlers]
  cases known : system.other.pc with
  | none =>
      have unheard : phase.heard = false := by
        by_contra heard
        simp [known] at connected
        exact heard connected
      cases phase <;> first | rfl | cases unheard
  | some pc =>
      rw [Option.any_some, described pc known]
      cases phase <;> rfl

theorem media_advances (stands : Stands system phase) {side : Side}
    (unavailable : (system.peer side).localStream = none)
    : Advances streams system phase (.media side)
        (system.put ((system.peer side).media (streams side)) side) := by
  cases side with
  | initiator =>
      refine ⟨phase, { stands with
        initiator := stands.initiator.media unavailable _
        offer := fun unset => nomatch unset }, ?_⟩
      have late {offer : Description} (known : offer ∈ phase.offer)
          : Covers offer (system.initiator.media (streams .initiator))
            ↔ streams .initiator = [] :=
        covers_nothing (stands.offer unavailable offer known) rfl
      have joined : system.initiator.partnerJoined = phase.offer.isSome :=
        stands.initiator.joined.trans joined_eq
      constructor
      · intro covered
        refine ⟨⟨covered.sound, fun _ _ => covers_unavailable unavailable, covered.answer⟩, ?_⟩
        intro heard
        rw [joined] at heard
        obtain ⟨offer, known⟩ := Option.isSome_iff_exists.mp heard
        exact (late known).mp (covered.offer offer known)
      · rintro ⟨covered, timely⟩
        refine ⟨covered.sound, fun offer known => (late known).mpr (timely ?_), covered.answer⟩
        rw [joined, Option.isSome_iff_exists]
        exact ⟨offer, known⟩
  | other =>
      refine ⟨phase, { stands with
        other := stands.other.media unavailable _
        answer := fun unset => nomatch unset }, ?_⟩
      have late {answer : Description} (known : answer ∈ phase.answer)
          : Covers answer (system.other.media (streams .other)) ↔ streams .other = [] :=
        covers_nothing (stands.answer unavailable answer known) rfl
      have answered := hasAnswered_eq stands
      constructor
      · intro covered
        refine ⟨⟨covered.sound, covered.offer, fun _ _ => covers_unavailable unavailable⟩, ?_⟩
        intro already
        rw [answered] at already
        obtain ⟨answer, known⟩ := Option.isSome_iff_exists.mp already
        exact (late known).mp (covered.answer answer known)
      · rintro ⟨covered, timely⟩
        refine ⟨covered.sound, covered.offer, fun answer known => (late known).mpr (timely ?_)⟩
        rw [answered, Option.isSome_iff_exists]
        exact ⟨answer, known⟩

/-- What has just been created from the senders covers the stream. -/
theorem covers_senders {peer : Peer} {isInitiator joined offerSent : Bool}
    {handlers : List Handler} {view : View}
    (stands : PeerStands peer isInitiator joined offerSent handlers view)
    {pc : RTCPeerConnection} (found : pc ∈ peer.pc)
    : Covers ⟨pc.senders⟩ peer := by
  intro tracks available track member
  rw [stands.senders pc found, Option.mem_def.mp available]
  exact member

/-- A side that listens has a connection. -/
theorem PeerStands.exists_pc {peer : Peer} {isInitiator joined offerSent : Bool}
    {handlers : List Handler} {view : View}
    (stands : PeerStands peer isInitiator joined offerSent handlers view)
    (connected : peer.isConnected = true)
    : ∃ pc ∈ peer.pc, pc.view = view := by
  rw [← stands.connected] at connected
  obtain ⟨pc, found⟩ := Option.isSome_iff_exists.mp connected
  exact ⟨pc, found, stands.view pc found⟩

theorem accepted_advances (stands : Stands system phase) (before : system.accepted = false)
    : Advances streams system phase .accepted
        (if system.initiator.isConnected then
          { system with accepted := true, initiator := system.initiator.handleAccepted }
        else
          { system with accepted := true }) := by
  have waiting : phase = .waiting := by
    have := stands.accepted.symm.trans before
    cases phase <;> first | rfl | cases this
  subst waiting
  split
  · next connected =>
      obtain ⟨pc, found, view⟩ := stands.initiator.exists_pc connected
      have stable : pc.signalingState = .stable := congrArg Prod.fst view
      have offers : system.initiator.handleAccepted
          = {
            system.initiator with
            partnerJoined := true
            handlers := [.createOffer ⟨pc.senders⟩ true] } := by
        have initiator := stands.initiator
        simp only [Peer.handleAccepted, Peer.offerEffect, initiator.joined, Phase.joined,
          Bool.false_eq_true, if_false, Option.mem_def.mp found, connected, initiator.role, stable,
          initiator.sent, Phase.offerSent, initiator.handlers, Phase.initiatorHandlers,
          Bool.and_true, decide_true, Bool.not_false, if_true, List.nil_append]
      have sides : PeerStands system.initiator.handleAccepted true true false
          [.createOffer ⟨pc.senders⟩ true] .fresh := by
        rw [offers]
        exact { stands.initiator with joined := rfl, handlers := rfl }
      have stream : system.initiator.handleAccepted.localStream = system.initiator.localStream := by
        rw [offers]
      refine ⟨.creatingOffer ⟨pc.senders⟩, { stands with
        initiator := sides, accepted := rfl, listening := ?_, hearing := ?_, offer := ?_ }, ?_⟩
      · intro _
        rw [offers]
        exact connected
      · exact fun heard => nomatch heard
      · rintro unavailable _ ⟨⟩
        rw [stands.initiator.senders pc found, ← stream, unavailable]
        rfl
      · refine iff_of_true ⟨rfl, ?_, fun _ none => nomatch none⟩ ⟨⟨rfl, ?_, ?_⟩, connected⟩
        · rintro _ ⟨⟩
          exact (covers_congr stream).mpr (covers_senders stands.initiator found)
        · exact fun _ none => nomatch none
        · exact fun _ none => nomatch none
  · next away =>
      refine ⟨.missed, { stands with accepted := rfl, listening := ?_ }, ?_⟩
      · exact fun joined => nomatch joined
      · exact iff_of_false (fun covered => Bool.noConfusion covered.sound) (fun both => away both.2)

theorem view_eq {pc : RTCPeerConnection} {state : SignalingState} {own remote : Option Description}
    : pc.view = (state, own, remote)
      ↔ pc.signalingState = state ∧ pc.localDescription = own ∧ pc.remoteDescription = remote := by
  simp [RTCPeerConnection.view]

theorem PeerStands.connected_of {peer : Peer} {isInitiator joined offerSent : Bool}
    {handlers : List Handler} {view : View}
    (stands : PeerStands peer isInitiator joined offerSent handlers view)
    {pc : RTCPeerConnection} (found : pc ∈ peer.pc)
    : peer.isConnected = true := by
  rw [← stands.connected, Option.mem_def.mp found]
  rfl

theorem single {α : Type} {h h' : α} {index : Nat} (found : [h][index]? = some h')
    : index = 0 ∧ h = h' := by
  cases index with
  | zero => exact ⟨rfl, Option.some.inj found⟩
  | succ index => simp at found

/-- The handler that goes on, and the connection that it waits for. -/
theorem settle_some {peer : Peer} {index : Nat} {result : Peer × List Description}
    (settled : peer.settle index = some result)
    : ∃ handler, peer.handlers[index]? = some handler ∧ ∃ pc ∈ peer.pc,
        result = ({ peer with handlers := peer.handlers.eraseIdx index } : Peer).resume pc handler := by
  unfold Peer.settle at settled
  split at settled
  · next handler pc pending found =>
      exact ⟨handler, pending, pc, found, (Option.some.inj settled).symm⟩
  · cases settled

theorem settle_initiator_advances (stands : Stands system phase) {index : Nat}
    {result : Peer × List Description} (settled : system.initiator.settle index = some result)
    : Advances streams system phase (.settle .initiator index)
        ((system.put result.1 .initiator).send result.2 .initiator) := by
  obtain ⟨handler, pending, pc, found, rfl⟩ := settle_some settled
  have view := stands.initiator.view pc found
  rw [stands.initiator.handlers] at pending
  have view := stands.initiator.view pc found
  have handlers := stands.initiator.handlers
  cases phase with
  | creatingOffer offer =>
      obtain ⟨rfl, rfl⟩ := single pending
      refine ⟨.settingOffer offer, { stands with
        initiator := { stands.initiator with handlers := ?_ }, offers := ?_ },
        covered_still rfl rfl rfl trivial⟩
      · simp [System.send, System.put, Peer.resume, handlers, Phase.initiatorHandlers]
      · simp [System.send, System.put, Peer.resume, stands.offers, Phase.offers]
  | settingOffer offer =>
      obtain ⟨rfl, rfl⟩ := single pending
      obtain ⟨state, _, remote⟩ := view_eq.mp view
      refine ⟨.offered offer, ?_⟩
      simp only [Peer.resume, state, reduceCtorEq, if_false]
      refine ⟨{ stands with
        initiator := { stands.initiator with
          sent := Bool.or_true _
          handlers := by simp [System.send, System.put, handlers, Phase.initiatorHandlers]
          connected := (stands.initiator.connected_of found).symm
          view := ?_, senders := ?_, captured := ?_ }
        offers := by simp [System.send, System.put, stands.offers, Phase.offers] },
        covered_still rfl rfl rfl trivial⟩
      · rintro _ ⟨⟩
        exact view_eq.mpr ⟨rfl, rfl, remote⟩
      · rintro _ ⟨⟩
        exact stands.initiator.senders pc found
      · rintro _ _ ⟨⟩
        exact stands.initiator.captured rfl pc found
  | receivingAnswer offer answer =>
      obtain ⟨rfl, rfl⟩ := single pending
      obtain ⟨state, own, _⟩ := view_eq.mp view
      refine ⟨.exchanged offer answer, ?_⟩
      simp only [Peer.resume, state, if_true]
      refine ⟨{ stands with
        initiator := { stands.initiator with
          handlers := by simp [System.send, System.put, handlers, Phase.initiatorHandlers]
          connected := (stands.initiator.connected_of found).symm
          view := ?_, senders := ?_, captured := ?_ }
        offers := by simp [System.send, System.put, stands.offers, Phase.offers] },
        covered_still rfl rfl rfl trivial⟩
      · rintro _ ⟨⟩
        exact view_eq.mpr ⟨rfl, own, rfl⟩
      · rintro _ ⟨⟩
        exact stands.initiator.senders pc found
      · rintro _ _ ⟨⟩
        exact stands.initiator.captured rfl pc found
  | waiting => cases pending
  | missed => cases pending
  | offered offer => cases pending
  | lost offer => cases pending
  | receivingOffer offer => cases pending
  | creatingAnswer offer answer => cases pending
  | settingAnswer offer answer => cases pending
  | answered offer answer => cases pending
  | exchanged offer answer => cases pending

theorem settle_other_advances (stands : Stands system phase) {index : Nat}
    {result : Peer × List Description} (settled : system.other.settle index = some result)
    : Advances streams system phase (.settle .other index)
        ((system.put result.1 .other).send result.2 .other) := by
  obtain ⟨handler, pending, pc, found, rfl⟩ := settle_some settled
  have view := stands.other.view pc found
  rw [stands.other.handlers] at pending
  have handlers := stands.other.handlers
  cases phase with
  | receivingOffer offer =>
      obtain ⟨rfl, rfl⟩ := single pending
      obtain ⟨state, own, _⟩ := view_eq.mp view
      refine ⟨.creatingAnswer offer ⟨pc.senders⟩, ?_⟩
      simp only [Peer.resume, state, if_true]
      refine ⟨{ stands with
        other := { stands.other with
          handlers := by simp [System.send, System.put, handlers, Phase.otherHandlers]
          connected := (stands.other.connected_of found).symm
          view := ?_, senders := ?_, captured := fun initiator => nomatch initiator }
        answers := by simp [System.send, System.put, stands.answers, Phase.answers]
        answer := ?_ }, ?_⟩
      · rintro _ ⟨⟩
        exact view_eq.mpr ⟨rfl, own, rfl⟩
      · rintro _ ⟨⟩
        exact stands.other.senders pc found
      · rintro (unavailable : system.other.localStream = none) _ ⟨⟩
        rw [stands.other.senders pc found, unavailable]
        rfl
      · constructor
        · exact fun covered => ⟨⟨rfl, covered.offer, fun _ none => nomatch none⟩, trivial⟩
        · rintro ⟨covered, _⟩
          refine ⟨rfl, covered.offer, ?_⟩
          rintro _ ⟨⟩
          exact covers_senders stands.other found
  | creatingAnswer offer answer =>
      obtain ⟨rfl, rfl⟩ := single pending
      refine ⟨.settingAnswer offer answer, { stands with
        other := { stands.other with handlers := ?_ }, answers := ?_ },
        covered_still rfl rfl rfl trivial⟩
      · simp [System.send, System.put, Peer.resume, handlers, Phase.otherHandlers]
      · simp [System.send, System.put, Peer.resume, stands.answers, Phase.answers]
  | settingAnswer offer answer =>
      obtain ⟨rfl, rfl⟩ := single pending
      obtain ⟨state, _, remote⟩ := view_eq.mp view
      refine ⟨.answered offer answer, ?_⟩
      simp only [Peer.resume, state, if_true]
      refine ⟨{ stands with
        other := { stands.other with
          handlers := by simp [System.send, System.put, handlers, Phase.otherHandlers]
          connected := (stands.other.connected_of found).symm
          view := ?_, senders := ?_, captured := fun initiator => nomatch initiator }
        answers := by simp [System.send, System.put, stands.answers, Phase.answers] },
        covered_still rfl rfl rfl trivial⟩
      · rintro _ ⟨⟩
        exact view_eq.mpr ⟨rfl, rfl, remote⟩
      · rintro _ ⟨⟩
        exact stands.other.senders pc found
  | waiting => cases pending
  | missed => cases pending
  | creatingOffer offer => cases pending
  | settingOffer offer => cases pending
  | offered offer => cases pending
  | lost offer => cases pending
  | answered offer answer => cases pending
  | receivingAnswer offer answer => cases pending
  | exchanged offer answer => cases pending

/-- The other side hears an offer exactly if it has connected. -/
theorem deliverOffer_advances (stands : Stands system phase) {index : Nat} {offer : Description}
    (sent : system.offers[index]? = some offer)
    : Advances streams system phase (.deliverOffer index)
        {
          system with
          offers := system.offers.eraseIdx index
          other := system.other.handleOffer offer
        } := by
  rw [stands.offers] at sent
  obtain ⟨rfl, rfl⟩ : phase = .offered offer ∧ index = 0 := by
    cases phase with
    | offered o =>
        obtain ⟨rfl, rfl⟩ := single sent
        exact ⟨rfl, rfl⟩
    | _ => cases sent
  have none : system.offers.eraseIdx 0 = [] := by
    rw [stands.offers]
    rfl
  cases connected : system.other.isConnected with
  | false =>
      have unmade : system.other.pc = .none := by simpa [connected] using stands.other.connected
      have unheard : system.other.handleOffer offer = system.other := by
        rw [Peer.handleOffer, unmade]
      refine ⟨.lost offer, { stands with offers := none, other := ?_, hearing := ?_, answer := ?_ }, ?_⟩
      · rw [unheard]
        exact stands.other
      · exact fun heard => nomatch heard
      · exact fun _ _ none => nomatch none
      · refine iff_of_false (fun covered => Bool.noConfusion covered.sound) (fun both => ?_)
        have timely : system.other.isConnected = true := both.2
        rw [connected] at timely
        cases timely
  | true =>
      obtain ⟨pc, found, view⟩ := stands.other.exists_pc connected
      have state : pc.signalingState = .stable := congrArg Prod.fst view
      have heard : system.other.handleOffer offer
          = { system.other with handlers := [.setRemoteOffer offer] } := by
        simp only [Peer.handleOffer, Option.mem_def.mp found, connected, stands.other.role, state,
          stands.other.handlers, Phase.otherHandlers, Bool.true_eq_false, Bool.false_eq_true, ne_eq,
          not_true, if_false, List.nil_append]
      rw [heard]
      exact ⟨.receivingOffer offer, { stands with
        offers := none
        other := { stands.other with handlers := rfl }
        hearing := fun _ => connected }, covered_still rfl rfl rfl connected⟩

theorem deliverAnswer_advances (stands : Stands system phase) {index : Nat}
    {answer : Description} (sent : system.answers[index]? = some answer)
    : Advances streams system phase (.deliverAnswer index)
        {
          system with
          answers := system.answers.eraseIdx index
          initiator := system.initiator.handleAnswer answer
        } := by
  rw [stands.answers] at sent
  obtain ⟨offer, rfl, rfl⟩ : ∃ offer, phase = .answered offer answer ∧ index = 0 := by
    cases phase with
    | answered o a =>
        obtain ⟨rfl, rfl⟩ := single sent
        exact ⟨o, rfl, rfl⟩
    | _ => cases sent
  have none : system.answers.eraseIdx 0 = [] := by
    rw [stands.answers]
    rfl
  have connected := stands.listening rfl
  obtain ⟨pc, found, view⟩ := stands.initiator.exists_pc connected
  have state : pc.signalingState = .haveLocalOffer := congrArg Prod.fst view
  have heard : system.initiator.handleAnswer answer
      = { system.initiator with handlers := [.setRemoteAnswer answer] } := by
    simp only [Peer.handleAnswer, Option.mem_def.mp found, connected, stands.initiator.role, state,
      stands.initiator.handlers, Phase.initiatorHandlers, Bool.true_eq_false, ne_eq, not_true,
      if_false, List.nil_append]
  rw [heard]
  exact ⟨.receivingAnswer offer answer, { stands with
    answers := none
    initiator := { stands.initiator with handlers := rfl } }, covered_still rfl rfl rfl trivial⟩

/-- Every step leads from a phase to a phase. What is covered stays so exactly if the step is
timely, and what is not covered will not be. -/
theorem step_advances (stands : Stands system phase) {action : Action} {next : System}
    (stepped : system.step streams action = some next)
    : Advances streams system phase action next := by
  cases action with
  | connect side =>
      simp only [System.step] at stepped
      split at stepped
      · cases stepped
      · next away =>
          cases stepped
          exact connect_advances stands (Bool.eq_false_iff.mpr away)
  | media side =>
      simp only [System.step] at stepped
      split at stepped
      · cases stepped
      · next unavailable =>
          cases stepped
          exact media_advances stands (by simpa using unavailable)
  | accepted =>
      simp only [System.step] at stepped
      split at stepped
      · cases stepped
      · next before =>
          have advances : Advances streams system phase .accepted _ :=
            accepted_advances stands (Bool.eq_false_iff.mpr before)
          split at stepped
          · next connected =>
              cases stepped
              rwa [if_pos connected] at advances
          · next away =>
              cases stepped
              rwa [if_neg away] at advances
  | negotiationNeeded side =>
      obtain ⟨pc, found, fired⟩ := Option.bind_eq_some_iff.mp stepped
      split at fired
      · cases fired
        have idle : (system.peer side).onnegotiationneeded pc = system.peer side := by
          cases side with
          | initiator => exact stands.initiator.idle found
          | other => exact stands.other.idle found
        have same : system.put (system.peer side) side = system := by
          cases side <;> rfl
        rw [idle, same]
        exact ⟨phase, stands, covered_still rfl rfl rfl trivial⟩
      · cases fired
  | settle side index =>
      obtain ⟨result, settled, rfl⟩ := Option.map_eq_some_iff.mp stepped
      cases side with
      | initiator => exact settle_initiator_advances stands settled
      | other => exact settle_other_advances stands settled
  | deliverOffer index =>
      obtain ⟨offer, sent, rfl⟩ := Option.map_eq_some_iff.mp stepped
      exact deliverOffer_advances stands sent
  | deliverAnswer index =>
      obtain ⟨answer, sent, rfl⟩ := Option.map_eq_some_iff.mp stepped
      exact deliverAnswer_advances stands sent

/-- Once everything has settled, media are negotiated exactly if they are covered. -/
theorem negotiated_iff_covered (stands : Stands system phase) (settled : system.Settled)
    : Negotiated system ↔ Covered system phase := by
  obtain ⟨initiatorIdle, otherIdle, noOffers, noAnswers⟩ := settled
  rw [stands.initiator.handlers] at initiatorIdle
  rw [stands.other.handlers] at otherIdle
  rw [stands.offers] at noOffers
  rw [stands.answers] at noAnswers
  have callers := stands.initiator.view
  cases phase with
  | waiting =>
      have nothing : Covered system .waiting := by
        constructor
        case sound => rfl
        case offer => rintro _ ⟨⟩
        case answer => rintro _ ⟨⟩
      refine iff_of_true (fun accepted => ?_) nothing
      cases stands.accepted.symm.trans accepted
  | missed =>
      refine iff_of_false (fun negotiated => ?_) (fun covered => Bool.noConfusion covered.sound)
      obtain ⟨caller, found, _, _, offer, answer, ⟨own, _⟩, _⟩ := negotiated stands.accepted
      cases own.symm.trans (view_eq.mp (callers caller found)).2.1
  | lost offer =>
      refine iff_of_false (fun negotiated => ?_) (fun covered => Bool.noConfusion covered.sound)
      obtain ⟨caller, found, _, _, offer, answer, ⟨_, remote⟩, _⟩ := negotiated stands.accepted
      cases remote.symm.trans (view_eq.mp (callers caller found)).2.2
  | exchanged offer answer =>
      constructor
      · intro negotiated
        obtain ⟨caller, found, _, _, offer', answer', ⟨own, remote⟩, _, mine, theirs⟩ :=
          negotiated stands.accepted
        obtain ⟨_, own', remote'⟩ := view_eq.mp (callers caller found)
        cases own.symm.trans own'
        cases remote.symm.trans remote'
        refine ⟨rfl, ?_, ?_⟩
        · rintro _ ⟨⟩
          exact mine
        · rintro _ ⟨⟩
          exact theirs
      · intro covered _
        obtain ⟨caller, found, view⟩ := stands.initiator.exists_pc (stands.listening rfl)
        obtain ⟨callee, there, view'⟩ := stands.other.exists_pc (stands.hearing rfl)
        exact ⟨caller, found, callee, there, offer, answer, (view_eq.mp view).2,
          (view_eq.mp view').2, covered.offer offer rfl, covered.answer answer rfl⟩
  | creatingOffer offer => cases initiatorIdle
  | settingOffer offer => cases initiatorIdle
  | receivingAnswer offer answer => cases initiatorIdle
  | receivingOffer offer => cases otherIdle
  | creatingAnswer offer answer => cases otherIdle
  | settingAnswer offer answer => cases otherIdle
  | offered offer => cases noOffers
  | answered offer answer => cases noAnswers

end

/-- Once nothing is in flight and no handler is pending, all media has been negotiated exactly if
every step has been timely: the initiator had its stream before its partner joined and the other
side before it answered, and both had connected before they were told of each other. -/
theorem negotiated_iff (streams : Side → List TrackId) {actions : List Action}
    {system : System} (run : (negotiation streams).Reaches actions system)
    (settled : system.Settled)
    : Negotiated system ↔ (negotiation streams).Along (Timely streams) .mount actions := by
  obtain ⟨phase, stands, covered⟩ := (negotiation streams).good_iff_along Stands Covered
    (fun stands stepped => step_advances stands stepped) Phase.waiting mount_stands run
  have start : Covered .mount .waiting := by
    constructor
    case sound => rfl
    case offer => rintro _ ⟨⟩
    case answer => rintro _ ⟨⟩
  rw [negotiated_iff_covered stands settled, covered]
  exact and_iff_right start

/-- Two tracks of the initiator, and one of the other side. -/
def someStreams : Side → List TrackId
  | .initiator => [1, 2]
  | .other => [3]

/-- Both streams are there before the partner joins. -/
def inTime : List Action :=
  [
    .connect .initiator, .media .initiator, .connect .other, .media .other, .accepted,
    .settle .initiator 0, .settle .initiator 0, .deliverOffer 0,
    .settle .other 0, .settle .other 0, .settle .other 0, .deliverAnswer 0,
    .settle .initiator 0
  ]

/-- The initiator's stream comes after its partner, and `negotiationneeded` fires for it. -/
def tooLate : List Action :=
  [
    .connect .initiator, .connect .other, .media .other, .accepted,
    .settle .initiator 0, .settle .initiator 0, .deliverOffer 0,
    .settle .other 0, .settle .other 0, .settle .other 0, .deliverAnswer 0,
    .settle .initiator 0, .media .initiator, .negotiationNeeded .initiator
  ]

theorem negotiated_in_time
    : ∃ system, (negotiation someStreams).Reaches inTime system ∧ Negotiated system := by
  have run : (negotiation someStreams).Reaches inTime _ := rfl
  exact ⟨_, run, (negotiated_iff someStreams run ⟨rfl, rfl, rfl, rfl⟩).mpr (by decide)⟩

/-- The initiator's tracks are in no description: nothing is pending, and nothing will be sent. -/
theorem not_negotiated
    : ∃ system, (negotiation someStreams).Reaches tooLate system ∧ system.Settled
        ∧ system.initiator.localStream = some [1, 2]
        ∧ (∃ pc ∈ system.initiator.pc, pc.localDescription = some ⟨[]⟩)
        ∧ ¬ Negotiated system := by
  refine ⟨_, rfl, ⟨rfl, rfl, rfl, rfl⟩, rfl, ⟨_, rfl, rfl⟩, fun negotiated => ?_⟩
  obtain ⟨caller, found, _, _, offer, _, ⟨own, _⟩, _, mine, _⟩ := negotiated rfl
  cases found
  cases own
  exact absurd (mine [1, 2] rfl 1 (by decide)) (by decide)

end NexusComms.Frontend.Negotiation
