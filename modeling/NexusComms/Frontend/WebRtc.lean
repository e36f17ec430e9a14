import NexusComms.Signaling.Events

/-! The hook `useWebRTC`: one peer connection at a time, which the events of the signaling
socket drive. A handler is run to its end, with the promises that it awaits.
-/

namespace NexusComms.Frontend

open Matchmaking Signaling

/-- What a client sends to the gateway. -/
inductive Packet where
  | connect (userId : Option Uuid)
  | disconnect
  | callInitiate (data : InitiateData)
  | callAccept (data : AcceptData)
  | callEnd (callId : Text)
  | signalOffer (callId : Text) (sdp : String)
  | signalAnswer (callId : Text) (sdp : String)
  | signalIce (callId : Text) (candidate : String)
  | joinQueue (preferredType : Option CallType)
  | queueStatusRequest
  | requestContactSave (data : ContactData)
deriving DecidableEq, Repr

/-- The event that a packet is for the gateway, with the id that its handler draws. -/
def Packet.event (socketId : SocketId) (drawn : Uuid) : Packet → Event
  | connect userId => .connect socketId userId drawn
  | disconnect => .disconnect socketId
  | callInitiate data => .callInitiate socketId data drawn
  | callAccept data => .callAccept socketId data
  | callEnd callId => .callEnd socketId callId
  | signalOffer callId sdp => .signalOffer socketId callId sdp
  | signalAnswer callId sdp => .signalAnswer socketId callId sdp
  | signalIce callId candidate => .signalIce socketId callId candidate
  | joinQueue preferredType => .joinQueue socketId preferredType drawn
  | queueStatusRequest => .queueStatusRequest socketId
  | requestContactSave data => .requestContactSave socketId data drawn

/-- The signaling states between which the handlers move a connection. -/
inductive SignalingState where
  | stable
  | haveLocalOffer
deriving DecidableEq, Repr

/-- What has been done to a connection. -/
inductive Operation where
  | setLocalDescription (sdp : String)
  | setRemoteDescription (sdp : String)
  | addIceCandidate (candidate : String)
deriving DecidableEq, Repr

/-- An `RTCPeerConnection` that has not been closed: which one it is, its signaling state and
the operations that have succeeded on it. -/
structure PeerConnection where
  id : Nat
  signalingState : SignalingState := .stable
  operations : List Operation := []
deriving DecidableEq, Repr

def PeerConnection.perform (pc : PeerConnection) (operation : Operation)
    (signalingState : SignalingState)
    : PeerConnection :=
  { pc with signalingState := signalingState, operations := pc.operations ++ [operation] }

/-- What the browser's WebRTC decides: the descriptions that it creates, and whether it takes
a remote description or a candidate. -/
structure Browser where
  createOffer : PeerConnection → String
  createAnswer : PeerConnection → String
  takesDescription : PeerConnection → String → Bool
  takesCandidate : PeerConnection → String → Bool

/-- The refs and states of `useWebRTC`, and how many connections it has made. -/
structure UseWebRTC where
  pc : Option PeerConnection
  connections : Nat
  offerSent : Bool
  remoteStream : Bool
  partnerJoined : Bool
deriving DecidableEq, Repr

namespace UseWebRTC

/-- The hook at its first render. -/
def mount (isInitiator : Bool) : UseWebRTC :=
  {
    pc := none
    connections := 0
    offerSent := false
    remoteStream := false
    partnerJoined := !isInitiator
  }

def cleanupPeerConnection (hook : UseWebRTC) : UseWebRTC :=
  { hook with pc := none, offerSent := false, remoteStream := false }

/-- A connection that exists is kept. -/
def initPeerConnection (hook : UseWebRTC) : UseWebRTC :=
  match hook.pc with
  | some _ => hook
  | none =>
      {
        hook with
        pc := some { id := hook.connections }
        connections := hook.connections + 1
      }

def handleAccepted (hook : UseWebRTC) : UseWebRTC := { hook with partnerJoined := true }

/-- The answer goes to the hook's own call. -/
def handleOffer (browser : Browser) (callId : Text) (isInitiator : Bool) (hook : UseWebRTC)
    (sdp : String)
    : UseWebRTC × List Packet :=
  match hook.pc with
  | none => (hook, [])
  | some pc =>
      if isInitiator then
        (hook, [])
      else if pc.signalingState ≠ .stable then
        (hook, [])
      else if browser.takesDescription pc sdp then
        let remote := pc.perform (.setRemoteDescription sdp) .stable
        let answer := browser.createAnswer remote
        ({ hook with pc := some (remote.perform (.setLocalDescription answer) .stable) },
          [.signalAnswer callId answer])
      else
        (hook, [])

def handleAnswer (browser : Browser) (isInitiator : Bool) (hook : UseWebRTC) (sdp : String)
    : UseWebRTC :=
  match hook.pc with
  | none => hook
  | some pc =>
      if isInitiator = false then
        hook
      else if pc.signalingState ≠ .haveLocalOffer then
        hook
      else if browser.takesDescription pc sdp then
        { hook with pc := some (pc.perform (.setRemoteDescription sdp) .stable) }
      else
        hook

def handleIce (browser : Browser) (hook : UseWebRTC) (candidate : String) : UseWebRTC :=
  match hook.pc with
  | none => hook
  | some pc =>
      if browser.takesCandidate pc candidate then
        { hook with pc := some (pc.perform (.addIceCandidate candidate) pc.signalingState) }
      else
        hook

/-- The offer of an initiator whose partner has joined, created by the effect or by
`onnegotiationneeded`. -/
def negotiate (browser : Browser) (callId : Text) (isInitiator : Bool) (hook : UseWebRTC)
    : Option (UseWebRTC × List Packet) :=
  match hook.pc with
  | none => none
  | some pc =>
      if isInitiator && hook.partnerJoined && decide (pc.signalingState = .stable) then
        let offer := browser.createOffer pc
        some
          ({
              hook with
              pc := some (pc.perform (.setLocalDescription offer) .haveLocalOffer)
              offerSent := true
            },
            [.signalOffer callId offer])
      else
        none

end UseWebRTC

end NexusComms.Frontend
