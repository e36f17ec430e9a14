import NexusComms.Frontend.WebRtc

/-! The pages that use the signaling socket, and a browser tab that shows one page at a time.
All components of a page share one socket, which `useSignaling` connects when the page is
mounted and disconnects when it is unmounted. Group calls are left out.
-/

namespace NexusComms.Frontend

open Matchmaking Signaling

inductive MatchState where
  | idle
  | queue
  | matched
deriving DecidableEq, Repr

/-- What `match:found` brings, as far as the page reads it again. -/
structure PartnerInfo where
  bothRegistered : Bool
  partnerUserId : Option Uuid
deriving DecidableEq, Repr

/-- The states of `AnonymousRoom`, and its ref `queuedRef`. -/
structure AnonymousRoom where
  matchState : MatchState := .queue
  callId : Option Uuid := none
  isInitiator : Bool := false
  showContactSave : Bool := false
  incomingRequestId : Option Uuid := none
  contactRequestSent : Bool := false
  partnerInfo : Option PartnerInfo := none
  onlineUsers : Nat := 0
  searchingUsers : Nat := 0
  queued : Bool := false
deriving DecidableEq, Repr

/-- The states of `CallContent`; the first two come from the URL. -/
structure CallContent where
  callId : Text
  isInitiator : Bool
  partnerUserId : Option Uuid := none
  contactRequestSent : Bool := false
deriving DecidableEq, Repr

/-- The payload of `call:incoming` that the dashboard keeps. -/
structure IncomingCall where
  callId : Uuid
  callType : CallType
deriving DecidableEq, Repr

inductive Page where
  | home
  | dashboard (incomingCall : Option IncomingCall)
  | call (content : CallContent)
  | anonymous (room : AnonymousRoom)
deriving DecidableEq, Repr

/-- Where `router.push` goes. -/
inductive Destination where
  | home
  | dashboard
  | call (callId : Text) (isInitiator : Bool)
  | anonymous
deriving DecidableEq, Repr

/-- A page at its first render. -/
def Destination.page : Destination → Page
  | home => .home
  | dashboard => .dashboard none
  | call callId isInitiator => .call { callId := callId, isInitiator := isInitiator }
  | anonymous => .anonymous {}

namespace Page

def usesSignaling : Page → Bool
  | home => false
  | _ => true

/-- The `callId` that the page passes to `useWebRTC`. -/
def callId : Page → Text
  | call content => content.callId
  | anonymous room => (room.callId.map Text.uuid).getD .empty
  | _ => .empty

/-- The `isInitiator` that the page passes to `useWebRTC`. -/
def isInitiator : Page → Bool
  | call content => content.isInitiator
  | anonymous room => room.isInitiator
  | _ => false

end Page

/-- What a client receives from the gateway. -/
inductive Incoming where
  | connected
  | ack (callId : Uuid)
  | message (message : Message)
deriving DecidableEq, Repr

/-- A browser tab: the subject of the access token in its storage, the socket's id, whether
`useSignaling` has seen it connected, whether there is a local stream, the page with its hook,
and the navigation that `router.push` has begun. -/
structure Tab where
  userId : Option Uuid
  socket : Option SocketId := none
  isConnected : Bool := false
  localStream : Bool := false
  page : Page := .home
  hook : UseWebRTC := .mount false
  router : Option Destination := none
deriving DecidableEq, Repr

/-- Packets with the socket that they are sent over. -/
abbrev Sent := List (SocketId × Packet)

namespace Tab

/-- `emit`. -/
def emit (tab : Tab) (packets : List Packet) : Sent :=
  match tab.socket with
  | none => []
  | some socketId => packets.map (fun packet => (socketId, packet))

/-- The call that the tab is in. -/
def currentCall (tab : Tab) : Option Text :=
  if tab.page.callId.truthy then some tab.page.callId else none

/-- The handlers of `useWebRTC` are on the socket. -/
def listens (tab : Tab) : Bool := tab.isConnected && tab.page.callId.truthy

/-- The dependencies of the effect in `AnonymousRoom`. -/
def queueDeps (tab : Tab) : Option (Bool × MatchState × Bool) :=
  match tab.page with
  | .anonymous room => some (tab.isConnected, room.matchState, room.showContactSave)
  | _ => none

/-- What a render shows. Refs are not part of it. -/
def rendered (tab : Tab) : Bool × Bool × Page × Bool × Bool :=
  (tab.isConnected, tab.localStream,
    match tab.page with
    | .anonymous room => .anonymous { room with queued := false }
    | page => page,
    tab.hook.remoteStream, tab.hook.partnerJoined)

/-- The effect in `AnonymousRoom`. -/
def queueEffect (tab : Tab) : Tab × List Packet :=
  match tab.page with
  | .anonymous room =>
      if tab.isConnected then
        if room.matchState = .queue ∧ room.showContactSave = false ∧ room.queued = false then
          ({ tab with page := .anonymous { room with queued := true } },
            [.queueStatusRequest, .joinQueue (some .video)])
        else
          (tab, [.queueStatusRequest])
      else
        (tab, [])
  | _ => (tab, [])

/-- The effects of a render. `onCallEnded` is new in every render, so that the effect of
`useWebRTC` that calls `initPeerConnection` runs each time. -/
def effects (before tab : Tab) : Tab × List Packet :=
  let initialised :=
    if tab.listens then { tab with hook := tab.hook.initPeerConnection } else tab
  if tab.queueDeps = before.queueDeps then (initialised, []) else initialised.queueEffect

/-- The tab after a change, which is rendered if a state has changed. -/
def commit (before : Tab) (changed : Tab × List Packet) : Tab × List Packet :=
  if changed.1.rendered = before.rendered then
    changed
  else
    let settled := effects before changed.1
    (settled.1, changed.2 ++ settled.2)

/-- The `onCallEnded` that the page passes to `useWebRTC`. -/
def onCallEnded (tab : Tab) : Tab × List Packet :=
  match tab.page with
  | .anonymous room =>
      ({
          tab with
          page := .anonymous {
            room with
            showContactSave := false
            callId := none
            partnerInfo := none
            isInitiator := false
            contactRequestSent := false
            matchState := .queue
            queued := true
          }
        },
        [.joinQueue (some .video)])
  | .call _ => ({ tab with localStream := false, router := some .home }, [])
  | _ => (tab, [])

/-- The handlers that `useWebRTC` has put on the socket. -/
def receiveHook (browser : Browser) (tab : Tab) : Message → Tab × List Packet
  | .callAccepted _ _ _ => ({ tab with hook := tab.hook.handleAccepted }, [])
  | .signalOffer _ sdp =>
      let answered :=
        tab.hook.handleOffer browser tab.page.callId tab.page.isInitiator sdp
      ({ tab with hook := answered.1 }, answered.2)
  | .signalAnswer _ sdp =>
      ({ tab with hook := tab.hook.handleAnswer browser tab.page.isInitiator sdp }, [])
  | .signalIce _ candidate => ({ tab with hook := tab.hook.handleIce browser candidate }, [])
  | .callEnded _ _ => onCallEnded { tab with hook := tab.hook.cleanupPeerConnection }
  | _ => (tab, [])

end Tab

/-- The handlers of `AnonymousRoom`. -/
def AnonymousRoom.receive (room : AnonymousRoom) : Message → AnonymousRoom
  | .matchQueued _ onlineUsers searchingUsers =>
      { room with onlineUsers := onlineUsers, searchingUsers := searchingUsers }
  | .queueStatus onlineUsers searchingUsers =>
      { room with onlineUsers := onlineUsers, searchingUsers := searchingUsers }
  | .matchFound callId _ isInitiator bothRegistered partnerUserId =>
      {
        room with
        callId := some callId
        isInitiator := isInitiator
        partnerInfo := some ⟨bothRegistered, partnerUserId⟩
        matchState := .matched
        showContactSave := false
        contactRequestSent := false
      }
  | .contactSaveRequest requestId _ _ =>
      { room with incomingRequestId := some requestId, showContactSave := true }
  | _ => room

/-- The handlers of `CallContent`. -/
def CallContent.receive (content : CallContent) : Message → CallContent
  | .callAccepted _ acceptorId initiatorId =>
      if content.isInitiator then
        { content with partnerUserId := some acceptorId }
      else
        { content with partnerUserId := initiatorId <|> content.partnerUserId }
  | .callIncoming callId callerId _ _ =>
      if Text.uuid callId = content.callId then
        { content with partnerUserId := callerId <|> content.partnerUserId }
      else
        content
  | _ => content

namespace Page

/-- The handlers that the page itself has put on the socket. -/
def receive (message : Message) : Page → Page
  | home => home
  | dashboard incomingCall =>
      match message with
      | .callIncoming callId _ _ callType => dashboard (some ⟨callId, callType⟩)
      | _ => dashboard incomingCall
  | call content => call (content.receive message)
  | anonymous room => anonymous (room.receive message)

end Page

namespace Tab

/-- A message reaches the handlers of the hook and of the page. -/
def receiveMessage (browser : Browser) (tab : Tab) (message : Message) : Tab × List Packet :=
  let handled := if tab.listens then tab.receiveHook browser message else (tab, [])
  ({ handled.1 with page := handled.1.page.receive message }, handled.2)

/-- The tab receives something, up to the render that follows. The acknowledgement of
`call:initiate` takes the dashboard to the call page. -/
def receive (browser : Browser) (tab : Tab) (incoming : Incoming) : Tab × List Packet :=
  match incoming with
  | .connected => commit tab ({ tab with isConnected := true }, [])
  | .ack callId =>
      match tab.page with
      | .dashboard _ => ({ tab with router := some (.call (.uuid callId) true) }, [])
      | _ => (tab, [])
  | .message message => commit tab (tab.receiveMessage browser message)

/-- React unmounts the old page, whose `useSignaling` disconnects the socket, and mounts the
new one, whose `useSignaling` connects it again under a new id. -/
def visit (tab : Tab) (destination : Destination) (fresh : SocketId) : Tab × Sent :=
  let page := destination.page
  let left := if tab.page.usesSignaling then tab.emit [.disconnect] else []
  let opened := if page.usesSignaling then [(fresh, .connect tab.userId)] else []
  ({
      userId := tab.userId
      socket := if page.usesSignaling then some fresh else none
      page := page
      hook := .mount page.isInitiator
    },
    left ++ opened)

/-- `endCall` of `useWebRTC`: a link or the failure of the connection. -/
def endCall (tab : Tab) : Tab × List Packet :=
  ({ tab with hook := tab.hook.cleanupPeerConnection }, [.callEnd tab.page.callId])

/-- `handleLeave`. -/
def handleLeave (tab : Tab) : Tab × List Packet :=
  match tab.page with
  | .anonymous room =>
      let ended := if room.callId.isSome then tab.endCall else (tab, [])
      ({
          ended.1 with
          page := .anonymous {
            room with
            queued := false
            callId := none
            partnerInfo := none
            showContactSave := false
            contactRequestSent := false
            matchState := .idle
          }
          router := some .home
        },
        ended.2)
  | .call _ =>
      let ended := tab.endCall
      ({ ended.1 with router := some .home }, ended.2)
  | _ => (tab, [])

/-- `handleSaveContact`. -/
def handleSaveContact (tab : Tab) : Tab × List Packet :=
  match tab.page with
  | .anonymous room =>
      match room.partnerInfo.bind PartnerInfo.partnerUserId, room.callId with
      | some partner, some callId =>
          ({ tab with page := .anonymous { room with contactRequestSent := true } },
            [.requestContactSave ⟨.uuid callId, .uuid partner⟩])
      | _, _ => (tab, [])
  | .call content =>
      match content.partnerUserId with
      | some partner =>
          ({ tab with page := .call { content with contactRequestSent := true } },
            [.requestContactSave ⟨content.callId, .uuid partner⟩])
      | none => (tab, [])
  | _ => (tab, [])

/-- `handleAcceptCall` of the dashboard. -/
def handleAcceptCall (tab : Tab) : Tab × List Packet :=
  match tab.page with
  | .dashboard (some incoming) =>
      ({ tab with router := some (.call (.uuid incoming.callId) false) },
        [.callAccept ⟨.uuid incoming.callId, incoming.callType⟩])
  | _ => (tab, [])

/-- `handleStartCall` of the dashboard, up to the acknowledgement that it awaits. -/
def handleStartCall (tab : Tab) (email : String) (callType : CallType) : Tab × List Packet :=
  match tab.page with
  | .dashboard _ => (tab, [.callInitiate ⟨some email, none, callType⟩])
  | _ => (tab, [])

end Tab

/-- What the user or the browser does in a tab, apart from navigating. -/
inductive Action where
  | startCall (email : String) (callType : CallType)
  | acceptCall
  | declineCall
  | endCall
  | leave
  | saveContact
  | answerRequest
  | negotiate
  | iceCandidate (candidate : String)
  | remoteTrack
  | media (running : Bool)
deriving DecidableEq, Repr

namespace Tab

/-- An action up to its render. Nothing is negotiated without a connection. -/
def perform (browser : Browser) (tab : Tab) : Action → Option (Tab × List Packet)
  | .startCall email callType => some (tab.handleStartCall email callType)
  | .acceptCall => some tab.handleAcceptCall
  | .declineCall =>
      match tab.page with
      | .dashboard _ => some ({ tab with page := .dashboard none }, [])
      | _ => none
  | .endCall =>
      match tab.page with
      | .call _ | .anonymous _ => some tab.endCall
      | _ => none
  | .leave => some tab.handleLeave
  | .saveContact => some tab.handleSaveContact
  | .answerRequest =>
      match tab.page with
      | .anonymous room =>
          some
            ({
                tab with
                page := .anonymous {
                  room with showContactSave := false, incomingRequestId := none
                }
              },
              [])
      | _ => none
  | .negotiate =>
      if tab.listens then
        (tab.hook.negotiate browser tab.page.callId tab.page.isInitiator).map
          (fun offered => ({ tab with hook := offered.1 }, offered.2))
      else
        none
  | .iceCandidate candidate =>
      if tab.hook.pc.isSome then
        some (tab, [.signalIce tab.page.callId candidate])
      else
        none
  | .remoteTrack =>
      if tab.hook.pc.isSome then
        some ({ tab with hook := { tab.hook with remoteStream := true } }, [])
      else
        none
  | .media running => some ({ tab with localStream := running }, [])

/-- An action with the render that follows it. -/
def act (browser : Browser) (tab : Tab) (action : Action) : Option (Tab × List Packet) :=
  (tab.perform browser action).map (commit tab)

end Tab

end NexusComms.Frontend
