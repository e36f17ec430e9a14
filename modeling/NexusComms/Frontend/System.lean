import NexusComms.Frontend.Pages

/-! Browser tabs, the gateway and the network between them. Socket.IO keeps the order of the
packets of one socket, in both directions, and gives every connection a new id.
-/

namespace NexusComms.Frontend

open Concurrency Matchmaking Signaling

/-- The tabs and the gateway, what is on its way between them, and the socket ids that have
been given to connections so far. -/
structure System where
  world : World
  tabs : List Tab
  uplink : Sent
  downlink : List (SocketId × Incoming)
  sockets : List SocketId

def System.start : System := ⟨.start, [], [], [], []⟩

/-- What happens next: a user registers over HTTP, somebody opens a tab, does something in
one, or navigates; the network loses a connection, with all but the first packets that were
on their way; a tab receives what comes next, the gateway serves what comes next, or the
timer of a call fires. -/
inductive Move where
  | register (now : Time) (userId : Uuid) (email : String)
  | newTab (userId : Option Uuid)
  | act (index : Nat) (action : Action)
  | visit (index : Nat) (destination : Destination) (fresh : SocketId)
  | navigate (index : Nat) (fresh : SocketId)
  | reconnect (index : Nat) (arriving : Nat) (fresh : SocketId)
  | deliver (index : Nat)
  | serve (now : Time) (socketId : SocketId) (drawn : Uuid)
  | timeout (now : Time) (callId : Uuid)
deriving DecidableEq, Repr

namespace System

/-- The next entry for a socket. -/
def next {α : Type} (socketId : SocketId) (flight : List (SocketId × α))
    : Option (SocketId × α) :=
  flight.find? (fun entry => entry.1 = socketId)

/-- What is on its way without the next entry for a socket. -/
def rest {α : Type} (socketId : SocketId) (flight : List (SocketId × α))
    : List (SocketId × α) :=
  flight.eraseP (fun entry => entry.1 = socketId)

/-- What a tab has become, with what it sends over its socket. -/
def put (system : System) (index : Nat) (done : Tab × List Packet) : System :=
  {
    system with
    tabs := system.tabs.set index done.1
    uplink := system.uplink ++ done.1.emit done.2
  }

/-- A tab that leaves its page for another one. The id of the new connection is fresh. -/
def depart (system : System) (index : Nat) (tab : Tab) (destination : Destination)
    (fresh : SocketId)
    : Option System :=
  if fresh ∈ system.sockets then
    none
  else
    let visited := tab.visit destination fresh
    some {
      system with
      tabs := system.tabs.set index visited.1
      uplink := system.uplink ++ visited.2
      sockets := fresh :: system.sockets
    }

/-- The network loses the connection of a tab, which `socket.io-client` replaces. The packets
behind the first few are lost, and so is all that was coming. -/
def reconnect (system : System) (index arriving : Nat) (tab : Tab) (fresh : SocketId)
    : Option System :=
  match tab.socket with
  | none => none
  | some socketId =>
      if fresh ∈ system.sockets then
        none
      else
        let mine := system.uplink.filter (fun entry => entry.1 = socketId)
        let others := system.uplink.filter (fun entry => entry.1 ≠ socketId)
        some {
          system with
          tabs :=
            system.tabs.set index { tab with socket := some fresh, isConnected := false }
          uplink :=
            others ++ mine.take arriving
              ++ [(socketId, .disconnect), (fresh, .connect tab.userId)]
          sockets := fresh :: system.sockets
        }

/-- A tab receives what comes next over its socket. -/
def deliver (browser : Browser) (system : System) (index : Nat) (tab : Tab) : Option System :=
  tab.socket.bind (fun socketId =>
    (next socketId system.downlink).map (fun entry =>
      {
        system.put index (tab.receive browser entry.2) with
        downlink := rest socketId system.downlink
      }))

/-- What the emissions of a handler put on their way. -/
def emissions (outputs : List Output) : List (SocketId × Incoming) :=
  outputs.flatMap
    (fun output =>
      match output with
      | .emit emission =>
          emission.receivers.map (fun socketId => (socketId, .message emission.message))
      | _ => [])

/-- What the gateway sends when it has handled an event: a connection is confirmed first, and
`call:initiate` acknowledged last. -/
def replies (socketId : SocketId) (packet : Packet) (outcome : Outcome)
    : List (SocketId × Incoming) :=
  (match packet with
    | .connect _ => [(socketId, .connected)]
    | _ => [])
    ++ emissions outcome.outputs
    ++ (match outcome.reply with
        | .ok (.callId callId) => [(socketId, .ack callId)]
        | _ => [])

/-- The gateway handles an event. -/
def handled (runtime : Runtime) (system : System) (stimulus : Stimulus)
    (sent : Outcome → List (SocketId × Incoming))
    : Option System :=
  (World.step runtime system.world stimulus).map (fun world =>
    {
      system with
      world := world
      downlink :=
        system.downlink
          ++ sent (handle runtime stimulus.now system.world.gateway stimulus.event)
    })

/-- The gateway handles what comes next over a socket. -/
def serve (runtime : Runtime) (system : System) (now : Time) (socketId : SocketId)
    (drawn : Uuid)
    : Option System :=
  (next socketId system.uplink).bind (fun entry =>
    handled runtime { system with uplink := rest socketId system.uplink }
      ⟨now, entry.2.event socketId drawn⟩ (replies socketId entry.2))

/-- One move. A tab has the token of a registered user, or none. -/
def step (runtime : Runtime) (browser : Browser) (system : System) : Move → Option System
  | .register now userId email =>
      handled runtime system ⟨now, .register userId email⟩
        (fun outcome => emissions outcome.outputs)
  | .newTab userId =>
      if system.world.gateway.db.references userId then
        some { system with tabs := system.tabs ++ [{ userId := userId }] }
      else
        none
  | .act index action =>
      system.tabs[index]?.bind (fun tab =>
        (tab.act browser action).map (system.put index))
  | .visit index destination fresh =>
      system.tabs[index]?.bind (fun tab => system.depart index tab destination fresh)
  | .navigate index fresh =>
      system.tabs[index]?.bind (fun tab =>
        tab.router.bind (fun destination => system.depart index tab destination fresh))
  | .reconnect index arriving fresh =>
      system.tabs[index]?.bind (fun tab => system.reconnect index arriving tab fresh)
  | .deliver index => system.tabs[index]?.bind (system.deliver browser index)
  | .serve now socketId drawn => system.serve runtime now socketId drawn
  | .timeout now callId =>
      handled runtime system ⟨now, .missedCall callId⟩
        (fun outcome => emissions outcome.outputs)

end System

/-- Every run of any number of tabs with the gateway. -/
abbrev clientMachine (runtime : Runtime) (browser : Browser) : Machine System Move where
  init := .start
  step := System.step runtime browser

end NexusComms.Frontend
