import NexusComms.Frontend.System
import NexusComms.Signaling.Confidentiality

/-! The flow of direct calls: a call starts and is accepted on the dashboard, and the router
takes both tabs to the page of the call. Nobody hangs up or leaves a page on their own, and no
call stays unanswered. The new page has a new socket, and nothing takes that socket into the
room of the call.
-/

namespace NexusComms.Frontend

open Concurrency Matchmaking Signaling

/-- What the user does to end a call. -/
def Action.ends : Action → Bool
  | endCall | leave => true
  | _ => false

/-- The moves of the flow. A tab that has just been opened goes to the dashboard, and from
there only where the router takes it. -/
def inFlow (before : System) : Move → Bool
  | .act _ action => !action.ends
  | .visit index destination _ =>
      decide (destination = .dashboard)
        && (before.tabs[index]?).all (fun tab => tab.page = .home)
  | .timeout _ callId => !before.world.gateway.misses callId
  | _ => true

/-- Every run of the flow. -/
abbrev callFlow (runtime : Runtime) (browser : Browser) : Machine System Move :=
  (clientMachine runtime browser).restrict inFlow

/-- What the pages of the flow send. -/
def Packet.direct : Packet → Bool
  | callEnd _ | joinQueue _ => false
  | _ => true

/-- The packets whose handlers take their sender into a call. -/
def Packet.enters : Packet → Bool
  | callInitiate _ | callAccept _ => true
  | _ => false

namespace Page

/-- The page of a call, by its call and its role there. -/
def view : Page → Option (Text × Bool)
  | call content => some (content.callId, content.isInitiator)
  | _ => none

/-- Where the router may be about to go: only the dashboard is left for a call. -/
def leadsTo : Page → Option Destination → Bool
  | dashboard _, destination => destination ≠ some .anonymous
  | home, destination | call _, destination =>
      match destination with
      | some (.call _ _) | some .anonymous => false
      | _ => true
  | anonymous _, _ => false

end Page

namespace Tab

def view (tab : Tab) : Option (Text × Bool) := tab.page.view

/-- A tab of the flow. -/
def direct (tab : Tab) : Bool := tab.page.leadsTo tab.router

/-- What a tab of the flow becomes as long as it stays on its page. The page of a call neither
initiates nor accepts one. -/
structure Steady (tab : Tab) (done : Tab × List Packet) : Prop where
  socket : done.1.socket = tab.socket
  view : done.1.view = tab.view
  direct : done.1.direct = true
  sent {packet : Packet} (member : packet ∈ done.2)
    : packet.direct = true ∧ (packet.enters = true → tab.view = none)

section Steps

variable {before tab : Tab} {done : Tab × List Packet} {browser : Browser}

/-- A tab of the flow is not in an anonymous room. -/
theorem not_anonymous (direct : tab.direct = true) (room : AnonymousRoom)
    : tab.page ≠ .anonymous room := by
  intro shown
  rw [Tab.direct, shown] at direct
  cases direct

/-- Outside of anonymous rooms a render does nothing but make a connection. -/
theorem effects_direct (direct : tab.direct = true)
    : Tab.effects before tab
      = (if tab.listens then { tab with hook := tab.hook.initPeerConnection } else tab,
          []) := by
  have plain (start : Tab) (same : start.page = tab.page)
      : start.queueEffect = (start, []) := by
    unfold Tab.queueEffect
    split
    · next room shown => exact absurd (same.symm.trans shown) (not_anonymous direct room)
    · rfl
  unfold Tab.effects
  dsimp only
  split
  · rfl
  · refine plain _ ?_
    split
    · rfl
    · rfl

/-- A render changes nothing that the flow depends on. -/
theorem Steady.commit (steady : tab.Steady done) : tab.Steady (Tab.commit tab done) := by
  unfold Tab.commit
  split
  · exact steady
  · rw [effects_direct steady.direct]
    dsimp only
    rw [List.append_nil]
    split
    · exact ⟨steady.socket, steady.view, steady.direct, steady.sent⟩
    · exact ⟨steady.socket, steady.view, steady.direct, steady.sent⟩

/-- A tab that changes nothing but its hook, its stream and what it knows of its
connection. -/
theorem Steady.of_page (direct : tab.direct = true) (page : done.1.page = tab.page)
    (router : done.1.router = tab.router) (socket : done.1.socket = tab.socket)
    (sent : ∀ packet ∈ done.2, packet.direct = true ∧ packet.enters = false)
    : tab.Steady done where
  socket := socket
  view := by rw [Tab.view, Tab.view, page]
  direct := by rwa [Tab.direct, page, router]
  sent member := by
    obtain ⟨own, quiet⟩ := sent _ member
    refine ⟨own, fun enters => ?_⟩
    rw [quiet] at enters
    cases enters

/-- Only the dashboard initiates and accepts calls, and nothing else leaves it. -/
theorem perform_steady {action : Action} (direct : tab.direct = true)
    (stays : action.ends = false) (performed : tab.perform browser action = some done)
    : tab.Steady done := by
  cases action with
  | startCall email callType =>
      cases Option.some.inj performed
      unfold handleStartCall
      split
      · next shown =>
          refine ⟨rfl, rfl, direct, fun member => ?_⟩
          rw [List.mem_singleton.mp member, Tab.view, shown]
          exact ⟨rfl, fun _ => rfl⟩
      · exact .of_page direct rfl rfl rfl (by simp)
  | acceptCall =>
      cases Option.some.inj performed
      unfold handleAcceptCall
      split
      · next incoming shown =>
          refine ⟨rfl, rfl, by simp [Tab.direct, shown, Page.leadsTo], fun member => ?_⟩
          rw [List.mem_singleton.mp member, Tab.view, shown]
          exact ⟨rfl, fun _ => rfl⟩
      · exact .of_page direct rfl rfl rfl (by simp)
  | declineCall =>
      simp only [perform] at performed
      split at performed
      · next shown =>
          cases performed
          refine ⟨rfl, by simp [Tab.view, shown, Page.view], ?_, by simp⟩
          rw [Tab.direct, shown] at direct
          exact direct
      · cases performed
  | endCall => cases stays
  | leave => cases stays
  | saveContact =>
      cases Option.some.inj performed
      unfold handleSaveContact
      split
      · next room shown => exact absurd shown (not_anonymous direct room)
      · next content shown =>
          split
          · refine ⟨rfl, by simp [Tab.view, shown, Page.view], ?_, ?_⟩
            · rw [Tab.direct, shown] at direct
              exact direct
            · intro packet member
              rw [List.mem_singleton.mp member]
              exact ⟨rfl, fun enters => by cases enters⟩
          · exact .of_page direct rfl rfl rfl (by simp)
      · exact .of_page direct rfl rfl rfl (by simp)
  | answerRequest =>
      simp only [perform] at performed
      split at performed
      · next room shown => exact absurd shown (not_anonymous direct room)
      · cases performed
  | negotiate =>
      simp only [perform] at performed
      split at performed
      · obtain ⟨offered, negotiated, rfl⟩ := Option.map_eq_some_iff.mp performed
        refine .of_page direct rfl rfl rfl (fun packet member => ?_)
        unfold UseWebRTC.negotiate at negotiated
        split at negotiated
        · cases negotiated
        · split at negotiated
          · cases negotiated
            rw [List.mem_singleton.mp member]
            exact ⟨rfl, rfl⟩
          · cases negotiated
      · cases performed
  | iceCandidate candidate =>
      simp only [perform] at performed
      split at performed
      · cases performed
        refine .of_page direct rfl rfl rfl (fun packet member => ?_)
        rw [List.mem_singleton.mp member]
        exact ⟨rfl, rfl⟩
      · cases performed
  | remoteTrack =>
      simp only [perform] at performed
      split at performed
      · cases performed
        exact .of_page direct rfl rfl rfl (by simp)
      · cases performed
  | media running =>
      cases Option.some.inj performed
      exact .of_page direct rfl rfl rfl (by simp)

/-- The handlers of the hook answer offers, and at the end of a call they send the page
home. -/
theorem receiveHook_steady (direct : tab.direct = true) (listens : tab.listens = true)
    (message : Message)
    : tab.Steady (tab.receiveHook browser message) := by
  cases message with
  | signalOffer callId sdp =>
      refine .of_page direct rfl rfl rfl (fun packet member => ?_)
      simp only [receiveHook, UseWebRTC.handleOffer] at member
      split at member
      · cases member
      · split at member
        · cases member
        · split at member
          · cases member
          · split at member
            · rw [List.mem_singleton.mp member]
              exact ⟨rfl, rfl⟩
            · cases member
  | callEnded callId reason =>
      cases shown : tab.page with
      | call content =>
          simp only [receiveHook, onCallEnded, shown]
          exact ⟨rfl, by simp [Tab.view, shown], by simp [Tab.direct, Page.leadsTo], by simp⟩
      | anonymous room => exact absurd shown (not_anonymous direct room)
      | home => simp [Tab.listens, shown, Page.callId, Text.truthy] at listens
      | dashboard _ => simp [Tab.listens, shown, Page.callId, Text.truthy] at listens
  | _ => exact .of_page direct rfl rfl rfl (by simp [receiveHook])

/-- The handlers of a page stay on it. -/
theorem Steady.receive_page (steady : tab.Steady done) (message : Message)
    : tab.Steady ({ done.1 with page := done.1.page.receive message }, done.2) := by
  have kept
      : (done.1.page.receive message).view = done.1.page.view
        ∧ (done.1.page.receive message).leadsTo = done.1.page.leadsTo := by
    cases done.1.page with
    | home => exact ⟨rfl, rfl⟩
    | anonymous room => exact ⟨rfl, rfl⟩
    | dashboard incomingCall =>
        simp only [Page.receive]
        split
        · exact ⟨rfl, rfl⟩
        · exact ⟨rfl, rfl⟩
    | call content =>
        refine ⟨?_, rfl⟩
        cases message with
        | callAccepted _ _ _ =>
            simp only [Page.receive, CallContent.receive]
            split
            · rfl
            · rfl
        | callIncoming _ _ _ _ =>
            simp only [Page.receive, CallContent.receive]
            split
            · rfl
            · rfl
        | _ => rfl
  refine ⟨steady.socket, kept.1.trans steady.view, ?_, steady.sent⟩
  exact (congrFun kept.2 _).trans steady.direct

variable (browser) in
/-- What a tab receives does not take it off its page at once. -/
theorem receive_steady (direct : tab.direct = true) (incoming : Incoming)
    : tab.Steady (tab.receive browser incoming) := by
  cases incoming with
  | connected => exact (Steady.of_page direct rfl rfl rfl (by simp)).commit
  | ack callId =>
      simp only [receive]
      split
      · next shown => exact ⟨rfl, rfl, by simp [Tab.direct, shown, Page.leadsTo], by simp⟩
      · exact .of_page direct rfl rfl rfl (by simp)
  | message message =>
      refine Steady.commit (Steady.receive_page ?_ message)
      split
      · next listens => exact receiveHook_steady direct listens message
      · exact .of_page direct rfl rfl rfl (by simp)

end Steps

end Tab

/-- What holds in every state of the flow. A socket id belongs to one tab, and the socket of
the page of a call is in no room but its own and has nothing on its way that would change
this. -/
structure Underway (system : System) : Prop where
  seated : Seated system.world
  opened {socketId : SocketId} (connected : socketId ∈ system.world.opened)
    : socketId ∈ system.sockets
  sent {entry : SocketId × Packet} (member : entry ∈ system.uplink)
    : entry.1 ∈ system.sockets ∧ entry.2.direct = true
  given {index : Nat} {tab : Tab} {socketId : SocketId}
    (here : system.tabs[index]? = some tab) (socket : tab.socket = some socketId)
    : socketId ∈ system.sockets
  apart {index other : Nat} {tab tab' : Tab} {socketId : SocketId}
    (here : system.tabs[index]? = some tab) (there : system.tabs[other]? = some tab')
    (socket : tab.socket = some socketId) (socket' : tab'.socket = some socketId)
    : index = other
  direct {index : Nat} {tab : Tab} (here : system.tabs[index]? = some tab)
    : tab.direct = true
  idle {index : Nat} {tab : Tab} {socketId : SocketId} {packet : Packet}
    (here : system.tabs[index]? = some tab) (socket : tab.socket = some socketId)
    (inCall : tab.view ≠ none) (member : (socketId, packet) ∈ system.uplink)
    : packet.enters = false
  outside {index : Nat} {tab : Tab} {socketId : SocketId} {room : Text}
    (here : system.tabs[index]? = some tab) (socket : tab.socket = some socketId)
    (inCall : tab.view ≠ none) (member : (room, socketId) ∈ system.world.gateway.rooms)
    : room = .socket socketId

theorem underway_start : Underway System.start where
  seated := seated_start
  opened connected := by cases connected
  sent member := by cases member
  given here := by cases here
  apart here := by cases here
  direct here := by cases here
  idle here := by cases here
  outside here := by cases here

section Flight

variable {α : Type} {socketId : SocketId} {flight : List (SocketId × α)}
  {entry : SocketId × α}

/-- The next entry for a socket is on its way to it. -/
theorem mem_of_next (found : System.next socketId flight = some entry)
    : entry ∈ flight ∧ entry.1 = socketId :=
  ⟨List.mem_of_find?_eq_some found, by simpa using List.find?_some found⟩

theorem mem_of_rest (member : entry ∈ System.rest socketId flight) : entry ∈ flight :=
  List.mem_of_mem_eraseP member

end Flight

/-- The tabs after one of them has been replaced. -/
theorem tab_of_set {tabs : List Tab} {index other : Nat} {tab found : Tab}
    (there : (tabs.set index tab)[other]? = some found)
    : other = index ∧ found = tab ∨ other ≠ index ∧ tabs[other]? = some found := by
  rw [List.getElem?_set] at there
  split at there
  · next same =>
      split at there
      · exact .inl ⟨same.symm, (Option.some.inj there).symm⟩
      · cases there
  · next apart => exact .inr ⟨fun same => apart same.symm, there⟩

namespace Underway

variable {system : System}

/-- Nobody has used a fresh id. -/
theorem not_in_room (underway : Underway system) {socketId : SocketId}
    (fresh : socketId ∉ system.sockets) (room : Text)
    : (room, socketId) ∉ system.world.gateway.rooms := by
  intro member
  exact fresh
    (underway.opened (underway.seated.opened (underway.seated.tidy.inside member)))

/-- A tab becomes another one, which keeps its socket and its page or has a fresh socket. -/
theorem replace (underway : Underway system) {index : Nat} {tab tab' : Tab}
    {uplink : Sent} {downlink : List (SocketId × Incoming)} {sockets : List SocketId}
    (here : system.tabs[index]? = some tab) (direct : tab'.direct = true)
    (grown : ∀ socketId ∈ system.sockets, socketId ∈ sockets)
    (moved
      : tab'.socket = tab.socket ∧ tab'.view = tab.view
        ∨ ∀ socketId, tab'.socket = some socketId →
            socketId ∉ system.sockets ∧ socketId ∈ sockets)
    (sent
      : ∀ entry ∈ uplink,
          entry ∈ system.uplink
          ∨ entry.1 ∈ sockets ∧ entry.2.direct = true
            ∧ (entry.2.enters = true → tab.socket = some entry.1 ∧ tab.view = none))
    : Underway {
        system with
        tabs := system.tabs.set index tab'
        uplink := uplink
        downlink := downlink
        sockets := sockets
      } where
  seated := underway.seated
  opened connected := grown _ (underway.opened connected)
  sent member := by
    rcases sent _ member with before | ⟨known, own, _⟩
    · exact ⟨grown _ (underway.sent before).1, (underway.sent before).2⟩
    · exact ⟨known, own⟩
  given {other found socketId} there socket := by
    rcases tab_of_set there with ⟨rfl, rfl⟩ | ⟨_, before⟩
    · rcases moved with ⟨same, _⟩ | new
      · exact grown _ (underway.given here (same.symm.trans socket))
      · exact (new socketId socket).2
    · exact grown _ (underway.given before socket)
  apart {first second found found' socketId} there there' socket socket' := by
    -- another tab cannot have the socket that the new one has
    have alone {other : Nat} {found : Tab} (there : system.tabs[other]? = some found)
        (socket : found.socket = some socketId) (own : tab'.socket = some socketId)
        : other = index := by
      rcases moved with ⟨same, _⟩ | new
      · exact underway.apart there here socket (same.symm.trans own)
      · exact absurd (underway.given there socket) (new socketId own).1
    rcases tab_of_set there with ⟨rfl, rfl⟩ | ⟨_, before⟩
    · rcases tab_of_set there' with ⟨rfl, rfl⟩ | ⟨_, before'⟩
      · rfl
      · exact (alone before' socket' socket).symm
    · rcases tab_of_set there' with ⟨rfl, rfl⟩ | ⟨_, before'⟩
      · exact alone before socket socket'
      · exact underway.apart before before' socket socket'
  direct there := by
    rcases tab_of_set there with ⟨rfl, rfl⟩ | ⟨_, before⟩
    · exact direct
    · exact underway.direct before
  idle {other found socketId packet} there socket inCall member := by
    rcases tab_of_set there with ⟨rfl, rfl⟩ | ⟨apart, before⟩
    · rcases moved with ⟨same, view⟩ | new
      · rcases sent _ member with earlier | ⟨_, _, enters⟩
        · exact underway.idle here (same.symm.trans socket) (view ▸ inCall) earlier
        · refine Bool.eq_false_iff.mpr (fun entering => ?_)
          exact inCall (view.trans (enters entering).2)
      · have fresh := (new socketId socket).1
        rcases sent _ member with earlier | ⟨_, _, enters⟩
        · exact absurd (underway.sent earlier).1 fresh
        · refine Bool.eq_false_iff.mpr (fun entering => ?_)
          exact fresh (underway.given here (enters entering).1)
    · rcases sent _ member with earlier | ⟨_, _, enters⟩
      · exact underway.idle before socket inCall earlier
      · refine Bool.eq_false_iff.mpr (fun entering => ?_)
        exact apart (underway.apart before here socket (enters entering).1)
  outside {other found socketId room} there socket inCall member := by
    rcases tab_of_set there with ⟨rfl, rfl⟩ | ⟨_, before⟩
    · rcases moved with ⟨same, view⟩ | new
      · exact underway.outside here (same.symm.trans socket) (view ▸ inCall) member
      · exact absurd member (underway.not_in_room (new socketId socket).1 room)
    · exact underway.outside before socket inCall member

/-- The gateway handles an event, with which nobody enters a room but those who have sent for
it. -/
theorem handled (underway : Underway system) {runtime : Runtime} {stimulus : Stimulus}
    {uplink : Sent} {downlink : List (SocketId × Incoming)}
    (admitted : system.world.admits stimulus = true)
    (less : ∀ entry ∈ uplink, entry ∈ system.uplink)
    (opens : ∀ socketId ∈ stimulus.event.opens, socketId ∈ system.sockets)
    (enters
      : ∀ {outcome name socketId},
          Entrance system.world.gateway stimulus.event outcome name socketId →
            name = .socket socketId ∨ (name, socketId) ∈ system.world.gateway.rooms
            ∨ ∃ packet, (socketId, packet) ∈ system.uplink ∧ packet.enters = true)
    : Underway {
        system with
        world := system.world.after runtime stimulus
        uplink := uplink
        downlink := downlink
      } where
  seated := underway.seated.step admitted
  opened connected := by
    rcases List.mem_append.mp connected with new | before
    · exact opens _ new
    · exact underway.opened before
  sent member := underway.sent (less _ member)
  given := underway.given
  apart := underway.apart
  direct := underway.direct
  idle here socket inCall member := underway.idle here socket inCall (less _ member)
  outside here socket inCall member := by
    have turn := handle_turn runtime stimulus.now system.world.gateway stimulus.event
    rcases enters (turn.entrance member) with own | before | ⟨packet, coming, entering⟩
    · exact own
    · exact underway.outside here socket inCall before
    · have idle := underway.idle here socket inCall coming
      rw [entering] at idle
      cases idle

end Underway

/-- With the packets of the flow, a socket enters the rooms of calls only when it initiates or
accepts one. -/
theorem Packet.entrance {gateway : Gateway} {packet : Packet} {sender socketId : SocketId}
    {drawn : Uuid} {outcome : Outcome} {name : Text} (direct : packet.direct = true)
    (entrance : Entrance gateway (packet.event sender drawn) outcome name socketId)
    : name = .socket socketId ∨ (name, socketId) ∈ gateway.rooms
      ∨ sender = socketId ∧ packet.enters = true := by
  generalize sent : packet.event sender drawn = event at entrance
  cases entrance with
  | stayed before => exact .inr (.inl before)
  | connected => exact .inl rfl
  | initiated _ =>
      cases packet with
      | callInitiate _ =>
          cases sent
          exact .inr (.inr ⟨rfl, rfl⟩)
      | _ => cases sent
  | accepted _ _ =>
      cases packet with
      | callAccept _ =>
          cases sent
          exact .inr (.inr ⟨rfl, rfl⟩)
      | _ => cases sent
  | matched _ _ =>
      cases packet with
      | joinQueue _ => cases direct
      | _ => cases sent
  | seated =>
      cases packet with
      | _ => cases sent

section Steps

variable {runtime : Runtime} {browser : Browser} {system next : System}

/-- A tab that stays on its page. -/
theorem Underway.put (underway : Underway system) {index : Nat} {tab : Tab}
    {done : Tab × List Packet} (here : system.tabs[index]? = some tab)
    (steady : tab.Steady done) (downlink : List (SocketId × Incoming))
    : Underway { system.put index done with downlink := downlink } := by
  refine underway.replace here steady.direct (fun _ known => known)
    (.inl ⟨steady.socket, steady.view⟩) (fun entry member => ?_)
  rcases List.mem_append.mp member with before | new
  · exact .inl before
  · unfold Tab.emit at new
    rw [steady.socket] at new
    cases socket : tab.socket with
    | none =>
        rw [socket] at new
        cases new
    | some socketId =>
        rw [socket] at new
        obtain ⟨packet, sends, rfl⟩ := List.mem_map.mp new
        obtain ⟨own, quiet⟩ := steady.sent sends
        exact .inr ⟨underway.given here socket, own, fun enters => ⟨rfl, quiet enters⟩⟩

/-- A tab that leaves for another page. -/
theorem Underway.depart (underway : Underway system) {index : Nat} {tab : Tab}
    {destination : Destination} {fresh : SocketId} (here : system.tabs[index]? = some tab)
    (own : destination ≠ .anonymous)
    (departed : system.depart index tab destination fresh = some next)
    : Underway next := by
  unfold System.depart at departed
  split at departed
  · cases departed
  · next unused =>
      cases departed
      refine underway.replace here ?_ (fun _ known => List.mem_cons_of_mem _ known) ?_
        (fun entry member => ?_)
      · cases destination with
        | anonymous => exact absurd rfl own
        | _ => rfl
      · refine .inr (fun socketId socket => ?_)
        simp only [Tab.visit] at socket
        split at socket
        · cases socket
          exact ⟨unused, List.mem_cons_self⟩
        · cases socket
      · rcases List.mem_append.mp member with before | new
        · exact .inl before
        · right
          rcases List.mem_append.mp new with left | opened
          · split at left
            · cases socket : tab.socket with
              | none => simp [Tab.emit, socket] at left
              | some socketId =>
                  simp only [Tab.emit, socket, List.map_cons, List.map_nil,
                    List.mem_singleton] at left
                  subst left
                  refine ⟨List.mem_cons_of_mem _ (underway.given here socket), rfl, ?_⟩
                  intro enters
                  cases enters
            · cases left
          · split at opened
            · rw [List.mem_singleton.mp opened]
              exact ⟨List.mem_cons_self, rfl, fun enters => by cases enters⟩
            · cases opened

/-- A tab that loses its connection. -/
theorem Underway.reconnect (underway : Underway system) {index arriving : Nat} {tab : Tab}
    {fresh : SocketId} (here : system.tabs[index]? = some tab)
    (reconnected : system.reconnect index arriving tab fresh = some next)
    : Underway next := by
  unfold System.reconnect at reconnected
  split at reconnected
  · cases reconnected
  · next socketId socket =>
      split at reconnected
      · cases reconnected
      · next unused =>
          cases reconnected
          have direct : tab.direct = true := underway.direct here
          refine underway.replace here direct
            (fun _ known => List.mem_cons_of_mem _ known) ?_ (fun entry member => ?_)
          · refine .inr (fun other same => ?_)
            cases same
            exact ⟨unused, List.mem_cons_self⟩
          · simp only [List.mem_append, List.mem_cons, List.not_mem_nil, or_false] at member
            rcases member with (others | mine) | rfl | rfl
            · exact .inl (List.mem_filter.mp others).1
            · exact .inl (List.mem_filter.mp (List.mem_of_mem_take mine)).1
            · refine .inr ⟨List.mem_cons_of_mem _ (underway.given here socket), rfl, ?_⟩
              intro enters
              cases enters
            · exact .inr ⟨List.mem_cons_self, rfl, fun enters => by cases enters⟩

/-- A new tab shows nothing and has no socket. -/
theorem Underway.newTab (underway : Underway system) (userId : Option Uuid)
    : Underway { system with tabs := system.tabs ++ [{ userId := userId }] } := by
  have old {index : Nat} {tab : Tab}
      (here : (system.tabs ++ [{ userId := userId }])[index]? = some tab)
      : system.tabs[index]? = some tab ∨ tab = { userId := userId } := by
    rw [List.getElem?_append] at here
    split at here
    · exact .inl here
    · exact .inr (List.mem_singleton.mp (List.mem_of_getElem? here))
  exact {
    underway with
    given := fun here socket => by
      rcases old here with before | rfl
      · exact underway.given before socket
      · cases socket
    apart := fun here there socket socket' => by
      rcases old here with before | rfl
      · rcases old there with before' | rfl
        · exact underway.apart before before' socket socket'
        · cases socket'
      · cases socket
    direct := fun here => by
      rcases old here with before | rfl
      · exact underway.direct before
      · rfl
    idle := fun here socket => by
      rcases old here with before | rfl
      · exact underway.idle before socket
      · cases socket
    outside := fun here socket => by
      rcases old here with before | rfl
      · exact underway.outside before socket
      · cases socket
  }

/-- The gateway handles what comes next over a socket. -/
theorem Underway.serve (underway : Underway system) {now : Time} {socketId : SocketId}
    {drawn : Uuid} (served : system.serve runtime now socketId drawn = some next)
    : Underway next := by
  obtain ⟨entry, coming, handled⟩ := Option.bind_eq_some_iff.mp served
  obtain ⟨world, stepped, rfl⟩ := Option.map_eq_some_iff.mp handled
  obtain ⟨admitted, rfl⟩ := step_eq_some.mp stepped
  obtain ⟨member, rfl⟩ := mem_of_next coming
  obtain ⟨known, direct⟩ := underway.sent member
  refine underway.handled admitted (fun _ => mem_of_rest) (fun other opens => ?_)
    (fun entrance => ?_)
  · cases sent : entry.2 with
    | connect userId =>
        rw [sent] at opens
        rw [List.mem_singleton.mp opens]
        exact known
    | _ =>
        rw [sent] at opens
        cases opens
  · rcases Packet.entrance direct entrance with own | before | ⟨rfl, enters⟩
    · exact .inl own
    · exact .inr (.inl before)
    · exact .inr (.inr ⟨entry.2, member, enters⟩)

/-- Every move of the flow. -/
theorem Underway.step (underway : Underway system) {move : Move}
    (flow : inFlow system move = true)
    (stepped : system.step runtime browser move = some next)
    : Underway next := by
  have stays {name : Text} {socketId : SocketId} {event : Event} {outcome : Outcome}
      (plain : event.sender = none) (still : event.moves = false)
      (entrance : Entrance system.world.gateway event outcome name socketId)
      : (name, socketId) ∈ system.world.gateway.rooms := by
    cases entrance with
    | stayed before => exact before
    | connected => cases still
    | _ => cases plain
  cases move with
  | register now userId email =>
      obtain ⟨world, taken, rfl⟩ := Option.map_eq_some_iff.mp stepped
      obtain ⟨admitted, rfl⟩ := step_eq_some.mp taken
      exact underway.handled admitted (fun _ member => member) (by simp [Event.opens])
        (fun entrance => .inr (.inl (stays rfl rfl entrance)))
  | timeout now callId =>
      obtain ⟨world, taken, rfl⟩ := Option.map_eq_some_iff.mp stepped
      obtain ⟨admitted, rfl⟩ := step_eq_some.mp taken
      exact underway.handled admitted (fun _ member => member) (by simp [Event.opens])
        (fun entrance => .inr (.inl (stays rfl rfl entrance)))
  | newTab userId =>
      simp only [System.step] at stepped
      split at stepped
      · cases stepped
        exact underway.newTab userId
      · cases stepped
  | act index action =>
      obtain ⟨tab, here, acted⟩ := Option.bind_eq_some_iff.mp stepped
      obtain ⟨done, acts, rfl⟩ := Option.map_eq_some_iff.mp acted
      obtain ⟨performed, performs, rfl⟩ := Option.map_eq_some_iff.mp acts
      have stays : action.ends = false := by simpa [inFlow] using flow
      exact underway.put here
        (Tab.perform_steady (underway.direct here) stays performs).commit system.downlink
  | visit index destination fresh =>
      obtain ⟨tab, here, departed⟩ := Option.bind_eq_some_iff.mp stepped
      simp only [inFlow, Bool.and_eq_true, decide_eq_true_eq] at flow
      exact underway.depart here (by simp [flow.1]) departed
  | navigate index fresh =>
      obtain ⟨tab, here, leaves⟩ := Option.bind_eq_some_iff.mp stepped
      obtain ⟨destination, router, departed⟩ := Option.bind_eq_some_iff.mp leaves
      refine underway.depart here ?_ departed
      rintro rfl
      have direct := underway.direct here
      rw [Tab.direct, router] at direct
      cases shown : tab.page with
      | _ => simp [shown, Page.leadsTo] at direct
  | reconnect index arriving fresh =>
      obtain ⟨tab, here, reconnected⟩ := Option.bind_eq_some_iff.mp stepped
      exact underway.reconnect here reconnected
  | deliver index =>
      obtain ⟨tab, here, delivered⟩ := Option.bind_eq_some_iff.mp stepped
      obtain ⟨socketId, socket, received⟩ := Option.bind_eq_some_iff.mp delivered
      obtain ⟨entry, coming, rfl⟩ := Option.map_eq_some_iff.mp received
      exact underway.put here (Tab.receive_steady browser (underway.direct here) entry.2) _
  | serve now socketId drawn => exact underway.serve stepped

end Steps

end NexusComms.Frontend
