import NexusComms.Frontend.DirectCalls
import NexusComms.Frontend.Isolation
import NexusComms.Signaling.Orphans

/-! What opening the page of a call does to the call. The router unmounts the dashboard, whose
`useSignaling` disconnects the socket that has initiated or accepted the call, and
`handleDisconnect` ends the call that a socket remembers. The page of the call connects a
socket that is not in its room.
-/

namespace NexusComms.Frontend

open Concurrency Matchmaking Signaling

namespace System

/-- A tab shows the page of the call in this role. -/
def shows (system : System) (callId : Uuid) (isInitiator : Bool) : Bool :=
  system.tabs.any (fun tab => tab.view = some (.uuid callId, isInitiator))

/-- Both pages of the call are open. -/
def bothOpen (system : System) (callId : Uuid) : Bool :=
  system.shows callId true && system.shows callId false

/-- The current socket of a tab is in the room of the call. -/
def inRoom (system : System) (callId : Uuid) (tab : Tab) : Prop :=
  ∃ socketId ∈ tab.socket, (.uuid callId, socketId) ∈ system.world.gateway.rooms

end System

/-- The call is not ended, rejected or missed, and once it is accepted and both pages are
open, the current sockets of both are in its room. -/
def Stands (system : System) (callId : Uuid) : Prop :=
  ∀ row ∈ system.world.session callId,
    row.status.closed = false
    ∧ (row.status = .active →
        ∀ caller ∈ system.tabs, ∀ callee ∈ system.tabs,
          caller.view = some (.uuid callId, true) →
            callee.view = some (.uuid callId, false) →
              system.inRoom callId caller ∧ system.inRoom callId callee)

instance (system : System) (callId : Uuid) (tab : Tab)
    : Decidable (system.inRoom callId tab) :=
  inferInstanceAs (Decidable (∃ socketId ∈ tab.socket, _))

instance (system : System) (callId : Uuid) : Decidable (Stands system callId) :=
  inferInstanceAs (Decidable (∀ row ∈ system.world.session callId, _))

def CallsStand (system : System) : Prop := ∀ callId, Stands system callId

/-- The packet is no disconnect of a socket that remembers a call, and no `call:accept` that
is let through to a call whose pages are both open. -/
def Packet.spares (system : System) (socketId : SocketId) : Packet → Bool
  | disconnect => (system.world.gateway.callOf socketId).isNone
  | callAccept data =>
      !system.world.gateway.mayAccept socketId data.callId
        || data.callId.cast.all
            (fun callId => (system.world.session callId).isNone || !system.bothOpen callId)
  | _ => true

/-- The gateway serves only such packets, and nobody opens the second page of an accepted
call. -/
def callsKept (before : System) : Move → Bool
  | .serve _ socketId _ =>
      (System.next socketId before.uplink).all (fun entry => entry.2.spares before socketId)
  | .navigate index _ =>
      match before.tabs[index]?.bind Tab.router with
      | some (.call (.uuid callId) isInitiator) =>
          !before.world.active callId || !before.shows callId (!isInitiator)
      | _ => true
  | _ => true

/-- Since the page of a call is not in its room, both pages of an accepted call are never
open. -/
def Clear (system : System) : Prop :=
  ∀ callId row, system.world.session callId = some row →
    row.status.closed = false ∧ (row.status = .active → system.bothOpen callId = false)

section States

variable {system : System} {callId : Uuid} {isInitiator : Bool}

theorem shows_iff
    : system.shows callId isInitiator = true
      ↔ ∃ tab ∈ system.tabs, tab.view = some (.uuid callId, isInitiator) := by
  simp [System.shows]

/-- The pages of a call are that of one role and that of the other. -/
theorem bothOpen_iff (isInitiator : Bool)
    : system.bothOpen callId = true
      ↔ system.shows callId isInitiator = true
        ∧ system.shows callId (!isInitiator) = true := by
  rw [System.bothOpen, Bool.and_eq_true]
  cases isInitiator with
  | true => exact Iff.rfl
  | false => exact and_comm

/-- The socket of a page of a call is not in the room of the call. -/
theorem Underway.not_inRoom (underway : Underway system) {tab : Tab}
    (member : tab ∈ system.tabs) (inCall : tab.view = some (.uuid callId, isInitiator))
    : ¬ system.inRoom callId tab := by
  rintro ⟨socketId, socket, room⟩
  obtain ⟨index, here⟩ := List.mem_iff_getElem?.mp member
  have own := underway.outside here socket (by simp [inCall]) room
  cases own

theorem callsStand_iff (underway : Underway system) : CallsStand system ↔ Clear system := by
  refine forall_congr' fun callId => forall_congr' fun row => ?_
  refine imp_congr_right fun _ => and_congr_right fun _ => imp_congr_right fun _ => ?_
  constructor
  · intro present
    refine Bool.eq_false_iff.mpr (fun both => ?_)
    obtain ⟨first, second⟩ := (Bool.and_eq_true _ _).mp both
    obtain ⟨caller, member, calls⟩ := shows_iff.mp first
    obtain ⟨callee, member', called⟩ := shows_iff.mp second
    have entered := present caller member callee member' calls called
    exact underway.not_inRoom member calls entered.1
  · intro apart caller member callee member' calls called
    have both : system.bothOpen callId = true :=
      (Bool.and_eq_true _ _).mpr
        ⟨shows_iff.mpr ⟨caller, member, calls⟩, shows_iff.mpr ⟨callee, member', called⟩⟩
    rw [both] at apart
    cases apart

end States

section Gateway

variable {runtime : Runtime} {system : System} {stimulus : Stimulus} {uplink : Sent}
  {downlink : List (SocketId × Incoming)}

/-- A call that `call:initiate` has just created is neither over nor active. -/
theorem created_clear {callId : Uuid} {row : CallSession}
    (absent : system.world.session callId = none)
    (created : (system.world.after runtime stimulus).session callId = some row)
    (initiates
      : stimulus.event.creates callId = true →
          ∃ socketId data, stimulus.event = .callInitiate socketId data callId)
    : row.status.closed = false ∧ row.status ≠ .active := by
  obtain ⟨socketId, data, sent⟩ := initiates (session_created absent (by rw [created]; rfl))
  constructor
  · rcases after_of_none runtime stimulus absent with
      ⟨still, _⟩ | ⟨params, ⟨row', _⟩ | ⟨row', _⟩⟩
    · cases created.symm.trans still
    · cases Option.some.inj (created.symm.trans row')
      rfl
    · cases Option.some.inj (created.symm.trans row')
      rfl
  · intro active
    have quiet : (system.world.after runtime stimulus).active callId = false := by
      obtain ⟨now, event⟩ := stimulus
      subst sent
      rw [initiate_active]
      simp [World.active, absent]
    rw [World.active, created] at quiet
    simp [active] at quiet

/-- An event spoils no call exactly if none of its UPDATEs closes one, or makes one active
whose pages are both open. -/
theorem clear_after (clear : Clear system)
    (initiates
      : ∀ callId, stimulus.event.creates callId = true →
          ∃ socketId data, stimulus.event = .callInitiate socketId data callId)
    : Clear {
        system with
        world := system.world.after runtime stimulus
        uplink := uplink
        downlink := downlink
      }
      ↔ ∀ callId update,
          (system.world.session callId).isSome →
            stimulus.event.updateOf system.world.gateway callId = some update →
              update.status.closed = false
              ∧ (update.status = .active → system.bothOpen callId = false) := by
  constructor
  · intro after callId update existed issued
    obtain ⟨row, found⟩ := Option.isSome_iff_exists.mp existed
    rcases after_of_row runtime stimulus found with ⟨nothing, _⟩ | ⟨update', issued', same, _⟩
    · cases issued.symm.trans nothing
    · cases Option.some.inj (issued.symm.trans issued')
      exact after callId _ same
  · intro updates callId row' found'
    cases found : system.world.session callId with
    | none =>
        obtain ⟨opens, other⟩ := created_clear found found' (initiates callId)
        exact ⟨opens, fun active => absurd active other⟩
    | some row =>
        rcases after_of_row runtime stimulus found with
          ⟨_, same, _⟩ | ⟨update, issued, same, _⟩
        · cases Option.some.inj (found'.symm.trans same)
          exact clear callId _ found
        · cases Option.some.inj (found'.symm.trans same)
          exact updates callId update (by rw [found]; rfl) issued

/-- Of the packets of the flow, exactly those that are spared spoil no call. -/
theorem spares_iff (underway : Underway system) {packet : Packet} {sender : SocketId}
    {drawn : Uuid} (direct : packet.direct = true)
    : (∀ callId update,
        (system.world.session callId).isSome →
          (packet.event sender drawn).updateOf system.world.gateway callId = some update →
            update.status.closed = false
            ∧ (update.status = .active → system.bothOpen callId = false))
      ↔ packet.spares system sender = true := by
  have silent (nothing : (packet.event sender drawn).rowUpdate system.world.gateway = none)
      (callId : Uuid)
      : (packet.event sender drawn).updateOf system.world.gateway callId = none := by
    rw [Event.updateOf, nothing]
    rfl
  cases packet with
  | disconnect =>
      simp only [Packet.spares, Option.isNone_iff_eq_none]
      constructor
      · intro updates
        cases remembered : system.world.gateway.callOf sender with
        | none => rfl
        | some text =>
            obtain ⟨callId, cast, existed⟩ :=
              underway.seated.called (Option.filter_eq_some_iff.mp remembered).1
            have issued
                : (Event.disconnect sender).updateOf system.world.gateway callId
                  = some CloseReason.ended.update := by
              simp [Event.updateOf, Event.rowUpdate, remembered, cast]
            cases (updates callId _ existed issued).1
      · intro forgotten callId update _ issued
        rw [silent (by simp [Packet.event, Event.rowUpdate, forgotten])] at issued
        cases issued
  | callAccept data =>
      simp only [Packet.spares, Bool.or_eq_true, Bool.not_eq_true']
      cases allowed : system.world.gateway.mayAccept sender data.callId with
      | false =>
          refine iff_of_true (fun callId update _ issued => ?_) (.inl rfl)
          rw [silent (by simp [Packet.event, Event.rowUpdate, allowed])] at issued
          cases issued
      | true =>
          have issued (callId : Uuid)
              : (Event.callAccept sender data).updateOf system.world.gateway callId
                = if data.callId.cast = some callId then some .accepted else none := by
            simp [Event.updateOf, Event.rowUpdate, allowed]
          simp only [Packet.event, issued]
          cases cast : data.callId.cast with
          | none => simp
          | some callId =>
              simp only [Option.some.injEq, Option.all_some, Bool.or_eq_true,
                Option.isNone_iff_eq_none, Bool.not_eq_true']
              constructor
              · intro updates
                cases found : system.world.session callId with
                | none => exact .inr (.inl rfl)
                | some row =>
                    refine .inr (.inr ?_)
                    exact (updates callId .accepted (by rw [found]; rfl) (if_pos rfl)).2 rfl
              · rintro (barred | absent | apart) id update existed accepted
                · cases barred
                · split at accepted
                  · next same =>
                      subst same
                      rw [absent] at existed
                      cases existed
                  · cases accepted
                · split at accepted
                  · next same =>
                      subst same
                      cases accepted
                      exact ⟨rfl, fun _ => apart⟩
                  · cases accepted
  | callEnd _ => cases direct
  | joinQueue _ => cases direct
  | _ =>
      refine iff_of_true (fun callId update _ issued => ?_) rfl
      rw [silent rfl] at issued
      cases issued

/-- The gateway serves what comes next over a socket. -/
theorem clear_serve (underway : Underway system) (clear : Clear system) {now : Time}
    {socketId : SocketId} {drawn : Uuid} {next : System}
    (served : system.serve runtime now socketId drawn = some next)
    : Clear next ↔ callsKept system (.serve now socketId drawn) = true := by
  obtain ⟨⟨sender, packet⟩, coming, handled⟩ := Option.bind_eq_some_iff.mp served
  obtain ⟨world, stepped, rfl⟩ := Option.map_eq_some_iff.mp handled
  obtain ⟨admitted, rfl⟩ := step_eq_some.mp stepped
  obtain ⟨member, rfl⟩ := mem_of_next coming
  have direct : packet.direct = true := (underway.sent member).2
  simp only [callsKept, coming, Option.all_some]
  refine (clear_after clear (fun callId creates => ?_)).trans (spares_iff underway direct)
  cases packet with
  | callInitiate data =>
      refine ⟨sender, data, ?_⟩
      rw [← of_decide_eq_true creates]
      rfl
  | joinQueue _ => cases direct
  | _ => cases creates

end Gateway

section Moves

variable {runtime : Runtime} {browser : Browser} {system next : System} {index : Nat}
  {tab tab' : Tab}

/-- The pages that are open after a tab has been replaced. -/
theorem shows_of_set {uplink : Sent} {downlink : List (SocketId × Incoming)}
    {sockets : List SocketId} {callId : Uuid} {isInitiator : Bool}
    (shown
      : System.shows
          {
            system with
            tabs := system.tabs.set index tab'
            uplink := uplink
            downlink := downlink
            sockets := sockets
          }
          callId isInitiator
        = true)
    : tab'.view = some (.uuid callId, isInitiator)
      ∨ system.shows callId isInitiator = true := by
  obtain ⟨found, member, view⟩ := shows_iff.mp shown
  rcases List.mem_or_eq_of_mem_set member with before | rfl
  · exact .inr (shows_iff.mpr ⟨found, before, view⟩)
  · exact .inl view

/-- A tab that opens no page of a call spoils none. -/
theorem clear_of_set {uplink : Sent} {downlink : List (SocketId × Incoming)}
    {sockets : List SocketId} (clear : Clear system)
    (opens
      : ∀ callId isInitiator,
          tab'.view = some (.uuid callId, isInitiator) →
            system.shows callId isInitiator = true)
    : Clear {
        system with
        tabs := system.tabs.set index tab'
        uplink := uplink
        downlink := downlink
        sockets := sockets
      } := by
  intro callId row found
  refine ⟨(clear callId row found).1, fun active => Bool.eq_false_iff.mpr (fun both => ?_)⟩
  have apart := (clear callId row found).2 active
  obtain ⟨first, second⟩ := (Bool.and_eq_true _ _).mp both
  have shown {isInitiator : Bool}
      (shows
        : tab'.view = some (.uuid callId, isInitiator)
          ∨ system.shows callId isInitiator = true)
      : system.shows callId isInitiator = true :=
    shows.elim (opens callId isInitiator) id
  rw [System.bothOpen, shown (shows_of_set first), shown (shows_of_set second)] at apart
  cases apart

/-- So does a tab that stays on its page. -/
theorem clear_put (clear : Clear system) {done : Tab × List Packet}
    (here : system.tabs[index]? = some tab) (steady : tab.Steady done)
    (downlink : List (SocketId × Incoming))
    : Clear { system.put index done with downlink := downlink } :=
  clear_of_set clear (fun _ _ view =>
    shows_iff.mpr ⟨tab, List.mem_of_getElem? here, steady.view.symm.trans view⟩)

/-- The page of a call that a tab on the dashboard opens is there besides those that have been
open. -/
theorem shows_set_iff {uplink : Sent} {downlink : List (SocketId × Incoming)}
    {sockets : List SocketId} (here : system.tabs[index]? = some tab)
    (dashboard : tab.view = none) {callId : Uuid} {isInitiator : Bool}
    : System.shows
          {
            system with
            tabs := system.tabs.set index tab'
            uplink := uplink
            downlink := downlink
            sockets := sockets
          }
          callId isInitiator
        = true
      ↔ tab'.view = some (.uuid callId, isInitiator)
        ∨ system.shows callId isInitiator = true := by
  refine ⟨shows_of_set, fun shown => shows_iff.mpr ?_⟩
  rcases shown with view | before
  · exact ⟨tab', List.mem_set (List.getElem?_eq_some_iff.mp here).1 tab', view⟩
  · obtain ⟨found, member, view⟩ := shows_iff.mp before
    obtain ⟨other, there⟩ := List.mem_iff_getElem?.mp member
    have apart : index ≠ other := by
      rintro rfl
      cases Option.some.inj (here.symm.trans there)
      rw [dashboard] at view
      cases view
    refine ⟨found, List.mem_of_getElem? (i := other) ?_, view⟩
    rwa [List.getElem?_set_ne apart]

/-- A tab that opens the page of a call spoils none exactly if the call is not active, or the
other page is not open. -/
theorem clear_open {uplink : Sent} {downlink : List (SocketId × Incoming)}
    {sockets : List SocketId} (clear : Clear system) (here : system.tabs[index]? = some tab)
    (dashboard : tab.view = none) {callId : Uuid} {isInitiator : Bool}
    (opens : tab'.view = some (.uuid callId, isInitiator))
    : Clear {
        system with
        tabs := system.tabs.set index tab'
        uplink := uplink
        downlink := downlink
        sockets := sockets
      }
      ↔ system.world.active callId = false ∨ system.shows callId (!isInitiator) = false := by
  constructor
  · intro after
    by_contra both
    rw [not_or, Bool.not_eq_false, Bool.not_eq_false] at both
    obtain ⟨active, shown⟩ := both
    obtain ⟨row, found, status⟩ := Option.map_eq_some_iff.mp (of_decide_eq_true active)
    have apart := (after callId row found).2 status
    rw [(bothOpen_iff isInitiator).mpr
      ⟨(shows_set_iff here dashboard).mpr (.inl opens),
        (shows_set_iff here dashboard).mpr (.inr shown)⟩] at apart
    cases apart
  · intro apart id row found
    refine ⟨(clear id row found).1, fun active => Bool.eq_false_iff.mpr (fun both => ?_)⟩
    have before := (clear id row found).2 active
    obtain ⟨own, other⟩ := (bothOpen_iff isInitiator).mp both
    rcases (shows_set_iff here dashboard).mp other with view | other
    · rw [opens] at view
      simp at view
    · rcases (shows_set_iff here dashboard).mp own with view | own
      · rw [opens] at view
        cases view
        rcases apart with inactive | hidden
        · simp [World.active, found, active] at inactive
        · rw [hidden] at other
          cases other
      · rw [(bothOpen_iff isInitiator).mpr ⟨own, other⟩] at before
        cases before

/-- The router takes a tab to another page. -/
theorem clear_navigate (underway : Underway system) (clear : Clear system)
    {destination : Destination} {fresh : SocketId} (here : system.tabs[index]? = some tab)
    (router : tab.router = some destination)
    (departed : system.depart index tab destination fresh = some next)
    : Clear next ↔ callsKept system (.navigate index fresh) = true := by
  unfold System.depart at departed
  split at departed
  · cases departed
  · cases departed
    simp only [callsKept, here, Option.bind_some, router]
    cases destination with
    | call text isInitiator =>
        have dashboard : tab.view = none := by
          have direct := underway.direct here
          rw [Tab.direct, router] at direct
          cases shown : tab.page with
          | call content =>
              rw [shown] at direct
              cases direct
          | _ => simp [Tab.view, shown, Page.view]
        cases text with
        | uuid callId =>
            rw [Bool.or_eq_true, Bool.not_eq_true', Bool.not_eq_true']
            exact clear_open clear here dashboard rfl
        | _ => exact iff_of_true (clear_of_set clear (fun _ _ view => by cases view)) rfl
    | _ => exact iff_of_true (clear_of_set clear (fun _ _ view => by cases view)) rfl

/-- Of the moves of the flow, exactly those that keep all calls spoil none. -/
theorem clear_step (underway : Underway system) (clear : Clear system) {move : Move}
    (flow : inFlow system move = true)
    (stepped : system.step runtime browser move = some next)
    : Clear next ↔ callsKept system move = true := by
  have silent {stimulus : Stimulus} {downlink : List (SocketId × Incoming)}
      (nothing : stimulus.event.rowUpdate system.world.gateway = none)
      (creates : ∀ callId, stimulus.event.creates callId = false)
      : Clear {
          system with
          world := system.world.after runtime stimulus
          downlink := downlink
        } := by
    refine (clear_after clear (fun callId created => ?_)).mpr ?_
    · rw [creates callId] at created
      cases created
    · intro callId update _ issued
      rw [Event.updateOf, nothing] at issued
      cases issued
  cases move with
  | register now userId email =>
      obtain ⟨world, taken, rfl⟩ := Option.map_eq_some_iff.mp stepped
      obtain ⟨_, rfl⟩ := step_eq_some.mp taken
      exact iff_of_true (silent rfl (fun _ => rfl)) rfl
  | timeout now callId =>
      obtain ⟨world, taken, rfl⟩ := Option.map_eq_some_iff.mp stepped
      obtain ⟨_, rfl⟩ := step_eq_some.mp taken
      have answered : system.world.gateway.misses callId = false := by
        simpa [inFlow] using flow
      exact iff_of_true (silent (by simp [Event.rowUpdate, answered]) (fun _ => rfl)) rfl
  | newTab userId =>
      simp only [System.step] at stepped
      split at stepped
      · cases stepped
        refine iff_of_true (fun callId row found => ?_) rfl
        have same {isInitiator : Bool}
            : System.shows { system with tabs := system.tabs ++ [{ userId := userId }] }
                callId isInitiator
              = system.shows callId isInitiator := by
          simp [System.shows, Tab.view, Page.view]
        rw [System.bothOpen, same, same]
        exact clear callId row found
      · cases stepped
  | act index action =>
      obtain ⟨tab, here, acted⟩ := Option.bind_eq_some_iff.mp stepped
      obtain ⟨done, acts, rfl⟩ := Option.map_eq_some_iff.mp acted
      obtain ⟨performed, performs, rfl⟩ := Option.map_eq_some_iff.mp acts
      have stays : action.ends = false := by simpa [inFlow] using flow
      refine iff_of_true ?_ rfl
      exact clear_put clear here
        (Tab.perform_steady (underway.direct here) stays performs).commit system.downlink
  | visit index destination fresh =>
      obtain ⟨tab, here, departed⟩ := Option.bind_eq_some_iff.mp stepped
      simp only [inFlow, Bool.and_eq_true, decide_eq_true_eq] at flow
      obtain ⟨rfl, _⟩ := flow
      unfold System.depart at departed
      split at departed
      · cases departed
      · cases departed
        exact iff_of_true (clear_of_set clear (fun _ _ view => by cases view)) rfl
  | navigate index fresh =>
      obtain ⟨tab, here, leaves⟩ := Option.bind_eq_some_iff.mp stepped
      obtain ⟨destination, router, departed⟩ := Option.bind_eq_some_iff.mp leaves
      exact clear_navigate underway clear here router departed
  | reconnect index arriving fresh =>
      obtain ⟨tab, here, reconnected⟩ := Option.bind_eq_some_iff.mp stepped
      unfold System.reconnect at reconnected
      split at reconnected
      · cases reconnected
      · split at reconnected
        · cases reconnected
        · cases reconnected
          refine iff_of_true (clear_of_set clear (fun _ _ view => ?_)) rfl
          exact shows_iff.mpr ⟨tab, List.mem_of_getElem? here, view⟩
  | deliver index =>
      obtain ⟨tab, here, delivered⟩ := Option.bind_eq_some_iff.mp stepped
      obtain ⟨socketId, socket, received⟩ := Option.bind_eq_some_iff.mp delivered
      obtain ⟨entry, coming, rfl⟩ := Option.map_eq_some_iff.mp received
      refine iff_of_true ?_ rfl
      exact clear_put clear here (Tab.receive_steady browser (underway.direct here) entry.2) _
  | serve now socketId drawn => exact clear_serve underway clear stepped

end Moves

/-- In every run of the flow no call is ended, rejected or missed, and both sockets are in the
room of an accepted call once both pages are open, exactly if the gateway never serves the
disconnect of a socket that remembers a call, and the pages of an accepted call are never both
opened. -/
theorem call_page_keeps_call {runtime : Runtime} {browser : Browser} {moves : List Move}
    {system : System} (run : (callFlow runtime browser).Reaches moves system)
    : (callFlow runtime browser).Throughout CallsStand .start moves
      ↔ (callFlow runtime browser).Along (fun before move => callsKept before move = true)
          .start moves := by
  refine Machine.throughout_iff_along (callFlow runtime browser) Underway ?_ ?_ underway_start
    ?_ run
  · intro before move next underway step
    obtain ⟨flow, stepped⟩ := (Machine.restrict_eq_some _).mp step
    exact underway.step flow stepped
  · intro before move next underway stands step
    obtain ⟨flow, stepped⟩ := (Machine.restrict_eq_some _).mp step
    rw [callsStand_iff (underway.step flow stepped)]
    exact clear_step underway ((callsStand_iff underway).mp stands) flow stepped
  · intro callId row found
    cases found

/-- The system after a run of the flow. -/
def flowAfter (moves : List Move) : System :=
  ((callFlow plainRuntime plainBrowser).exec .start moves).getD .start

theorem flowAfter_reached {moves : List Move}
    (taken : ((callFlow plainRuntime plainBrowser).exec .start moves).isSome)
    : (callFlow plainRuntime plainBrowser).Reaches moves (flowAfter moves) := by
  obtain ⟨system, run⟩ := Option.isSome_iff_exists.mp taken
  rw [flowAfter, run]
  exact run

/-- Two users are on their dashboards, the first one calls the second one, and both tabs know
it: the first one is about to open the page of the call 201. -/
def dialled : List Move :=
  [
    .register 0 1 "caller@example.org", .register 0 2 "callee@example.org",
    .newTab (some 1), .newTab (some 2), .visit 0 .dashboard 11, .visit 1 .dashboard 12,
    .serve 0 11 101, .serve 0 12 102,
    .act 0 (.startCall "callee@example.org" .video), .serve 1000 11 201
  ]
    ++ List.replicate 4 (.deliver 0) ++ List.replicate 3 (.deliver 1)

/-- The callee accepts and opens the page, while the caller has not left the dashboard yet. -/
def calleeFirst : List Move :=
  dialled
    ++ [
      .act 1 .acceptCall, .serve 2000 12 202, .navigate 1 14, .serve 2000 14 104, .deliver 1
    ]

/-- The call stands as long as the disconnect of the callee's first socket has not been
served. -/
theorem call_page_callee_first
    : (callFlow plainRuntime plainBrowser).Throughout CallsStand .start calleeFirst :=
  (call_page_keeps_call (flowAfter_reached (by decide +kernel))).mpr (by decide +kernel)

/-- The caller opens the page, and the gateway serves the disconnect of the first socket. -/
def callerOpens : List Move := dialled ++ [.navigate 0 13, .serve 2000 11 202]

/-- Both open the page, and the gateway serves the acceptance and the new connections before
the disconnects. -/
def bothOpen : List Move :=
  dialled
    ++ [
      .navigate 0 13, .serve 2000 13 103, .deliver 0,
      .act 1 .acceptCall, .navigate 1 14, .serve 3000 12 202, .serve 3000 14 104, .deliver 1
    ]

/-- Opening the page ends the call, unless the disconnects are late; and then the new sockets
of both are not in its room. -/
theorem opening_the_page_ends
    : ((flowAfter callerOpens).world.session 201).map CallSession.status = some .ended
      ∧ ((flowAfter bothOpen).world.session 201).map CallSession.status = some .active
      ∧ (flowAfter bothOpen).tabs.map (fun tab => (tab.socket, tab.isConnected))
        = [(some 13, true), (some 14, true)]
      ∧ (flowAfter bothOpen).world.gateway.rooms.members (.uuid 201) = [12, 11]
      ∧ ¬ (callFlow plainRuntime plainBrowser).Throughout CallsStand .start callerOpens
      ∧ ¬ (callFlow plainRuntime plainBrowser).Throughout CallsStand .start bothOpen := by
  have last {moves : List Move}
      (taken : ((callFlow plainRuntime plainBrowser).exec .start moves).isSome)
      (spoilt : ¬ Stands (flowAfter moves) 201)
      : ¬ (callFlow plainRuntime plainBrowser).Throughout CallsStand .start moves :=
    fun stands =>
      spoilt (stands moves [] _ (List.append_nil _).symm (flowAfter_reached taken) 201)
  refine ⟨?_, ?_, ?_, ?_, last ?_ ?_, last ?_ ?_⟩ <;> decide +kernel

end NexusComms.Frontend
