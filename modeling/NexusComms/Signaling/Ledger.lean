import NexusComms.Signaling.Origins
import NexusComms.Signaling.Participants

/-! Whether a participant's row is found again. Three handlers insert rows for sockets, with
different defaults for the two columns of a user, and five select rows by the ids of a socket.
-/

namespace NexusComms.Signaling

open Concurrency CallsRepository CallsService Matchmaking

/-- The arguments with which a handler selects rows of `call_participants`, and the socket that
it does so for. -/
structure RowSelection where
  socketId : SocketId
  callId : Uuid
  userId : Uuid
  anonymousId : Option Uuid
deriving DecidableEq, Repr

def RowSelection.selects (selection : RowSelection) (row : CallParticipant) : Bool :=
  CallsRepository.selects selection.callId selection.userId selection.anonymousId row

/-- The selection of a socket that is known. -/
def SocketMeta.selection (known : SocketMeta) (socketId : SocketId) (callId : Uuid)
    : RowSelection :=
  ⟨socketId, callId, known.identity, known.anonymous⟩

/-- The selection of a timer, for the socket that has called. -/
def MissedCallTimer.selection (timer : MissedCallTimer) (callId : Uuid) : RowSelection where
  socketId := timer.socketId
  callId := callId
  userId := timer.userId.getD timer.anonymousId
  anonymousId := if timer.userId.isSome then none else some timer.anonymousId

/-- The selection of the `markParticipantLeft` or `updateParticipantMedia` that the handler of
an event runs. -/
def Event.selection (gateway : Gateway) : Event → Option RowSelection
  | .callReject socketId callId =>
      match gateway.userOf socketId, callId.cast with
      | some userId, some id => some ⟨socketId, id, userId, none⟩
      | _, _ => none
  | .callEnd socketId callId =>
      match gateway.sockets.lookup socketId, callId.cast with
      | some known, some id => some (known.selection socketId id)
      | _, _ => none
  | .disconnect socketId =>
      match gateway.sockets.lookup socketId, (gateway.callOf socketId).bind Text.cast with
      | some known, some id => some (known.selection socketId id)
      | _, _ => none
  | .mediaToggle socketId data =>
      if data.mic.isNone && data.camera.isNone then
        none
      else
        match gateway.sockets.lookup socketId, data.callId.cast with
        | some known, some id => some (known.selection socketId id)
        | _, _ => none
  | .missedCall callId =>
      if gateway.misses callId then
        (gateway.missedCallTimers.lookup (.uuid callId)).map
          (fun timer => timer.selection callId)
      else
        none
  | _ => none

/-- What the two statements set in the rows that they select. -/
inductive RowChange (now : Time) : (CallParticipant → CallParticipant) → Prop
  | left : RowChange now (fun row => { row with leftAt := some now })
  | media (mic camera : Option Bool)
    : RowChange now
        (fun row =>
          {
            row with
            micEnabled := mic.getD row.micEnabled
            cameraEnabled := camera.getD row.cameraEnabled
          })

/-- The gateway's run, with the sockets for which rows have been inserted and the places of
these rows. -/
structure Ledger where
  world : World
  seats : List (SocketId × Nat)

namespace Ledger

def start : Ledger := ⟨.start, []⟩

def rows (ledger : Ledger) : List CallParticipant := ledger.world.gateway.db.callParticipants

/-- The sockets for which an event inserts rows, with these rows. -/
abbrev entrants (runtime : Runtime) (ledger : Ledger) (stimulus : Stimulus)
    : List (SocketId × CallParticipant) :=
  ledger.world.gateway.enlists runtime stimulus.now stimulus.event

/-- Their seats, which come after the earlier ones. -/
def entered (runtime : Runtime) (ledger : Ledger) (stimulus : Stimulus)
    : List (SocketId × Nat) :=
  ((ledger.entrants runtime stimulus).zipIdx ledger.rows.length).map
    (fun entrant => (entrant.1.1, entrant.2))

def after (runtime : Runtime) (ledger : Ledger) (stimulus : Stimulus) : Ledger where
  world := ledger.world.after runtime stimulus
  seats := ledger.seats ++ ledger.entered runtime stimulus

def step (runtime : Runtime) (ledger : Ledger) (stimulus : Stimulus) : Option Ledger :=
  (ledger.world.step runtime stimulus).map
    (fun world => ⟨world, ledger.seats ++ ledger.entered runtime stimulus⟩)

/-- A row of the call has been inserted for the socket. -/
def Seated (ledger : Ledger) (socketId : SocketId) (callId : Uuid) : Prop :=
  ∃ index row,
    (socketId, index) ∈ ledger.seats
    ∧ ledger.rows[index]? = some row
    ∧ row.callSessionId = callId

/-- A selection finds exactly the row that has been inserted for its socket and has not been
left: no other participant's, and no two. -/
structure Finds (ledger : Ledger) (selection : RowSelection) : Prop where
  own {index : Nat} {row : CallParticipant} (here : ledger.rows[index]? = some row)
    : selection.selects row = true
      ↔ (selection.socketId, index) ∈ ledger.seats
        ∧ row.callSessionId = selection.callId
        ∧ row.leftAt = none
  one {first second : Nat} {row row' : CallParticipant}
    (here : ledger.rows[first]? = some row) (there : ledger.rows[second]? = some row')
    (selected : selection.selects row = true) (selected' : selection.selects row' = true)
    : first = second

/-- Every handler that could run next finds the row of its socket, if there is one. -/
def FindsOwn (ledger : Ledger) : Prop :=
  ∀ (event : Event) (selection : RowSelection),
    event.selection ledger.world.gateway = some selection →
      ledger.Seated selection.socketId selection.callId →
        ledger.Finds selection

end Ledger

/-- Every run of the gateway, with the seats. -/
abbrev ledgerMachine (runtime : Runtime) : Machine Ledger Stimulus where
  init := .start
  step := Ledger.step runtime

/-- A user who accepts has no row in the call that has not been left, and no row of it has been
inserted for another tab of that user; and the first of a pair, unless they have gone, is
anonymous and is not paired with themselves. -/
def findable (ledger : Ledger) (stimulus : Stimulus) : Bool :=
  let gateway := ledger.world.gateway
  match stimulus.event with
  | .callAccept socketId data =>
      !gateway.accepts socketId data
        || match gateway.userOf socketId, data.callId.cast with
          | some userId, some id =>
              ledger.rows.all (fun row => !selects id userId none row)
                && ledger.seats.all
                    (fun seat =>
                      decide (seat.1 = socketId)
                        || decide (gateway.userOf seat.1 ≠ some userId)
                        || ledger.rows[seat.2]?.all
                            (fun row => decide (row.callSessionId ≠ id)))
          | _, _ => true
  | .joinQueue socketId preferredType _ =>
      match gateway.pairing stimulus.now socketId preferredType with
      | none => true
      | some (a, b) =>
          !gateway.knows a.socketId
            || a.userId.isNone && decide (a.socketId ≠ b.socketId)
  | _ => true

-----------------------------------------------------------------------------------------
-- Selections
-----------------------------------------------------------------------------------------

section Selections

/-- The rows after an UPDATE of those that a selection finds, if there is one. -/
def selected (selection : Option RowSelection) (rows : List CallParticipant)
    (change : CallParticipant → CallParticipant)
    : List CallParticipant :=
  rows.map (fun row => if selection.any (fun found => found.selects row) then change row else row)

theorem selected_none (rows : List CallParticipant)
    (change : CallParticipant → CallParticipant)
    : selected none rows change = rows := by
  simp [selected]

/-- `endCall` marks what its arguments select as left. -/
theorem endCall_selects (now : Time) (db : Database) (socketId : SocketId) (params : EndParams)
    : (endCall now db params).db.callParticipants
      = selected
          (params.callId.cast.map
            (fun id => ⟨socketId, id, params.userId, params.anonymousId⟩))
          db.callParticipants (fun row => { row with leftAt := some now }) := by
  unfold CallsService.endCall
  cases params.callId.cast with
  | none => exact (selected_none _ _).symm
  | some id =>
      simp only [selected, Option.map_some, Option.any_some, RowSelection.selects,
        markParticipantLeft, updateParticipants, updateStatus_participants]
      rfl

/-- `toggleMedia` changes the devices of what its arguments select. -/
theorem toggleMedia_selects (db : Database) (socketId : SocketId) (params : MediaParams)
    : (toggleMedia db params).db.callParticipants
      = selected
          (if params.mic.isNone && params.camera.isNone then
            none
          else
            params.callId.cast.map
              (fun id => ⟨socketId, id, params.userId, params.anonymousId⟩))
          db.callParticipants
          (fun row =>
            {
              row with
              micEnabled := params.mic.getD row.micEnabled
              cameraEnabled := params.camera.getD row.cameraEnabled
            }) := by
  unfold CallsService.toggleMedia
  split
  · exact (selected_none _ _).symm
  · cases params.callId.cast with
    | none => exact (selected_none _ _).symm
    | some id =>
        simp only [selected, Option.map_some, Option.any_some, RowSelection.selects,
          updateParticipantMedia, updateParticipants]
        rfl

/-- A call that is rejected is left by whoever rejects it. -/
theorem onCallReject_selects (runtime : Runtime) (now : Time) (gateway : Gateway)
    (socketId : SocketId) (callId : Text)
    : (handle runtime now gateway (.callReject socketId callId)).gateway.db.callParticipants
      = selected ((Event.callReject socketId callId).selection gateway)
          gateway.db.callParticipants (fun row => { row with leftAt := some now }) := by
  simp only [handle, SignalingGateway.onCallReject, Event.selection, Gateway.userOf]
  cases found : gateway.sockets.lookup socketId with
  | none => exact (selected_none _ _).symm
  | some known =>
      cases registered : known.userId with
      | none => simp [registered, Outcome.refused, selected_none]
      | some userId =>
          have ended := endCall_selects now gateway.db socketId
            { callId := callId, userId := userId, reason := .rejected }
          simp only [Option.bind_some, registered]
          cases cast : callId.cast with
          | none => simp [CallsService.endCall, cast, selected_none]
          | some id =>
              simp only [cast, Option.map_some] at ended
              split
              · exact ended
              · exact ended

/-- A call that is ended is left by whoever ends it. -/
theorem onCallEnd_selects (runtime : Runtime) (now : Time) (gateway : Gateway)
    (socketId : SocketId) (callId : Text)
    : (handle runtime now gateway (.callEnd socketId callId)).gateway.db.callParticipants
      = selected ((Event.callEnd socketId callId).selection gateway)
          gateway.db.callParticipants (fun row => { row with leftAt := some now }) := by
  simp only [handle, SignalingGateway.onCallEnd, Event.selection]
  cases found : gateway.sockets.lookup socketId with
  | none => exact (selected_none _ _).symm
  | some known =>
      have ended := endCall_selects now gateway.db socketId
        {
          callId := callId
          userId := known.identity
          anonymousId := known.anonymous
          reason := .ended
        }
      dsimp only
      cases cast : callId.cast with
      | none => simp [CallsService.endCall, cast, selected_none]
      | some id =>
          simp only [cast, Option.map_some] at ended
          split
          · exact ended
          · rw [setCallId_db]
            exact ended

/-- A socket that disconnects leaves the call that its meta remembers. -/
theorem handleDisconnect_selects (runtime : Runtime) (now : Time) (gateway : Gateway)
    (socketId : SocketId)
    : (handle runtime now gateway (.disconnect socketId)).gateway.db.callParticipants
      = selected ((Event.disconnect socketId).selection gateway) gateway.db.callParticipants
          (fun row => { row with leftAt := some now }) := by
  simp only [handle, SignalingGateway.handleDisconnect, Event.selection, Gateway.callOf]
  cases found : gateway.sockets.lookup socketId with
  | none => exact (selected_none _ _).symm
  | some known =>
      simp only [Option.bind_some, SignalingGateway.endOrForget]
      cases remembered : known.callId.filter Text.truthy with
      | none => simp [selected_none]
      | some callId =>
          have ended := endCall_selects now gateway.db socketId
            {
              callId := callId
              userId := known.identity
              anonymousId := known.anonymous
              reason := .ended
            }
          simp only [Option.bind_some]
          cases cast : callId.cast with
          | none => simp [CallsService.endCall, cast, selected_none]
          | some id =>
              simp only [cast, Option.map_some] at ended
              split
              · exact ended
              · rw [forget_db]
                exact ended

/-- The devices of whoever toggles them are changed. -/
theorem onMediaToggle_selects (runtime : Runtime) (now : Time) (gateway : Gateway)
    (socketId : SocketId) (data : MediaData)
    : (handle runtime now gateway (.mediaToggle socketId data)).gateway.db.callParticipants
      = selected ((Event.mediaToggle socketId data).selection gateway)
          gateway.db.callParticipants
          (fun row =>
            {
              row with
              micEnabled := data.mic.getD row.micEnabled
              cameraEnabled := data.camera.getD row.cameraEnabled
            }) := by
  simp only [handle, SignalingGateway.onMediaToggle, Event.selection]
  cases found : gateway.sockets.lookup socketId with
  | none => simp [Outcome.refused, selected_none]
  | some known =>
      have toggled := toggleMedia_selects gateway.db socketId
        {
          callId := data.callId
          userId := known.identity
          anonymousId := known.anonymous
          mic := data.mic
          camera := data.camera
        }
      have same
          : (match some known, data.callId.cast with
              | some known, some id => some (known.selection socketId id)
              | _, _ => none)
            = data.callId.cast.map (known.selection socketId) := by
        cases data.callId.cast <;> rfl
      simp only [same]
      split
      · exact toggled
      · exact toggled

/-- A call that is missed is left by the socket that has called. -/
theorem missedCall_selects (runtime : Runtime) (now : Time) (gateway : Gateway) (callId : Uuid)
    : (handle runtime now gateway (.missedCall callId)).gateway.db.callParticipants
      = selected ((Event.missedCall callId).selection gateway) gateway.db.callParticipants
          (fun row => { row with leftAt := some now }) := by
  simp only [handle, Event.selection]
  by_cases misses : gateway.misses callId = true
  · have ringing := misses
    simp only [Gateway.misses, Bool.and_eq_true, decide_eq_true_eq] at ringing
    obtain ⟨timer, set⟩ := Option.isSome_iff_exists.mp ringing.1
    have ended := endCall_selects now gateway.db timer.socketId
      {
        callId := .uuid callId
        userId := timer.userId.getD timer.anonymousId
        anonymousId := if timer.userId.isSome then none else some timer.anonymousId
        reason := .missed
      }
    rw [if_pos misses, set]
    unfold SignalingGateway.missedCall
    dsimp only [Gateway.deletePending, Gateway.cancelTimer]
    rw [ringing.2]
    dsimp only
    split
    · exact ended
    · exact ended
  · rw [if_neg misses, selected_none]
    split
    · rfl
    · next timer set =>
        have answered
            : (gateway.db.callSessions.lookup callId).map CallSession.status
              ≠ some .initiated := by
          simpa [Gateway.misses, set] using misses
        unfold SignalingGateway.missedCall
        dsimp only [Gateway.deletePending, Gateway.cancelTimer]
        split
        · next ringing => exact absurd ringing answered
        · rfl

/-- The type of a call is no column of its participants. -/
theorem onSwitchType_rows (runtime : Runtime) (now : Time) (gateway : Gateway)
    (socketId : SocketId) (data : SwitchData)
    : (handle runtime now gateway (.switchType socketId data)).gateway.db.callParticipants
      = gateway.db.callParticipants := by
  simp only [handle, SignalingGateway.onSwitchType]
  split
  · rfl
  · split
    · exact toggleCallType_participants ..
    · exact toggleCallType_participants ..

/-- Group calls have no participants in the database. -/
theorem onSfuJoin_rows (runtime : Runtime) (now : Time) (gateway : Gateway)
    (socketId : SocketId) (roomId : Text)
    : (handle runtime now gateway (.sfuJoin socketId roomId)).gateway.db.callParticipants
      = gateway.db.callParticipants := by
  simp only [handle, SignalingGateway.onSfuJoin]
  split
  · rfl
  · split
    · rfl
    · split
      · simp [SfuService.createRoom]
      · simp

theorem onCreateTransport_rows (runtime : Runtime) (now : Time) (gateway : Gateway)
    (socketId : SocketId) (roomId : Text) (transportId : Uuid)
    : (handle runtime now gateway
          (.createTransport socketId roomId transportId)).gateway.db.callParticipants
      = gateway.db.callParticipants := by
  simp only [handle, SignalingGateway.onCreateTransport]
  split
  · rfl
  · next created => rw [SfuService.createWebRtcTransport_eq created]

theorem onProduce_rows (runtime : Runtime) (now : Time) (gateway : Gateway)
    (socketId : SocketId) (data : ProduceData) (producerId : Uuid)
    : (handle runtime now gateway
          (.produce socketId data producerId)).gateway.db.callParticipants
      = gateway.db.callParticipants := by
  simp only [handle, SignalingGateway.onProduce]
  split
  · rfl
  · rfl

/-- A handler that inserts no rows changes the rows that its selection finds, in the way of one
of the two statements, and no others. -/
theorem handle_selects (runtime : Runtime) (now : Time) (gateway : Gateway) (event : Event)
    (plain : event.inserts = false)
    : ∃ change,
        RowChange now change
        ∧ (handle runtime now gateway event).gateway.db.callParticipants
          = selected (event.selection gateway) gateway.db.callParticipants change := by
  cases event with
  | callReject socketId callId => exact ⟨_, .left, onCallReject_selects ..⟩
  | callEnd socketId callId => exact ⟨_, .left, onCallEnd_selects ..⟩
  | disconnect socketId => exact ⟨_, .left, handleDisconnect_selects ..⟩
  | mediaToggle socketId data => exact ⟨_, .media data.mic data.camera, onMediaToggle_selects ..⟩
  | missedCall callId => exact ⟨_, .left, missedCall_selects ..⟩
  | register _ _ | callInitiate _ _ _ | callAccept _ _ | joinQueue _ _ _
  | requestContactSave _ _ _ => cases plain
  | switchType socketId data =>
      exact ⟨_, .left, (onSwitchType_rows ..).trans (selected_none _ _).symm⟩
  | sfuJoin socketId roomId =>
      exact ⟨_, .left, (onSfuJoin_rows ..).trans (selected_none _ _).symm⟩
  | createTransport socketId roomId transportId =>
      exact ⟨_, .left, (onCreateTransport_rows ..).trans (selected_none _ _).symm⟩
  | produce socketId data producerId =>
      exact ⟨_, .left, (onProduce_rows ..).trans (selected_none _ _).symm⟩
  | connect _ _ _ | signalOffer _ _ _ | signalAnswer _ _ _ | signalIce _ _ _
  | leaveQueue _ | queueStatusRequest _ => exact ⟨_, .left, (selected_none _ _).symm⟩

end Selections

/-- The row is one of the call, and the column that the selection compares has the id. -/
def RowSelection.Names (selection : RowSelection) (row : CallParticipant) : Prop :=
  row.callSessionId = selection.callId
  ∧ match selection.anonymousId with
    | some id => row.anonymousId = some id
    | none => row.userId = some selection.userId

section Names

variable {selection : RowSelection} {row row' : CallParticipant}

theorem selects_iff : selection.selects row = true ↔ selection.Names row ∧ row.leftAt = none := by
  unfold RowSelection.selects CallsRepository.selects RowSelection.Names
  cases selection.anonymousId with
  | none => simp
  | some id => simp

/-- What an UPDATE cannot change decides whether a row is named. -/
theorem names_of_key (same : row'.key = row.key)
    : selection.Names row' ↔ selection.Names row := by
  have call : row'.callSessionId = row.callSessionId := congrArg Prod.fst same
  have userId : row'.userId = row.userId := congrArg (fun key => key.2.1) same
  have anonymousId : row'.anonymousId = row.anonymousId := congrArg (fun key => key.2.2.1) same
  simp only [RowSelection.Names, call, userId, anonymousId]

/-- A registered user is named in `user_id`. -/
theorem names_user {known : SocketMeta} {socketId : SocketId} {callId userId : Uuid}
    (registered : known.userId = some userId)
    : (known.selection socketId callId).Names row
      ↔ row.callSessionId = callId ∧ row.userId = some userId := by
  simp [RowSelection.Names, SocketMeta.selection, SocketMeta.anonymous, SocketMeta.identity,
    registered]

/-- An anonymous visitor is named in `anonymous_id`. -/
theorem names_visitor {known : SocketMeta} {socketId : SocketId} {callId : Uuid}
    (anonymous : known.userId = none)
    : (known.selection socketId callId).Names row
      ↔ row.callSessionId = callId ∧ row.anonymousId = some known.anonymousId := by
  simp [RowSelection.Names, SocketMeta.selection, SocketMeta.anonymous, anonymous]

end Names

-----------------------------------------------------------------------------------------
-- Rows and seats
-----------------------------------------------------------------------------------------

/-- The timers of calls that still ring: the call has one row, that of the socket that has
called, which names its registered user. -/
def TimersFind (ledger : Ledger) : Prop :=
  ∀ callId timer,
    ledger.world.gateway.missedCallTimers.lookup (.uuid callId) = some timer →
      (ledger.world.session callId).map CallSession.status = some .initiated →
        ∃ index row userId,
          timer.userId = some userId
          ∧ (timer.socketId, index) ∈ ledger.seats
          ∧ ledger.rows[index]? = some row
          ∧ row.callSessionId = callId
          ∧ row.userId = some userId
          ∧ ∀ other row',
              ledger.rows[other]? = some row' → row'.callSessionId = callId → other = index

/-- What holds in every reachable state. -/
structure LedgerKnown (ledger : Ledger) : Prop where
  seated : Seated ledger.world
  entries : EntriesKnown ledger.world
  rows : RowsKnown ledger.world
  actors : ActorsKnown ledger.world
  origins : Originates ledger.world
  places {socketId : SocketId} {index : Nat} (seat : (socketId, index) ∈ ledger.seats)
    : index < ledger.rows.length
  sockets {socketId : SocketId} {index : Nat} (seat : (socketId, index) ∈ ledger.seats)
    : socketId ∈ ledger.world.opened
  timed {callId : Uuid} {timer : MissedCallTimer}
    (set : ledger.world.gateway.missedCallTimers.lookup (.uuid callId) = some timer)
    : (ledger.world.session callId).isSome
  timers : TimersFind ledger

section Steps

variable {runtime : Runtime} {ledger : Ledger} {stimulus : Stimulus}

/-- A step of the ledger is one of the gateway. -/
theorem ledger_step_eq_some {next : Ledger}
    : ledger.step runtime stimulus = some next
      ↔ ledger.world.admits stimulus = true ∧ ledger.after runtime stimulus = next := by
  constructor
  · intro taken
    obtain ⟨world, stepped, rfl⟩ := Option.map_eq_some_iff.mp taken
    obtain ⟨admitted, rfl⟩ := step_eq_some.mp stepped
    exact ⟨admitted, rfl⟩
  · rintro ⟨admitted, rfl⟩
    exact Option.map_eq_some_iff.mpr ⟨_, step_eq_some.mpr ⟨admitted, rfl⟩, rfl⟩

/-- A place after an event: that of an earlier row, which keeps its key and stays left once it
has been left, or that of a row that has been inserted. -/
theorem rows_cases (known : LedgerKnown ledger) {index : Nat} {row : CallParticipant}
    (here : (ledger.after runtime stimulus).rows[index]? = some row)
    : (∃ earlier,
        ledger.rows[index]? = some earlier
        ∧ row.key = earlier.key
        ∧ (row.leftAt = none → earlier.leftAt = none))
      ∨ ledger.rows.length ≤ index
        ∧ ∃ entrant,
            (ledger.entrants runtime stimulus)[index - ledger.rows.length]? = some entrant
            ∧ row = entrant.2 := by
  obtain ⟨change, amends, same⟩ :=
    handle_enlists known.seated known.entries runtime stimulus.now stimulus.event
  change (ledger.after runtime stimulus).rows = ledger.rows.map change ++ _ at same
  rw [same] at here
  rcases Nat.lt_or_ge index ledger.rows.length with early | late
  · left
    rw [List.getElem?_append_left (by simpa using early), List.getElem?_map] at here
    obtain ⟨earlier, there, rfl⟩ := Option.map_eq_some_iff.mp here
    refine ⟨earlier, there, amends.key earlier, fun stays => ?_⟩
    by_contra left
    have gone : earlier.leftAt.isSome = true := Option.isSome_iff_ne_none.mpr left
    rw [amends.left gone] at stays
    exact left stays
  · right
    rw [List.getElem?_append_right (by simpa using late), List.length_map,
      List.getElem?_map] at here
    obtain ⟨entrant, there, rfl⟩ := Option.map_eq_some_iff.mp here
    exact ⟨late, entrant, there, rfl⟩

/-- An earlier row keeps its place and its key. -/
theorem rows_stay (known : LedgerKnown ledger) {index : Nat} {row : CallParticipant}
    (here : ledger.rows[index]? = some row)
    : ∃ later,
        (ledger.after runtime stimulus).rows[index]? = some later
        ∧ later.key = row.key
        ∧ (later.leftAt = none → row.leftAt = none) := by
  obtain ⟨change, amends, same⟩ :=
    handle_enlists known.seated known.entries runtime stimulus.now stimulus.event
  change (ledger.after runtime stimulus).rows = ledger.rows.map change ++ _ at same
  have bound := (List.getElem?_eq_some_iff.mp here).1
  have there : (ledger.after runtime stimulus).rows[index]? = some (change row) := by
    rw [same, List.getElem?_append_left (by simpa using bound), List.getElem?_map, here]
    rfl
  rcases rows_cases known there with ⟨earlier, found, key, left⟩ | ⟨late, _⟩
  · cases Option.some.inj (here.symm.trans found)
    exact ⟨_, there, key, left⟩
  · exact absurd bound (Nat.not_lt.mpr late)

/-- A row that an event inserts gets the next place. -/
theorem rows_enter (known : LedgerKnown ledger) {place : Nat}
    {entrant : SocketId × CallParticipant}
    (enters
      : (ledger.entrants runtime stimulus)[place]? = some entrant)
    : (ledger.after runtime stimulus).rows[ledger.rows.length + place]? = some entrant.2 := by
  obtain ⟨change, amends, same⟩ :=
    handle_enlists known.seated known.entries runtime stimulus.now stimulus.event
  change (ledger.after runtime stimulus).rows = ledger.rows.map change ++ _ at same
  rw [same, List.getElem?_append_right (by simp), List.length_map, Nat.add_sub_cancel_left,
    List.getElem?_map, enters]
  rfl

/-- The seats of those for whom rows are inserted are the places of these rows. -/
theorem mem_entered {socketId : SocketId} {index : Nat}
    : (socketId, index) ∈ ledger.entered runtime stimulus
      ↔ ledger.rows.length ≤ index
        ∧ ∃ entrant,
            (ledger.entrants runtime stimulus)[index - ledger.rows.length]? = some entrant
            ∧ entrant.1 = socketId := by
  simp only [Ledger.entered, List.mem_map, Prod.mk.injEq, Prod.exists]
  constructor
  · rintro ⟨other, row, place, member, rfl, rfl⟩
    obtain ⟨late, there⟩ := List.mem_zipIdx_iff_le_and_getElem?_sub.mp member
    exact ⟨late, other, row, there, rfl⟩
  · rintro ⟨late, other, row, there, rfl⟩
    exact ⟨other, row, index, List.mem_zipIdx_iff_le_and_getElem?_sub.mpr ⟨late, there⟩, rfl,
      rfl⟩

/-- Who has a place among the earlier rows has had it before. -/
theorem seats_early {socketId : SocketId} {index : Nat}
    (early : index < ledger.rows.length)
    : (socketId, index) ∈ (ledger.after runtime stimulus).seats
      ↔ (socketId, index) ∈ ledger.seats := by
  refine ⟨fun seat => ?_, fun seat => List.mem_append_left _ seat⟩
  rcases List.mem_append.mp seat with before | new
  · exact before
  · exact absurd early (Nat.not_lt.mpr (mem_entered.mp new).1)

/-- Who has a place among the new rows is the one for whom the row has been inserted. -/
theorem seats_late (known : LedgerKnown ledger) {socketId : SocketId} {index : Nat}
    (late : ledger.rows.length ≤ index)
    : (socketId, index) ∈ (ledger.after runtime stimulus).seats
      ↔ ∃ entrant,
          (ledger.entrants runtime stimulus)[index - ledger.rows.length]? = some entrant
          ∧ entrant.1 = socketId := by
  refine ⟨fun seat => ?_, fun enters => ?_⟩
  · rcases List.mem_append.mp seat with before | new
    · exact absurd (known.places before) (Nat.not_lt.mpr late)
    · exact (mem_entered.mp new).2
  · exact List.mem_append_right _ (mem_entered.mpr ⟨late, enters⟩)

-----------------------------------------------------------------------------------------
-- What stays found
-----------------------------------------------------------------------------------------

/-- A row that is found after an event which inserts none that is named was found before. -/
theorem selected_early (known : LedgerKnown ledger) {selection : RowSelection}
    (unnamed : ∀ entrant ∈ ledger.entrants runtime stimulus, ¬ selection.Names entrant.2)
    {index : Nat} {row : CallParticipant}
    (here : (ledger.after runtime stimulus).rows[index]? = some row)
    (selected : selection.selects row = true)
    : ∃ earlier, ledger.rows[index]? = some earlier ∧ selection.selects earlier = true := by
  obtain ⟨names, stays⟩ := selects_iff.mp selected
  rcases rows_cases known here with ⟨earlier, there, key, left⟩ | ⟨_, entrant, enters, rfl⟩
  · exact ⟨earlier, there, selects_iff.mpr ⟨(names_of_key key).mp names, left stays⟩⟩
  · exact absurd names (unnamed entrant (List.mem_of_getElem? enters))

/-- A selection keeps finding its row if an event inserts none that is named, and none of the
call for its socket. -/
theorem finds_others (known : LedgerKnown ledger) {selection : RowSelection}
    (finds : ledger.Finds selection)
    (unnamed : ∀ entrant ∈ ledger.entrants runtime stimulus, ¬ selection.Names entrant.2)
    (others
      : ∀ entrant ∈ ledger.entrants runtime stimulus,
          entrant.1 = selection.socketId → entrant.2.callSessionId ≠ selection.callId)
    : (ledger.after runtime stimulus).Finds selection where
  own {index row} here := by
    rcases rows_cases known here with ⟨earlier, there, key, left⟩ | ⟨late, entrant, enters, rfl⟩
    · have call : row.callSessionId = earlier.callSessionId := congrArg Prod.fst key
      have found := finds.own there
      rw [selects_iff] at found
      rw [selects_iff, names_of_key key, seats_early (List.getElem?_eq_some_iff.mp there).1,
        call]
      constructor
      · rintro ⟨names, stays⟩
        obtain ⟨seat, inCall, _⟩ := found.mp ⟨names, left stays⟩
        exact ⟨seat, inCall, stays⟩
      · rintro ⟨seat, inCall, stays⟩
        exact ⟨(found.mpr ⟨seat, inCall, left stays⟩).1, stays⟩
    · have member := List.mem_of_getElem? enters
      rw [selects_iff]
      refine iff_of_false (fun ⟨names, _⟩ => unnamed entrant member names) ?_
      rintro ⟨seat, inCall, _⟩
      obtain ⟨entrant', enters', same⟩ := (seats_late known late).mp seat
      cases Option.some.inj (enters.symm.trans enters')
      exact others entrant member same inCall
  one {first second row row'} here there selected selected' := by
    obtain ⟨_, before, was⟩ := selected_early known unnamed here selected
    obtain ⟨_, before', was'⟩ := selected_early known unnamed there selected'
    exact finds.one before before' was was'

/-- Who has a row of a call of which an event inserts none has had it before. -/
theorem seated_early (known : LedgerKnown ledger) {socketId : SocketId} {callId : Uuid}
    (elsewhere
      : ∀ entrant ∈ ledger.entrants runtime stimulus,
          entrant.1 = socketId → entrant.2.callSessionId ≠ callId)
    (seated : (ledger.after runtime stimulus).Seated socketId callId)
    : ledger.Seated socketId callId := by
  obtain ⟨index, row, seat, here, inCall⟩ := seated
  rcases rows_cases known here with ⟨earlier, there, key, _⟩ | ⟨late, entrant, enters, rfl⟩
  · have early := (List.getElem?_eq_some_iff.mp there).1
    exact ⟨index, earlier, (seats_early early).mp seat, there,
      (congrArg Prod.fst key).symm.trans inCall⟩
  · obtain ⟨other, enters', same⟩ := (seats_late known late).mp seat
    cases Option.some.inj (enters.symm.trans enters')
    exact absurd inCall (elsewhere entrant (List.mem_of_getElem? enters) same)

/-- Who is known and has a row has had its ids before. -/
theorem known_early (known : LedgerKnown ledger)
    (admitted : ledger.world.admits stimulus = true) {socketId : SocketId}
    {found : SocketMeta} {callId : Uuid}
    (knows : (ledger.after runtime stimulus).world.gateway.sockets.lookup socketId = some found)
    (seated : (ledger.after runtime stimulus).Seated socketId callId)
    : ∃ earlier,
        ledger.world.gateway.sockets.lookup socketId = some earlier
        ∧ earlier.userId = found.userId
        ∧ earlier.anonymousId = found.anonymousId := by
  have turn := handle_turn runtime stimulus.now ledger.world.gateway stimulus.event
  rcases turn.ids knows with earlier | sent
  · exact earlier
  · exfalso
    have elsewhere
        : ∀ entrant ∈ ledger.entrants runtime stimulus,
            entrant.1 = socketId → entrant.2.callSessionId ≠ callId := by
      rw [Ledger.entrants, sent]
      intro entrant enters
      cases enters
    obtain ⟨index, row, seat, _⟩ := seated_early known elsewhere seated
    simp only [World.admits, Bool.and_eq_true, List.all_eq_true, decide_eq_true_eq, sent,
      Event.opens] at admitted
    exact admitted.1.2 socketId (by simp) (known.sockets seat)

/-- The selections of all sockets that are known find their rows. -/
def SocketsFind (ledger : Ledger) : Prop :=
  ∀ socketId known callId,
    ledger.world.gateway.sockets.lookup socketId = some known →
      ledger.Seated socketId callId →
        ledger.Finds (known.selection socketId callId)

/-- A socket that is known keeps finding its row if an event inserts none that its selection
names, and none of the call for it. -/
theorem socketsFind_others (known : LedgerKnown ledger) (find : SocketsFind ledger)
    (admitted : ledger.world.admits stimulus = true) {socketId : SocketId}
    {found : SocketMeta} {callId : Uuid}
    (knows : (ledger.after runtime stimulus).world.gateway.sockets.lookup socketId = some found)
    (seated : (ledger.after runtime stimulus).Seated socketId callId)
    (unnamed
      : ∀ entrant ∈ ledger.entrants runtime stimulus,
          ¬ (found.selection socketId callId).Names entrant.2)
    (others
      : ∀ entrant ∈ ledger.entrants runtime stimulus,
          entrant.1 = socketId → entrant.2.callSessionId ≠ callId)
    : (ledger.after runtime stimulus).Finds (found.selection socketId callId) := by
  obtain ⟨earlier, there, user, anonymous⟩ := known_early known admitted knows seated
  have same : found.selection socketId callId = earlier.selection socketId callId := by
    simp [SocketMeta.selection, SocketMeta.identity, SocketMeta.anonymous, user, anonymous]
  rw [same] at unnamed ⊢
  exact finds_others known
    (find socketId earlier callId there (seated_early known others seated)) unnamed others

/-- It does so in particular if the event inserts no row of the call. -/
theorem socketsFind_elsewhere (known : LedgerKnown ledger) (find : SocketsFind ledger)
    (admitted : ledger.world.admits stimulus = true) {socketId : SocketId}
    {found : SocketMeta} {callId : Uuid}
    (knows : (ledger.after runtime stimulus).world.gateway.sockets.lookup socketId = some found)
    (seated : (ledger.after runtime stimulus).Seated socketId callId)
    (elsewhere
      : ∀ entrant ∈ ledger.entrants runtime stimulus,
          entrant.2.callSessionId ≠ callId)
    : (ledger.after runtime stimulus).Finds (found.selection socketId callId) :=
  socketsFind_others known find admitted knows seated
    (fun entrant enters names => elsewhere entrant enters names.1)
    (fun entrant enters _ => elsewhere entrant enters)

/-- The selection of a timer of a call that rings finds the row of the call. -/
theorem timer_finds (timers : TimersFind ledger) {callId : Uuid} {timer : MissedCallTimer}
    (set : ledger.world.gateway.missedCallTimers.lookup (.uuid callId) = some timer)
    (ringing : (ledger.world.session callId).map CallSession.status = some .initiated)
    : ledger.Finds (timer.selection callId) := by
  obtain ⟨index, row, userId, registered, seat, here, inCall, named, only⟩ :=
    timers callId timer set ringing
  have names {row' : CallParticipant}
      : (timer.selection callId).Names row'
        ↔ row'.callSessionId = callId ∧ row'.userId = some userId := by
    simp [RowSelection.Names, MissedCallTimer.selection, registered]
  constructor
  · intro other row' there
    rw [selects_iff, names]
    constructor
    · rintro ⟨⟨inCall', _⟩, stays⟩
      cases only other row' there inCall'
      exact ⟨seat, inCall', stays⟩
    · rintro ⟨_, inCall', stays⟩
      cases only other row' there inCall'
      cases Option.some.inj (here.symm.trans there)
      exact ⟨⟨inCall, named⟩, stays⟩
  · intro first second row' row'' there there' selected selected'
    have one := only first row' there (names.mp (selects_iff.mp selected).1).1
    have two := only second row'' there' (names.mp (selects_iff.mp selected').1).1
    exact one.trans two.symm

/-- A selection is that of a socket that is known, or of a timer of a call that rings. -/
theorem selection_cases {gateway : Gateway} {event : Event} {selection : RowSelection}
    (made : event.selection gateway = some selection)
    : (∃ known,
        gateway.sockets.lookup selection.socketId = some known
        ∧ selection = known.selection selection.socketId selection.callId)
      ∨ ∃ timer callId,
          gateway.missedCallTimers.lookup (.uuid callId) = some timer
          ∧ (gateway.db.callSessions.lookup callId).map CallSession.status = some .initiated
          ∧ selection = timer.selection callId := by
  cases event with
  | callReject socketId callId =>
      simp only [Event.selection] at made
      split at made
      · next userId id user cast =>
          cases made
          obtain ⟨known, found, registered⟩ := Option.bind_eq_some_iff.mp user
          refine .inl ⟨known, found, ?_⟩
          simp [SocketMeta.selection, SocketMeta.identity, SocketMeta.anonymous, registered]
      · cases made
  | callEnd socketId callId =>
      simp only [Event.selection] at made
      split at made
      · next known id found cast =>
          cases made
          exact .inl ⟨known, found, rfl⟩
      · cases made
  | disconnect socketId =>
      simp only [Event.selection] at made
      split at made
      · next known id found cast =>
          cases made
          exact .inl ⟨known, found, rfl⟩
      · cases made
  | mediaToggle socketId data =>
      simp only [Event.selection] at made
      split at made
      · cases made
      · split at made
        · next known id found cast =>
            cases made
            exact .inl ⟨known, found, rfl⟩
        · cases made
  | missedCall callId =>
      simp only [Event.selection] at made
      split at made
      · next misses =>
          obtain ⟨timer, set, rfl⟩ := Option.map_eq_some_iff.mp made
          simp only [Gateway.misses, Bool.and_eq_true, decide_eq_true_eq] at misses
          exact .inr ⟨timer, callId, set, misses.2, rfl⟩
      · cases made
  | _ => cases made

/-- All handlers find their rows if the selections of the sockets do. -/
theorem findsOwn_iff (timers : TimersFind ledger) : ledger.FindsOwn ↔ SocketsFind ledger := by
  constructor
  · intro finds socketId known callId knows seated
    refine finds (.callEnd socketId (.uuid callId)) _ ?_ seated
    simp [Event.selection, knows]
  · intro find event selection made seated
    rcases selection_cases made with ⟨known, knows, same⟩ | ⟨timer, callId, set, ringing, rfl⟩
    · rw [same]
      exact find _ known _ knows seated
    · exact timer_finds timers set ringing

-----------------------------------------------------------------------------------------
-- New rows
-----------------------------------------------------------------------------------------

/-- In a call that is new, only the rows matter that the event inserts. -/
theorem finds_new (known : LedgerKnown ledger) {selection : RowSelection}
    (absent : ledger.world.session selection.callId = none)
    : (ledger.after runtime stimulus).Finds selection
      ↔ (∀ (place : Nat) entrant,
          (ledger.entrants runtime stimulus)[place]? = some entrant →
            (selection.selects entrant.2 = true
              ↔ entrant.1 = selection.socketId
                ∧ entrant.2.callSessionId = selection.callId
                ∧ entrant.2.leftAt = none))
        ∧ ∀ (place place' : Nat) entrant entrant',
            (ledger.entrants runtime stimulus)[place]? = some entrant →
              (ledger.entrants runtime stimulus)[place']? = some entrant' →
                selection.selects entrant.2 = true →
                  selection.selects entrant'.2 = true →
                    place = place' := by
  have seat {place : Nat} {socketId : SocketId} {entrant : SocketId × CallParticipant}
      (enters
        : (ledger.entrants runtime stimulus)[place]? = some entrant)
      : (socketId, ledger.rows.length + place) ∈ (ledger.after runtime stimulus).seats
        ↔ entrant.1 = socketId := by
    rw [seats_late known (Nat.le_add_right _ _), Nat.add_sub_cancel_left, enters]
    simp
  have late {index : Nat} {row : CallParticipant}
      (here : (ledger.after runtime stimulus).rows[index]? = some row)
      (inCall : row.callSessionId = selection.callId)
      : ∃ place entrant,
          index = ledger.rows.length + place
          ∧ (ledger.entrants runtime stimulus)[place]? = some entrant
          ∧ row = entrant.2 := by
    rcases rows_cases known here with ⟨earlier, there, key, _⟩ | ⟨behind, entrant, enters, rfl⟩
    · have present := known.rows.calls (List.mem_of_getElem? there)
      have call : earlier.callSessionId = selection.callId :=
        (congrArg Prod.fst key).symm.trans inCall
      rw [call, absent] at present
      cases present
    · exact ⟨_, entrant, (Nat.add_sub_cancel' behind).symm, enters, rfl⟩
  constructor
  · intro finds
    refine ⟨fun place entrant enters => ?_,
      fun place place' entrant entrant' enters enters' selected selected' => ?_⟩
    · rw [finds.own (rows_enter known enters), seat enters]
    · exact Nat.add_left_cancel
        (finds.one (rows_enter known enters) (rows_enter known enters') selected selected')
  · rintro ⟨own, one⟩
    constructor
    · intro index row here
      by_cases inCall : row.callSessionId = selection.callId
      · obtain ⟨place, entrant, rfl, enters, rfl⟩ := late here inCall
        rw [own place entrant enters, seat enters]
      · rw [selects_iff]
        exact iff_of_false (fun ⟨names, _⟩ => inCall names.1) (fun ⟨_, call, _⟩ => inCall call)
    · intro first second row row' here there selected selected'
      obtain ⟨place, entrant, rfl, enters, rfl⟩ := late here (selects_iff.mp selected).1.1
      obtain ⟨place', entrant', rfl, enters', rfl⟩ := late there (selects_iff.mp selected').1.1
      rw [one place place' entrant entrant' enters enters' selected selected']

/-- Who has a row of a call that is new is one of those for whom the event inserts rows. -/
theorem seated_new (known : LedgerKnown ledger) {socketId : SocketId} {callId : Uuid}
    (absent : ledger.world.session callId = none)
    (seated : (ledger.after runtime stimulus).Seated socketId callId)
    : ∃ entrant ∈ ledger.entrants runtime stimulus, entrant.1 = socketId := by
  by_contra nobody
  simp only [not_exists, not_and] at nobody
  obtain ⟨index, row, _, here, inCall⟩ :=
    seated_early known (fun entrant enters same => absurd same (nobody entrant enters)) seated
  have present := known.rows.calls (List.mem_of_getElem? here)
  rw [inCall, absent] at present
  cases present

/-- The id that an event draws for a call names no call yet. -/
theorem call_new (known : LedgerKnown ledger) (admitted : ledger.world.admits stimulus = true)
    {callId : Uuid} (draws : callId ∈ stimulus.event.draws)
    : ledger.world.session callId = none := by
  by_contra present
  have drawn := known.rows.sessions (Option.isSome_iff_ne_none.mpr present)
  exact ActorsKnown.fresh admitted draws drawn

/-- A `call:initiate` inserts a row for a registered user, or none: the database refuses the id
of an anonymous visitor. -/
theorem initiate_entrants (actors : ActorsKnown ledger.world) (runtime : Runtime) (now : Time)
    (socketId : SocketId) (data : InitiateData) (callId : Uuid)
    : ledger.world.gateway.enlists runtime now (.callInitiate socketId data callId) = []
      ∨ ∃ known userId,
          ledger.world.gateway.sockets.lookup socketId = some known
          ∧ known.userId = some userId
          ∧ ledger.world.gateway.enlists runtime now (.callInitiate socketId data callId)
            = [(socketId, hostRow now callId (callerParams known data.callType))] := by
  simp only [Gateway.enlists]
  split
  · next initiates =>
      obtain ⟨known, _, found, _, _, referenced⟩ := (initiates_iff _).mp initiates
      right
      cases registered : known.userId with
      | none =>
          have refused := (actors.anonymous found).2
          simp only [SocketMeta.identity, registered, Option.getD_none] at referenced
          rw [refused] at referenced
          cases referenced
      | some userId => exact ⟨known, userId, found, registered, by simp [found]⟩
  · exact .inl rfl

/-- The row of a registered caller. -/
theorem names_host {known found : SocketMeta} {socketId : SocketId} {now : Time}
    {callId userId : Uuid} {callType : CallType} (registered : known.userId = some userId)
    (same : found.userId = known.userId)
    : (found.selection socketId callId).Names
        (hostRow now callId (callerParams known callType)) := by
  rw [names_user (same.trans registered)]
  simp [hostRow, callerParams, registered, SocketMeta.identity]

/-- The call that `call:initiate` creates is found by its caller. -/
theorem initiate_finds (known : LedgerKnown ledger)
    (admitted : ledger.world.admits stimulus = true) {socketId : SocketId} {data : InitiateData}
    {callId : Uuid} (sent : stimulus.event = .callInitiate socketId data callId)
    {other : SocketId} {found : SocketMeta}
    (knows : (ledger.after runtime stimulus).world.gateway.sockets.lookup other = some found)
    (seated : (ledger.after runtime stimulus).Seated other callId)
    : (ledger.after runtime stimulus).Finds (found.selection other callId) := by
  have draws : callId ∈ stimulus.event.draws := by simp [sent, Event.draws]
  have absent := call_new known admitted draws
  obtain ⟨earlier, there, user, _⟩ := known_early known admitted knows seated
  obtain ⟨entrant, enters, same⟩ := seated_new known absent seated
  refine (finds_new known absent).mpr ?_
  rw [Ledger.entrants, sent] at enters ⊢
  rcases initiate_entrants known.actors runtime stimulus.now socketId data callId with
    nothing | ⟨caller, userId, present, registered, only⟩
  · rw [nothing] at enters
    cases enters
  · rw [only] at enters ⊢
    obtain rfl := List.mem_singleton.mp enters
    subst same
    cases Option.some.inj (there.symm.trans present)
    have names : (found.selection socketId callId).Names
        (hostRow stimulus.now callId (callerParams earlier data.callType)) :=
      names_host registered user.symm
    constructor
    · intro place entrant here
      cases place with
      | zero =>
          cases here
          rw [selects_iff]
          exact ⟨fun selects => ⟨rfl, names.1, selects.2⟩, fun own => ⟨names, own.2.2⟩⟩
      | succ _ => cases here
    · intro place place' _ _ here here' _ _
      have bound := (List.getElem?_eq_some_iff.mp here).1
      have bound' := (List.getElem?_eq_some_iff.mp here').1
      simp only [List.length_singleton] at bound bound'
      omega

-----------------------------------------------------------------------------------------
-- What stays known
-----------------------------------------------------------------------------------------

/-- No UPDATE sets a call back to 'initiated'. -/
theorem issued_answers {gateway : Gateway} {event : Event} {id : Uuid} {update : StatusUpdate}
    (issued : event.updateOf gateway id = some update)
    : update.status ≠ .initiated := by
  obtain ⟨⟨callId, update'⟩, written, here⟩ := Option.bind_eq_some_iff.mp issued
  dsimp only at here
  split at here
  · cases here
    cases event <;> simp only [Event.rowUpdate, reduceCtorEq] at written
    case disconnect socketId =>
      obtain ⟨_, _, same⟩ := Option.map_eq_some_iff.mp written
      cases same
      decide
    all_goals
      split at written
      · cases written
        decide
      · cases written
  · cases here

/-- A row is inserted for a call that is new, or by an accept of a call that exists. -/
theorem entrant_cases (known : LedgerKnown ledger)
    (admitted : ledger.world.admits stimulus = true) {entrant : SocketId × CallParticipant}
    (enters : entrant ∈ ledger.entrants runtime stimulus)
    : ledger.world.session entrant.2.callSessionId = none
      ∨ ∃ data userId id,
          stimulus.event = .callAccept entrant.1 data
          ∧ ledger.world.gateway.userOf entrant.1 = some userId
          ∧ ledger.world.gateway.mayAccept entrant.1 data.callId = true
          ∧ data.callId.cast = some id
          ∧ entrant.2 = guestRow stimulus.now id (calleeParams data userId) := by
  have new {id : Uuid} (draws : id ∈ stimulus.event.draws)
      (inCall : entrant.2.callSessionId = id)
      : ledger.world.session entrant.2.callSessionId = none := by
    rw [inCall]
    exact call_new known admitted draws
  obtain ⟨now, event⟩ := stimulus
  cases event with
  | callInitiate socketId data id =>
      left
      rcases initiate_entrants known.actors runtime now socketId data id with
        nothing | ⟨_, _, _, _, only⟩
      · rw [Ledger.entrants, nothing] at enters
        cases enters
      · rw [Ledger.entrants, only] at enters
        obtain rfl := List.mem_singleton.mp enters
        exact new (List.mem_singleton_self id) rfl
  | callAccept socketId data =>
      right
      simp only [Ledger.entrants, Gateway.enlists] at enters
      split at enters
      · next accepts =>
          obtain ⟨userId, id, user, unbarred, cast, _⟩ :=
            (gateway_accepts_iff ledger.world.gateway).mp accepts
          rw [user, cast] at enters
          obtain rfl := List.mem_singleton.mp enters
          exact ⟨data, userId, id, rfl, user, by simp [Gateway.mayAccept, user, unbarred], cast,
            rfl⟩
      · cases enters
  | joinQueue socketId preferredType id =>
      left
      refine new (List.mem_singleton_self id) ?_
      simp only [Ledger.entrants, Gateway.enlists] at enters
      split at enters
      · cases enters
      · split at enters
        · rcases List.mem_pair.mp enters with rfl | rfl
          · rfl
          · rfl
        · cases enters
  | _ => cases enters

/-- A call that rings after an event, and existed before, rang before, and no row of it has
been inserted. -/
theorem ringing_before (known : LedgerKnown ledger)
    (admitted : ledger.world.admits stimulus = true) {callId : Uuid}
    (present : (ledger.world.session callId).isSome)
    (ringing
      : ((ledger.after runtime stimulus).world.session callId).map CallSession.status
        = some .initiated)
    : (ledger.world.session callId).map CallSession.status = some .initiated
      ∧ ∀ entrant ∈ ledger.entrants runtime stimulus, entrant.2.callSessionId ≠ callId := by
  obtain ⟨row, found⟩ := Option.isSome_iff_exists.mp present
  change ((ledger.world.after runtime stimulus).session callId).map _ = _ at ringing
  rcases after_of_row runtime stimulus found with ⟨unissued, same, _⟩ | ⟨update, issued, same, _⟩
  · rw [same] at ringing
    refine ⟨by rw [found]; exact ringing, fun entrant enters inCall => ?_⟩
    rcases entrant_cases known admitted enters with
      new | ⟨data, userId, id, sent, user, may, cast, row⟩
    · rw [inCall, found] at new
      cases new
    · have here : id = callId := by rw [← inCall, row]; rfl
      simp [Event.updateOf, Event.rowUpdate, sent, may, cast, here] at unissued
  · rw [same] at ringing
    exact absurd (Option.some.inj ringing) (issued_answers issued)

/-- Rows are inserted for sockets that have connected. -/
theorem entrant_opened (known : LedgerKnown ledger) {entrant : SocketId × CallParticipant}
    (enters : entrant ∈ ledger.entrants runtime stimulus)
    : entrant.1 ∈ ledger.world.opened := by
  have metas {socketId : SocketId} {found : SocketMeta}
      (here : ledger.world.gateway.sockets.lookup socketId = some found)
      : socketId ∈ ledger.world.opened :=
    known.origins.opened (known.origins.metas here)
  obtain ⟨now, event⟩ := stimulus
  cases event with
  | callInitiate socketId data id =>
      rcases initiate_entrants known.actors runtime now socketId data id with
        nothing | ⟨_, _, here, _, only⟩
      · rw [Ledger.entrants, nothing] at enters
        cases enters
      · rw [Ledger.entrants, only] at enters
        obtain rfl := List.mem_singleton.mp enters
        exact metas here
  | callAccept socketId data =>
      simp only [Ledger.entrants, Gateway.enlists] at enters
      split at enters
      · next accepts =>
          obtain ⟨userId, id, user, _, cast, _⟩ :=
            (gateway_accepts_iff ledger.world.gateway).mp accepts
          rw [user, cast] at enters
          obtain rfl := List.mem_singleton.mp enters
          obtain ⟨_, here, _⟩ := Option.bind_eq_some_iff.mp user
          exact metas here
      · cases enters
  | joinQueue socketId preferredType id =>
      simp only [Ledger.entrants, Gateway.enlists] at enters
      split at enters
      · cases enters
      · next a b paired =>
          obtain ⟨first, second⟩ := known.origins.pairing paired
          split at enters
          · rcases List.mem_pair.mp enters with rfl | rfl
            · exact known.origins.opened first
            · exact known.origins.opened second
          · cases enters
  | _ => cases enters

/-- A timer belongs to a call. -/
theorem timed_after (known : LedgerKnown ledger) {callId : Uuid} {timer : MissedCallTimer}
    (set
      : (ledger.after runtime stimulus).world.gateway.missedCallTimers.lookup (.uuid callId)
        = some timer)
    : (ledger.world.gateway.missedCallTimers.lookup (.uuid callId) = some timer
        ∧ (ledger.world.session callId).isSome)
      ∨ ∃ socketId data found,
          stimulus.event = .callInitiate socketId data callId
          ∧ timer = found.missedCallTimer socketId stimulus.now
          ∧ ledger.world.gateway.sockets.lookup socketId = some found
          ∧ ledger.world.session callId = none
          ∧ ledger.world.gateway.initiates runtime socketId data callId = true := by
  rcases handle_timers stimulus.now ledger.world.gateway runtime stimulus.event set with
    before | ⟨socketId, data, id, found, sent, same, here, rfl, resolved, absent, referenced⟩
  · exact .inl ⟨before, known.timed before⟩
  · cases same
    obtain ⟨target, resolved⟩ := resolved
    exact .inr ⟨socketId, data, found, sent, rfl, here, absent,
      (initiates_iff _).mpr ⟨found, target, here, resolved, absent, referenced⟩⟩

/-- The timers of calls that ring find their rows after an event. -/
theorem timersFind_after (known : LedgerKnown ledger)
    (admitted : ledger.world.admits stimulus = true)
    : TimersFind (ledger.after runtime stimulus) := by
  intro callId timer set ringing
  rcases timed_after known set with
    ⟨before, present⟩ | ⟨socketId, data, found, sent, rfl, here, absent, initiates⟩
  · obtain ⟨rang, elsewhere⟩ := ringing_before known admitted present ringing
    obtain ⟨index, row, userId, registered, seat, there, inCall, named, only⟩ :=
      known.timers callId timer before rang
    obtain ⟨later, (stays : (ledger.after runtime stimulus).rows[index]? = some later), key, _⟩ :=
      rows_stay known there
    refine ⟨index, later, userId, registered, List.mem_append_left _ seat, stays,
      (congrArg Prod.fst key).trans inCall, (congrArg (fun key => key.2.1) key).trans named,
      fun other row' here' inCall' => ?_⟩
    rcases rows_cases known here' with ⟨earlier, was, key', _⟩ | ⟨_, entrant, enters, rfl⟩
    · exact only other earlier was ((congrArg Prod.fst key').symm.trans inCall')
    · exact absurd inCall' (elsewhere entrant (List.mem_of_getElem? enters))
  · have only
        : ledger.entrants runtime stimulus
          = [(socketId, hostRow stimulus.now callId (callerParams found data.callType))] := by
      simp [Ledger.entrants, sent, Gateway.enlists, initiates, here]
    have place
        : (ledger.entrants runtime stimulus)[0]?
          = some (socketId, hostRow stimulus.now callId (callerParams found data.callType)) := by
      rw [only]
      rfl
    have registered : ∃ userId, found.userId = some userId := by
      rcases initiate_entrants known.actors runtime stimulus.now socketId data callId with
        nothing | ⟨found', userId, here', registered, _⟩
      · rw [Ledger.entrants, sent, nothing] at only
        cases only
      · cases Option.some.inj (here.symm.trans here')
        exact ⟨userId, registered⟩
    obtain ⟨userId, registered⟩ := registered
    refine ⟨ledger.rows.length, _, userId, registered,
      (seats_late known (Nat.le_refl _)).mpr ⟨_, by rw [Nat.sub_self]; exact place, rfl⟩,
      rows_enter known place, rfl, ?_, fun other row' here' inCall' => ?_⟩
    · simp [hostRow, callerParams, registered, SocketMeta.identity]
    · rcases rows_cases known here' with ⟨earlier, was, key', _⟩ | ⟨late, entrant, enters, rfl⟩
      · have present := known.rows.calls (List.mem_of_getElem? was)
        have call : earlier.callSessionId = callId :=
          (congrArg Prod.fst key').symm.trans inCall'
        rw [call, absent] at present
        cases present
      · rw [only] at enters
        have bound := (List.getElem?_eq_some_iff.mp enters).1
        simp only [List.length_singleton] at bound
        omega

theorem LedgerKnown.start : LedgerKnown .start where
  seated := seated_start
  entries := QueueStore.All.empty
  rows := rowsKnown_start
  actors := .start
  origins := .start
  places seat := by cases seat
  sockets seat := by cases seat
  timed set := by simp [Ledger.start, World.start, Gateway.empty] at set
  timers callId timer set := by simp [Ledger.start, World.start, Gateway.empty] at set

theorem LedgerKnown.step (known : LedgerKnown ledger)
    (admitted : ledger.world.admits stimulus = true)
    : LedgerKnown (ledger.after runtime stimulus) where
  seated := known.seated.step admitted
  entries := known.entries.step known.seated
  rows := known.rows.step known.seated known.entries
  actors := known.actors.step admitted
  origins := known.origins.step admitted
  places {socketId index} seat := by
    rcases List.mem_append.mp seat with before | new
    · have here := List.getElem?_eq_getElem (known.places before)
      obtain ⟨later, stays, _⟩ := rows_stay known here
      exact (List.getElem?_eq_some_iff.mp stays).1
    · obtain ⟨late, entrant, enters, _⟩ := mem_entered.mp new
      have there := rows_enter known enters
      rw [Nat.add_sub_cancel' late] at there
      exact (List.getElem?_eq_some_iff.mp there).1
  sockets {socketId index} seat := by
    change socketId ∈ stimulus.event.opens ++ ledger.world.opened
    rcases List.mem_append.mp seat with before | new
    · exact List.mem_append_right _ (known.sockets before)
    · obtain ⟨_, entrant, enters, rfl⟩ := mem_entered.mp new
      exact List.mem_append_right _ (entrant_opened known (List.mem_of_getElem? enters))
  timed {callId timer} set := by
    rcases timed_after known set with
      ⟨_, present⟩ | ⟨socketId, data, found, sent, _, here, _, initiates⟩
    · exact session_stays present
    · have added
          : (socketId, hostRow stimulus.now callId (callerParams found data.callType))
            ∈ ledger.world.gateway.enlists runtime stimulus.now stimulus.event := by
        simp [sent, Gateway.enlists, initiates, here]
      exact enlists_present known.seated known.entries added
  timers := timersFind_after known admitted

-----------------------------------------------------------------------------------------
-- Pairings
-----------------------------------------------------------------------------------------

/-- The row of the first of a pair is written as that of a visitor, whoever it is. -/
theorem names_first {found : SocketMeta} {socketId : SocketId} {now : Time} {callId : Uuid}
    {a b : TimedEntry}
    : (found.selection socketId callId).Names (hostRow now callId (firstParams a b))
      ↔ found.userId = none ∧ found.anonymousId = a.userId.getD a.anonymousId := by
  cases registered : found.userId with
  | none =>
      rw [names_visitor registered]
      cases user : a.userId with
      | none => simp [hostRow, firstParams, user, eq_comm]
      | some userId => simp [hostRow, firstParams, user, eq_comm]
  | some userId =>
      rw [names_user registered]
      simp [hostRow, firstParams]

/-- The row of the second has the column of a user or of a visitor. -/
theorem names_second {found : SocketMeta} {socketId : SocketId} {now : Time} {callId : Uuid}
    {a b : TimedEntry}
    : (found.selection socketId callId).Names (guestRow now callId (secondParams a b callId))
      ↔ found.userId = b.userId
        ∧ (found.userId = none → found.anonymousId = b.anonymousId) := by
  cases registered : found.userId with
  | none =>
      rw [names_visitor registered]
      cases user : b.userId with
      | none => simp [guestRow, secondParams, user, eq_comm]
      | some userId => simp [guestRow, secondParams, user]
  | some userId =>
      rw [names_user registered]
      cases user : b.userId with
      | none => simp [guestRow, secondParams, user]
      | some userId' => simp [guestRow, secondParams, user, eq_comm]

/-- A selection in the call of two users who are paired finds exactly the row of its socket if
it names the rows of that socket and no two. -/
theorem pair_finds_iff (known : LedgerKnown ledger)
    (admitted : ledger.world.admits stimulus = true) {socketId : SocketId}
    {preferredType : Option CallType} {callId : Uuid} {a b : TimedEntry}
    (sent : stimulus.event = .joinQueue socketId preferredType callId)
    (paired
      : ledger.world.gateway.pairing stimulus.now socketId preferredType = some (a, b))
    {selection : RowSelection} (here : selection.callId = callId)
    : (ledger.after runtime stimulus).Finds selection
      ↔ (selection.Names (hostRow stimulus.now callId (firstParams a b))
          ↔ a.socketId = selection.socketId)
        ∧ (selection.Names (guestRow stimulus.now callId (secondParams a b callId))
            ↔ b.socketId = selection.socketId)
        ∧ ¬ (a.socketId = selection.socketId ∧ b.socketId = selection.socketId) := by
  subst here
  have draws : selection.callId ∈ stimulus.event.draws := by simp [sent, Event.draws]
  have absent := call_new known admitted draws
  have missing : ledger.world.gateway.db.callSessions.lookup selection.callId = none := absent
  have both
      : ledger.entrants runtime stimulus
        = [
            (a.socketId, hostRow stimulus.now selection.callId (firstParams a b)),
            (b.socketId,
              guestRow stimulus.now selection.callId (secondParams a b selection.callId))
          ] := by
    simp [Ledger.entrants, sent, Gateway.enlists, paired, missing]
  have first {row : CallParticipant}
      (same : row = hostRow stimulus.now selection.callId (firstParams a b))
      : (selection.selects row = true
          ↔ a.socketId = selection.socketId
            ∧ row.callSessionId = selection.callId
            ∧ row.leftAt = none)
        ↔ (selection.Names row ↔ a.socketId = selection.socketId) := by
    subst same
    rw [selects_iff]
    simp [hostRow]
  have second {row : CallParticipant}
      (same
        : row = guestRow stimulus.now selection.callId (secondParams a b selection.callId))
      : (selection.selects row = true
          ↔ b.socketId = selection.socketId
            ∧ row.callSessionId = selection.callId
            ∧ row.leftAt = none)
        ↔ (selection.Names row ↔ b.socketId = selection.socketId) := by
    subst same
    rw [selects_iff]
    simp [guestRow]
  rw [finds_new known absent, both]
  constructor
  · rintro ⟨own, one⟩
    have host := (first rfl).mp (own 0 _ rfl)
    have guest := (second rfl).mp (own 1 _ rfl)
    refine ⟨host, guest, ?_⟩
    rintro ⟨same, same'⟩
    have clash := one 0 1 _ _ rfl rfl ((own 0 _ rfl).mpr ⟨same, rfl, rfl⟩)
      ((own 1 _ rfl).mpr ⟨same', rfl, rfl⟩)
    cases clash
  · rintro ⟨host, guest, apart⟩
    have own (place : Nat) (entrant : SocketId × CallParticipant)
        (enters
          : [
              (a.socketId, hostRow stimulus.now selection.callId (firstParams a b)),
              (b.socketId,
                guestRow stimulus.now selection.callId (secondParams a b selection.callId))
            ][place]?
            = some entrant)
        : (selection.selects entrant.2 = true
            ↔ entrant.1 = selection.socketId
              ∧ entrant.2.callSessionId = selection.callId
              ∧ entrant.2.leftAt = none)
          ∧ (place = 0 ∧ entrant.1 = a.socketId ∨ place = 1 ∧ entrant.1 = b.socketId) := by
      rcases place with _ | _ | _
      · cases enters
        exact ⟨(first rfl).mpr host, .inl ⟨rfl, rfl⟩⟩
      · cases enters
        exact ⟨(second rfl).mpr guest, .inr ⟨rfl, rfl⟩⟩
      · cases enters
    refine ⟨fun place entrant enters => (own place entrant enters).1,
      fun place place' entrant entrant' enters enters' selected selected' => ?_⟩
    obtain ⟨mine, kind⟩ := own place entrant enters
    obtain ⟨mine', kind'⟩ := own place' entrant' enters'
    have socket := (mine.mp selected).1
    have socket' := (mine'.mp selected').1
    rcases kind with ⟨rfl, here⟩ | ⟨rfl, here⟩ <;>
      rcases kind' with ⟨rfl, here'⟩ | ⟨rfl, here'⟩
    · rfl
    · exact absurd ⟨here.symm.trans socket, here'.symm.trans socket'⟩ apart
    · exact absurd ⟨here'.symm.trans socket', here.symm.trans socket⟩ apart
    · rfl

/-- Who is known before an event is known after it, unless it is a disconnect. -/
theorem known_stays (runtime : Runtime) (known : LedgerKnown ledger)
    (admitted : ledger.world.admits stimulus = true) (stays : stimulus.event.moves = false)
    {socketId : SocketId} {earlier : SocketMeta}
    (there : ledger.world.gateway.sockets.lookup socketId = some earlier)
    : ∃ found,
        (ledger.after runtime stimulus).world.gateway.sockets.lookup socketId = some found
        ∧ found.userId = earlier.userId
        ∧ found.anonymousId = earlier.anonymousId := by
  have connected : ledger.world.gateway.seats.connected socketId :=
    (known.seated.tidy.known socketId).mpr (Option.isSome_iff_exists.mpr ⟨earlier, there⟩)
  have after : Seated (ledger.world.after runtime stimulus) := known.seated.step admitted
  obtain ⟨found, here⟩ :=
    Option.isSome_iff_exists.mp
      ((after.tidy.known socketId).mp
        ((connected_stays known.seated admitted stays).mpr connected))
  refine ⟨found, here, ?_⟩
  have turn := handle_turn runtime stimulus.now ledger.world.gateway stimulus.event
  rcases turn.ids here with ⟨earlier', there', user, anonymous⟩ | sent
  · cases Option.some.inj (there.symm.trans there')
    exact ⟨user.symm, anonymous.symm⟩
  · rw [sent] at stays
    cases stays

/-- After a pairing all sockets find their rows exactly if the first of the pair, unless they
have gone, is anonymous and is not the second. -/
theorem join_finds_iff (known : LedgerKnown ledger) (find : SocketsFind ledger)
    (admitted : ledger.world.admits stimulus = true) {socketId : SocketId}
    {preferredType : Option CallType} {callId : Uuid} {a b : TimedEntry}
    (sent : stimulus.event = .joinQueue socketId preferredType callId)
    (paired
      : ledger.world.gateway.pairing stimulus.now socketId preferredType = some (a, b))
    : SocketsFind (ledger.after runtime stimulus)
      ↔ ∀ found,
          ledger.world.gateway.sockets.lookup a.socketId = some found →
            a.userId = none ∧ a.socketId ≠ b.socketId := by
  obtain ⟨first, second⟩ := known.origins.pairing paired
  have stays : stimulus.event.moves = false := by rw [sent]; rfl
  have draws : callId ∈ stimulus.event.draws := by simp [sent, Event.draws]
  have absent := call_new known admitted draws
  have missing : ledger.world.gateway.db.callSessions.lookup callId = none := absent
  have both
      : ledger.entrants runtime stimulus
        = [
            (a.socketId, hostRow stimulus.now callId (firstParams a b)),
            (b.socketId, guestRow stimulus.now callId (secondParams a b callId))
          ] := by
    simp [Ledger.entrants, sent, Gateway.enlists, paired, missing]
  constructor
  · intro finds found here
    obtain ⟨later, there, user, anonymous⟩ :=
      known_stays runtime known admitted stays here
    obtain ⟨own, own'⟩ := known.origins.agrees first here
    have seated : (ledger.after runtime stimulus).Seated a.socketId callId := by
      have place
          : (ledger.entrants runtime stimulus)[0]?
            = some (a.socketId, hostRow stimulus.now callId (firstParams a b)) := by
        rw [both]
        rfl
      refine ⟨ledger.rows.length, _, (seats_late known (Nat.le_refl _)).mpr ?_,
        rows_enter known place, rfl⟩
      exact ⟨_, by rw [Nat.sub_self]; exact place, rfl⟩
    obtain ⟨host, guest, apart⟩ :=
      (pair_finds_iff known admitted sent paired rfl).mp
        (finds a.socketId later callId there seated)
    obtain ⟨visitor, _⟩ := names_first.mp (host.mpr rfl)
    exact ⟨by rw [← own, ← user, visitor], fun same => apart ⟨rfl, same.symm⟩⟩
  · intro condition other found callId' here seated
    by_cases same : callId' = callId
    · subst same
      obtain ⟨earlier, there, user, anonymous⟩ := known_early known admitted here seated
      obtain ⟨entrant, enters, rfl⟩ := seated_new known absent seated
      rw [pair_finds_iff known admitted sent paired rfl, names_first, names_second, ← user,
        ← anonymous]
      change (_ ↔ a.socketId = entrant.1) ∧ (_ ↔ b.socketId = entrant.1)
        ∧ ¬ (a.socketId = entrant.1 ∧ b.socketId = entrant.1)
      -- two entries of different sockets have different ids in `anonymous_id`
      have differ (apart : a.socketId ≠ b.socketId) : a.anonymousId ≠ b.anonymousId :=
        fun same =>
          apart (congrArg Connection.socketId (known.origins.anonymousIds first second same))
      rw [both] at enters
      rcases List.mem_pair.mp enters with rfl | rfl
      · obtain ⟨visitor, apart⟩ := condition earlier there
        obtain ⟨own, own'⟩ := known.origins.agrees first there
        rw [own, own', visitor]
        refine ⟨by simp, iff_of_false ?_ apart.symm, fun both => apart both.2.symm⟩
        rintro ⟨_, same⟩
        exact differ apart (same rfl)
      · obtain ⟨own, own'⟩ := known.origins.agrees second there
        have apart : a.socketId ≠ b.socketId := fun same =>
          (condition earlier (by rw [same]; exact there)).2 same
        rw [own, own']
        refine ⟨iff_of_false ?_ apart, by simp, fun both => apart both.1⟩
        rintro ⟨_, same⟩
        cases registered : a.userId with
        | none =>
            rw [registered] at same
            exact differ apart same.symm
        | some userId =>
            have referenced := (pairing_known known.seated known.entries paired).1
            have unreferenced := (known.actors.anonymous there).2
            rw [registered] at same referenced
            rw [own', same, Option.getD_some, referenced] at unreferenced
            cases unreferenced
    · refine socketsFind_elsewhere known find admitted here seated fun entrant enters => ?_
      rw [both] at enters
      rcases List.mem_pair.mp enters with rfl | rfl
      · exact Ne.symm same
      · exact Ne.symm same

-----------------------------------------------------------------------------------------
-- Accepts
-----------------------------------------------------------------------------------------

section Accepts

variable {socketId : SocketId} {data : AcceptData} {userId id : Uuid}

/-- An accept adds the row of the callee and keeps the earlier ones as they are. -/
theorem accept_rows (known : LedgerKnown ledger)
    (sent : stimulus.event = .callAccept socketId data)
    (accepts : ledger.world.gateway.accepts socketId data = true)
    (user : ledger.world.gateway.userOf socketId = some userId)
    (cast : data.callId.cast = some id)
    : (ledger.after runtime stimulus).rows
      = ledger.rows ++ [guestRow stimulus.now id (calleeParams data userId)] := by
  obtain ⟨userId', id', user', unbarred, cast', present⟩ := (gateway_accepts_iff _).mp accepts
  cases Option.some.inj (user.symm.trans user')
  cases Option.some.inj (cast.symm.trans cast')
  have named : (calleeParams data userId).callId.cast = some id := cast
  obtain ⟨session, succeeded⟩ :=
    acceptCall_succeeds stimulus.now named present (known.seated.registered user)
  change (handle runtime stimulus.now ledger.world.gateway
    stimulus.event).gateway.db.callParticipants = _
  rw [sent]
  change (SignalingGateway.onCallAccept stimulus.now ledger.world.gateway socketId
    data).gateway.db.callParticipants = _
  rw [accept_db, user]
  dsimp only
  rw [if_neg (by simp [unbarred]), acceptCall_participants stimulus.now _ named succeeded]
  rfl

/-- The callee's row is named by the selections of the user. -/
theorem names_callee {tab : SocketId} {found : SocketMeta} {now : Time}
    : (found.selection tab id).Names (guestRow now id (calleeParams data userId))
      ↔ found.userId = some userId := by
  cases registered : found.userId with
  | none =>
      rw [names_visitor registered]
      simp [guestRow, calleeParams]
  | some userId' =>
      rw [names_user registered]
      simp [guestRow, calleeParams, eq_comm]

/-- What a socket of the user selects in a call. -/
theorem selects_user {tab : SocketId} {found : SocketMeta} {row : CallParticipant}
    (registered : found.userId = some userId)
    : (found.selection tab id).selects row = selects id userId none row := by
  simp [RowSelection.selects, SocketMeta.selection, SocketMeta.identity, SocketMeta.anonymous,
    registered]

/-- A place after an accept is an earlier one, or that of the callee's row. -/
theorem accept_row_cases
    (rows
      : (ledger.after runtime stimulus).rows
        = ledger.rows ++ [guestRow stimulus.now id (calleeParams data userId)])
    {index : Nat} {row : CallParticipant}
    (here : (ledger.after runtime stimulus).rows[index]? = some row)
    : ledger.rows[index]? = some row
      ∨ index = ledger.rows.length
        ∧ row = guestRow stimulus.now id (calleeParams data userId) := by
  rw [rows] at here
  rcases Nat.lt_or_ge index ledger.rows.length with early | late
  · rw [List.getElem?_append_left early] at here
    exact .inl here
  · rw [List.getElem?_append_right late] at here
    have bound := (List.getElem?_eq_some_iff.mp here).1
    simp only [List.length_singleton] at bound
    have last : index - ledger.rows.length = 0 := by omega
    rw [last] at here
    exact .inr ⟨by omega, (Option.some.inj here).symm⟩

/-- No row of the user that has not been left is in the call, and no other tab of the user has
got a row there. -/
def Alone (ledger : Ledger) (socketId : SocketId) (userId id : Uuid) : Prop :=
  (∀ row ∈ ledger.rows, selects id userId none row = false)
  ∧ ∀ tab (index : Nat) row,
      (tab, index) ∈ ledger.seats →
        ledger.rows[index]? = some row →
          ledger.world.gateway.userOf tab = some userId →
            row.callSessionId = id →
              tab = socketId

/-- The callee finds the new row and no other one of the user. -/
theorem callee_finds (find : SocketsFind ledger)
    (rows
      : (ledger.after runtime stimulus).rows
        = ledger.rows ++ [guestRow stimulus.now id (calleeParams data userId)])
    (seat
      : (socketId, ledger.rows.length) ∈ (ledger.after runtime stimulus).seats)
    (unleft : ∀ row ∈ ledger.rows, selects id userId none row = false)
    {earlier found : SocketMeta}
    (before : ledger.world.gateway.sockets.lookup socketId = some earlier)
    (registered : earlier.userId = some userId) (registered' : found.userId = some userId)
    : (ledger.after runtime stimulus).Finds (found.selection socketId id) := by
  have unchosen {known : SocketMeta} (user : known.userId = some userId) {index : Nat}
      {row : CallParticipant} (was : ledger.rows[index]? = some row)
      : (known.selection socketId id).selects row = false := by
    rw [selects_user user]
    exact unleft row (List.mem_of_getElem? was)
  have last {index : Nat} {row : CallParticipant}
      (here : (ledger.after runtime stimulus).rows[index]? = some row)
      (chosen : (found.selection socketId id).selects row = true)
      : index = ledger.rows.length := by
    rcases accept_row_cases rows here with was | ⟨last, _⟩
    · rw [unchosen registered' was] at chosen
      cases chosen
    · exact last
  constructor
  · intro index row here
    rcases accept_row_cases rows here with was | ⟨rfl, rfl⟩
    · rw [unchosen registered' was, seats_early (List.getElem?_eq_some_iff.mp was).1]
      refine iff_of_false (by simp) fun ⟨seat', inCall, stays⟩ => ?_
      -- an earlier row of the socket would have been found before
      have chosen :=
        ((find socketId earlier id before ⟨index, row, seat', was, inCall⟩).own was).mpr
          ⟨seat', inCall, stays⟩
      rw [unchosen registered was] at chosen
      cases chosen
    · exact iff_of_true (selects_iff.mpr ⟨names_callee.mpr registered', rfl⟩) ⟨seat, rfl, rfl⟩
  · intro first second row row' here there chosen chosen'
    exact (last here chosen).trans (last there chosen').symm

/-- After an accept all sockets find their rows exactly if the callee is alone. -/
theorem accept_finds_iff (known : LedgerKnown ledger) (find : SocketsFind ledger)
    (admitted : ledger.world.admits stimulus = true)
    (sent : stimulus.event = .callAccept socketId data)
    (accepts : ledger.world.gateway.accepts socketId data = true)
    (user : ledger.world.gateway.userOf socketId = some userId)
    (cast : data.callId.cast = some id)
    : SocketsFind (ledger.after runtime stimulus) ↔ Alone ledger socketId userId id := by
  have stays : stimulus.event.moves = false := by rw [sent]; rfl
  have rows
      : (ledger.after runtime stimulus).rows
        = ledger.rows ++ [guestRow stimulus.now id (calleeParams data userId)] :=
    accept_rows known sent accepts user cast
  have only
      : ledger.entrants runtime stimulus
        = [(socketId, guestRow stimulus.now id (calleeParams data userId))] := by
    simp [Ledger.entrants, sent, Gateway.enlists, accepts, user, cast]
  have place
      : (ledger.entrants runtime stimulus)[0]?
        = some (socketId, guestRow stimulus.now id (calleeParams data userId)) := by
    rw [only]
    rfl
  have guest := rows_enter known place
  rw [Nat.add_zero] at guest
  have seat {tab : SocketId}
      : (tab, ledger.rows.length) ∈ (ledger.after runtime stimulus).seats ↔ socketId = tab := by
    rw [seats_late known (Nat.le_refl _), Nat.sub_self, place]
    simp
  have still {index : Nat} {row : CallParticipant} (was : ledger.rows[index]? = some row)
      : (ledger.after runtime stimulus).rows[index]? = some row := by
    rw [rows, List.getElem?_append_left (List.getElem?_eq_some_iff.mp was).1, was]
  have chosen {tab : SocketId} {found : SocketMeta} (same : found.userId = some userId)
      : (found.selection tab id).selects (guestRow stimulus.now id (calleeParams data userId))
        = true :=
    selects_iff.mpr ⟨names_callee.mpr same, rfl⟩
  obtain ⟨caller, here, registered⟩ := Option.bind_eq_some_iff.mp user
  constructor
  · intro finds
    constructor
    · intro row listed
      obtain ⟨later, there, user', _⟩ :=
        known_stays runtime known admitted stays here
      have registered' : later.userId = some userId := user'.trans registered
      have finds' := finds socketId later id there
        ⟨ledger.rows.length, _, seat.mpr rfl, guest, rfl⟩
      obtain ⟨index, was⟩ := List.mem_iff_getElem?.mp listed
      have bound := (List.getElem?_eq_some_iff.mp was).1
      by_contra chosen'
      rw [Bool.not_eq_false, ← selects_user registered'] at chosen'
      exact Nat.ne_of_lt bound (finds'.one (still was) guest chosen' (chosen registered'))
    · intro tab index row seated was own inCall
      obtain ⟨earlier, there, registered'⟩ := Option.bind_eq_some_iff.mp own
      obtain ⟨later, there', user', _⟩ :=
        known_stays runtime known admitted stays there
      have finds' := finds tab later id there'
        ⟨index, row, List.mem_append_left _ seated, still was, inCall⟩
      have own' := (finds'.own guest).mp (chosen (user'.trans registered'))
      exact (seat.mp own'.1).symm
  · rintro ⟨unleft, tabs⟩ other found callId there seated
    by_cases same : callId = id
    · subst same
      obtain ⟨earlier, before, user', _⟩ := known_early known admitted there seated
      have others (apart : other ≠ socketId)
          : ∀ entrant ∈ ledger.entrants runtime stimulus,
              entrant.1 = other → entrant.2.callSessionId ≠ callId := by
        intro entrant enters same
        rw [only] at enters
        obtain rfl := List.mem_singleton.mp enters
        exact absurd same.symm apart
      by_cases mine : found.userId = some userId
      · have own : other = socketId := by
          by_contra apart
          obtain ⟨index, row, seat', was, inCall⟩ := seated_early known (others apart) seated
          refine apart (tabs other index row seat' was ?_ inCall)
          exact Option.bind_eq_some_iff.mpr ⟨earlier, before, user'.trans mine⟩
        subst own
        exact callee_finds find rows (seat.mpr rfl) unleft before (user'.trans mine) mine
      · have apart : other ≠ socketId := by
          rintro rfl
          cases Option.some.inj (before.symm.trans here)
          exact mine (user'.symm.trans registered)
        refine socketsFind_others known find admitted there seated ?_ (others apart)
        intro entrant enters names
        rw [only] at enters
        obtain rfl := List.mem_singleton.mp enters
        exact mine (names_callee.mp names)
    · refine socketsFind_elsewhere known find admitted there seated fun entrant enters => ?_
      rw [only] at enters
      obtain rfl := List.mem_singleton.mp enters
      exact Ne.symm same

end Accepts

-----------------------------------------------------------------------------------------
-- Every event
-----------------------------------------------------------------------------------------

/-- An event that inserts no rows keeps all sockets finding theirs. -/
theorem plain_finds (known : LedgerKnown ledger) (find : SocketsFind ledger)
    (admitted : ledger.world.admits stimulus = true)
    (nobody : ledger.entrants runtime stimulus = [])
    : SocketsFind (ledger.after runtime stimulus) := by
  intro other found callId knows seated
  refine socketsFind_elsewhere known find admitted knows seated fun entrant enters => ?_
  rw [nobody] at enters
  cases enters

/-- After a `call:initiate` all sockets find their rows. -/
theorem initiate_keeps (known : LedgerKnown ledger) (find : SocketsFind ledger)
    (admitted : ledger.world.admits stimulus = true) {socketId : SocketId} {data : InitiateData}
    {id : Uuid} (sent : stimulus.event = .callInitiate socketId data id)
    : SocketsFind (ledger.after runtime stimulus) := by
  intro other found callId knows seated
  by_cases same : callId = id
  · subst same
    exact initiate_finds known admitted sent knows seated
  · refine socketsFind_elsewhere known find admitted knows seated fun entrant enters => ?_
    rw [Ledger.entrants, sent] at enters
    rcases initiate_entrants known.actors runtime stimulus.now socketId data id with
      nothing | ⟨_, _, _, _, only⟩
    · rw [nothing] at enters
      cases enters
    · rw [only] at enters
      obtain rfl := List.mem_singleton.mp enters
      exact Ne.symm same

/-- What the condition asks of an accept that succeeds. -/
theorem findable_accept {socketId : SocketId} {data : AcceptData} {userId id : Uuid}
    (sent : stimulus.event = .callAccept socketId data)
    (accepts : ledger.world.gateway.accepts socketId data = true)
    (user : ledger.world.gateway.userOf socketId = some userId)
    (cast : data.callId.cast = some id)
    : findable ledger stimulus = true ↔ Alone ledger socketId userId id := by
  simp only [findable, sent, accepts, user, cast, Bool.not_true, Bool.false_or,
    Bool.and_eq_true, List.all_eq_true, Bool.not_eq_eq_eq_not, Bool.or_eq_true,
    decide_eq_true_eq, Option.all_eq_true, Alone]
  refine and_congr_right' ⟨fun all tab index row seat here own inCall => ?_, fun all seat => ?_⟩
  · rcases all (tab, index) seat with (same | other) | elsewhere
    · exact same
    · exact absurd own other
    · exact absurd inCall (elsewhere row here)
  · intro listed
    by_cases own : ledger.world.gateway.userOf seat.1 = some userId
    · by_cases same : seat.1 = socketId
      · exact .inl (.inl same)
      · exact .inr fun row here inCall => same (all seat.1 seat.2 row listed here own inCall)
    · exact .inl (.inr own)

/-- What the condition asks of a pairing. -/
theorem findable_join {socketId : SocketId} {preferredType : Option CallType} {callId : Uuid}
    {a b : TimedEntry} (sent : stimulus.event = .joinQueue socketId preferredType callId)
    (paired
      : ledger.world.gateway.pairing stimulus.now socketId preferredType = some (a, b))
    : findable ledger stimulus = true
      ↔ ∀ found,
          ledger.world.gateway.sockets.lookup a.socketId = some found →
            a.userId = none ∧ a.socketId ≠ b.socketId := by
  simp only [findable, sent, paired, Gateway.knows]
  cases ledger.world.gateway.sockets.lookup a.socketId with
  | none => simp
  | some found => simp

/-- An event keeps all sockets finding their rows exactly if it meets the condition. -/
theorem socketsFind_iff (known : LedgerKnown ledger) (find : SocketsFind ledger)
    (admitted : ledger.world.admits stimulus = true)
    : SocketsFind (ledger.after runtime stimulus) ↔ findable ledger stimulus = true := by
  cases sent : stimulus.event with
  | callInitiate socketId data id =>
      refine iff_of_true (initiate_keeps known find admitted sent) ?_
      simp [findable, sent]
  | callAccept socketId data =>
      by_cases accepts : ledger.world.gateway.accepts socketId data = true
      · obtain ⟨userId, id, user, _, cast, _⟩ := (gateway_accepts_iff _).mp accepts
        rw [accept_finds_iff known find admitted sent accepts user cast,
          findable_accept sent accepts user cast]
      · refine iff_of_true (plain_finds known find admitted ?_) ?_
        · simp [Ledger.entrants, sent, Gateway.enlists, accepts]
        · simp [findable, sent, accepts]
  | joinQueue socketId preferredType callId =>
      cases paired : ledger.world.gateway.pairing stimulus.now socketId preferredType with
      | none =>
          refine iff_of_true (plain_finds known find admitted ?_) ?_
          · simp [Ledger.entrants, sent, Gateway.enlists, paired]
          · simp [findable, sent, paired]
      | some pair =>
          obtain ⟨a, b⟩ := pair
          rw [join_finds_iff known find admitted sent paired, findable_join sent paired]
  | _ =>
      refine iff_of_true (plain_finds known find admitted ?_) ?_
      · simp [Ledger.entrants, sent, Gateway.enlists]
      · simp [findable, sent]

/-- In every run, every handler finds the row of its socket throughout exactly if every accept
is by a user who has no unleft row in the call and no other tab with a row of it, and every
pairing has an anonymous first member who is not paired with themselves. What a handler finds
is what it changes. -/
theorem participants_found {stimuli : List Stimulus}
    (run : (ledgerMachine runtime).Reaches stimuli ledger)
    : ((ledgerMachine runtime).Throughout Ledger.FindsOwn .start stimuli
        ↔ (ledgerMachine runtime).Along
            (fun before stimulus => findable before stimulus = true) .start stimuli)
      ∧ ∀ now event,
          event.inserts = false →
            ∃ change,
              RowChange now change
              ∧ (handle runtime now ledger.world.gateway event).gateway.db.callParticipants
                = selected (event.selection ledger.world.gateway) ledger.rows change := by
  refine ⟨?_, fun now event plain => handle_selects runtime now ledger.world.gateway event plain⟩
  have nobody : Ledger.FindsOwn .start := by
    rintro event selection _ ⟨_, _, seat, _⟩
    cases seat
  refine Machine.throughout_iff_along _ LedgerKnown ?_ ?_ LedgerKnown.start nobody run
  · intro before stimulus after known taken
    obtain ⟨admitted, rfl⟩ := ledger_step_eq_some.mp taken
    exact known.step admitted
  · intro before stimulus after known find taken
    obtain ⟨admitted, rfl⟩ := ledger_step_eq_some.mp taken
    have known' : LedgerKnown (before.after runtime stimulus) := known.step admitted
    rw [findsOwn_iff known'.timers,
      socketsFind_iff known ((findsOwn_iff known.timers).mp find) admitted]

end Steps

/-- The ledger after a run. -/
def ledgerAfter (stimuli : List Stimulus) : Ledger :=
  ((ledgerMachine plainRuntime).exec .start stimuli).getD .start

/-- A call is placed, accepted, and ended by its caller. -/
def callerEnds : List Stimulus :=
  ringing ++ [⟨2, .callAccept 12 ⟨.uuid 201, .video⟩⟩, ⟨3, .callEnd 11 (.uuid 201)⟩]

/-- All handlers find their rows in that run. -/
theorem participants_found_parties
    : (ledgerMachine plainRuntime).Throughout Ledger.FindsOwn .start callerEnds := by
  have run : (ledgerMachine plainRuntime).Reaches callerEnds (ledgerAfter callerEnds) := rfl
  exact (participants_found run).1.mpr (by decide)

/-- A registered user is paired with a visitor, as the first of the two. -/
def userPaired : List Stimulus := [
  ⟨0, .register 1 "caller@example.org"⟩,
  ⟨0, .connect 11 (some 1) 101⟩,
  ⟨0, .connect 12 none 102⟩,
  ⟨1000, .joinQueue 11 none 201⟩,
  ⟨2000, .joinQueue 12 none 202⟩
]

/-- The callee accepts a call in two tabs. -/
def twoTabsAccept : List Stimulus :=
  ringing
    ++ [
      ⟨1, .connect 13 (some 2) 103⟩,
      ⟨2, .callAccept 12 ⟨.uuid 201, .video⟩⟩,
      ⟨3, .callAccept 13 ⟨.uuid 201, .video⟩⟩
    ]

/-- The `call:end` of the registered user finds no row, although one has been inserted for
their socket; and that of the tab finds two. -/
theorem participants_missed
    : ((ledgerMachine plainRuntime).Reaches userPaired (ledgerAfter userPaired)
        ∧ (Event.callEnd 11 (.uuid 202)).selection (ledgerAfter userPaired).world.gateway
          = some ⟨11, 202, 1, none⟩
        ∧ (11, 0) ∈ (ledgerAfter userPaired).seats
        ∧ (ledgerAfter userPaired).rows.map CallParticipant.callSessionId = [202, 202]
        ∧ (ledgerAfter userPaired).rows.map (RowSelection.selects ⟨11, 202, 1, none⟩)
          = [false, false]
        ∧ ¬ (ledgerAfter userPaired).FindsOwn)
      ∧ (ledgerMachine plainRuntime).Reaches twoTabsAccept (ledgerAfter twoTabsAccept)
      ∧ (Event.callEnd 13 (.uuid 201)).selection (ledgerAfter twoTabsAccept).world.gateway
        = some ⟨13, 201, 2, none⟩
      ∧ (13, 2) ∈ (ledgerAfter twoTabsAccept).seats
      ∧ (ledgerAfter twoTabsAccept).rows.map (RowSelection.selects ⟨13, 201, 2, none⟩)
        = [false, true, true]
      ∧ ¬ (ledgerAfter twoTabsAccept).FindsOwn := by
  refine ⟨⟨rfl, by decide, by decide, by decide, by decide, fun finds => ?_⟩, rfl, by decide,
    by decide, by decide, fun finds => ?_⟩
  · have own := finds (.callEnd 11 (.uuid 202)) ⟨11, 202, 1, none⟩ (by decide)
      ⟨0, _, by decide, rfl, rfl⟩
    have unfound : RowSelection.selects ⟨11, 202, 1, none⟩ _ = true :=
      (own.own (show (ledgerAfter userPaired).rows[0]? = some _ from rfl)).mpr
        ⟨by decide, rfl, rfl⟩
    revert unfound
    decide
  · have own := finds (.callEnd 13 (.uuid 201)) ⟨13, 201, 2, none⟩ (by decide)
      ⟨2, _, by decide, rfl, rfl⟩
    have clash := own.one (show (ledgerAfter twoTabsAccept).rows[1]? = some _ from rfl)
      (show (ledgerAfter twoTabsAccept).rows[2]? = some _ from rfl) (by decide) (by decide)
    revert clash
    decide

end NexusComms.Signaling
