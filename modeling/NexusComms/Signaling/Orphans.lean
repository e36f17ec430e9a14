import NexusComms.Signaling.Creation
import NexusComms.Signaling.Entries
import NexusComms.Storage.Holding

/-! Whether an active call still has somebody who will close it. A socket remembers one call,
which `call:initiate`, `call:accept`, a pairing and `call:end` overwrite without asking for the
one that it remembers, so a call can lose its last party without being closed.
-/

namespace NexusComms.Signaling

open Concurrency CallsRepository Matchmaking Storage

namespace World

def active (world : World) (callId : Uuid) : Bool :=
  (world.session callId).map CallSession.status = some .active

/-- The socket is connected, and its meta names the call. -/
def remembers (world : World) (socketId : SocketId) (callId : Uuid) : Bool :=
  world.gateway.connected socketId
    && decide ((world.gateway.seats.callOf socketId).bind Text.cast = some callId)

/-- The calls and those who remember them. -/
def holding (world : World) : Holding SocketId Uuid where
  holds socketId callId := world.remembers socketId callId = true
  live callId := world.active callId = true

end World

theorem remembers_iff {world : World} {socketId : SocketId} {callId : Uuid}
    : world.remembers socketId callId = true
      ↔ world.gateway.seats.connected socketId
        ∧ (world.gateway.seats.callOf socketId).bind Text.cast = some callId := by
  simp only [World.remembers, Bool.and_eq_true, decide_eq_true_eq, Gateway.connected_iff]
  rfl

/-- Every active call is remembered by a connected socket. -/
def OrphanFree (world : World) : Prop :=
  ∀ callId, world.active callId = true → ∃ socketId, world.remembers socketId callId = true

namespace Gateway

/-- A `call:initiate` of this socket succeeds. -/
def initiates (runtime : Runtime) (gateway : Gateway) (socketId : SocketId)
    (data : InitiateData) (callId : Uuid)
    : Bool :=
  (SignalingGateway.resolveTarget runtime gateway.db data).toOption.isSome
    && (gateway.sockets.lookup socketId).any
        (fun known => gateway.db.references (some known.identity))
    && (gateway.db.callSessions.lookup callId).isNone

/-- A `call:accept` of this socket succeeds. -/
def accepts (gateway : Gateway) (socketId : SocketId) (data : AcceptData) : Bool :=
  gateway.mayAccept socketId data.callId && (gateway.db.sessionNamed data.callId).isSome

/-- The pair that a join of this socket finds in the queue. -/
def pairing (now : Time) (gateway : Gateway) (socketId : SocketId)
    (preferredType : Option CallType)
    : Option (TimedEntry × TimedEntry) :=
  (gateway.sockets.lookup socketId).bind
    (fun known =>
      (MatchmakingService.tryMatch (dateNow now)
        (MatchmakingService.enqueue (dateNow now) gateway.redis
          (known.entry socketId preferredType)).1).2)

/-- What the handler of an event changes about calls and those who remember them. -/
def shift (runtime : Runtime) (now : Time) (gateway : Gateway)
    : Event → Shift SocketId Uuid
  | .callInitiate socketId data callId =>
      if gateway.initiates runtime socketId data callId then
        { movers := [socketId], next := some callId }
      else
        {}
  | .callAccept socketId data =>
      if gateway.accepts socketId data then
        { movers := [socketId], next := data.callId.cast, opened := data.callId.cast }
      else
        {}
  | .callReject socketId callId =>
      if (gateway.userOf socketId).isSome then { closed := callId.cast } else {}
  | .callEnd socketId callId =>
      if gateway.knows socketId && callId.cast.isSome then
        { movers := [socketId], closed := callId.cast }
      else
        {}
  | .disconnect socketId =>
      { movers := [socketId], closed := (gateway.callOf socketId).bind Text.cast }
  | .missedCall callId => if gateway.misses callId then { closed := some callId } else {}
  | .switchType socketId data =>
      if gateway.knows socketId && (gateway.db.sessionNamed data.callId).isSome then
        { opened := data.callId.cast }
      else
        {}
  | .joinQueue socketId preferredType callId =>
      match gateway.pairing now socketId preferredType with
      | none => {}
      | some (a, b) =>
          if (gateway.db.callSessions.lookup callId).isNone then
            {
              movers := [a.socketId, b.socketId]
              next := some callId
              opened := some callId
            }
          else
            {}
  | _ => {}

end Gateway

namespace World

/-- After the change, a connected socket remembers the call. -/
def finds (world : World) (shift : Shift SocketId Uuid) (callId : Uuid) : Bool :=
  (decide (shift.next = some callId) && shift.movers.any world.gateway.connected)
    || world.opened.any
        (fun socketId =>
          decide (socketId ∉ shift.movers) && world.remembers socketId callId)

end World

/-- Nobody turns away from an active call that stays open and that nobody else remembers, and
a call that becomes active is remembered. -/
def keepsParties (runtime : Runtime) (world : World) (stimulus : Stimulus) : Bool :=
  let shift := world.gateway.shift runtime stimulus.now stimulus.event
  shift.movers.all
      (fun socketId =>
        ((world.gateway.seats.callOf socketId).bind Text.cast).all
          (fun callId =>
            !world.gateway.connected socketId || !world.active callId
              || decide (shift.closed = some callId) || world.finds shift callId))
    && shift.opened.all (world.finds shift)

section Conditions

variable {world : World}

/-- The condition decides whether a change finds a call. -/
theorem finds_iff (seated : Seated world) (shift : Shift SocketId Uuid) (callId : Uuid)
    : world.finds shift callId = true
      ↔ shift.Finds (fun socketId => world.gateway.connected socketId = true) world.holding
          callId := by
  simp only [World.finds, Shift.Finds, Bool.or_eq_true, Bool.and_eq_true,
    decide_eq_true_eq, List.any_eq_true, World.holding]
  constructor
  · rintro (next | ⟨socketId, _, other, remembers⟩)
    · exact .inl next
    · exact .inr ⟨socketId, other, remembers⟩
  · rintro (next | ⟨socketId, other, remembers⟩)
    · exact .inl next
    · refine .inr ⟨socketId, seated.opened ?_, other, remembers⟩
      exact (remembers_iff.mp remembers).1

/-- The condition decides whether a change keeps all active calls. -/
theorem keepsParties_iff {runtime : Runtime} {stimulus : Stimulus} (seated : Seated world)
    : keepsParties runtime world stimulus = true
      ↔ (world.gateway.shift runtime stimulus.now stimulus.event).Keeps
          (fun socketId => world.gateway.connected socketId = true) world.holding := by
  generalize shifted : world.gateway.shift runtime stimulus.now stimulus.event = shift
  simp only [keepsParties, shifted, Bool.and_eq_true, List.all_eq_true, Option.all_eq_true,
    Bool.or_eq_true, Bool.not_eq_true', decide_eq_true_eq, finds_iff seated]
  constructor
  · rintro ⟨left, opened⟩
    refine ⟨fun {socketId callId} mover held live stays => ?_, fun opens => opened _ opens⟩
    simp only [World.holding, World.remembers, Bool.and_eq_true, decide_eq_true_eq]
      at held live
    rcases left socketId mover callId held.2 with ((absent | inactive) | closed) | finds
    · cases absent.symm.trans held.1
    · cases inactive.symm.trans live
    · exact absurd closed stays
    · exact finds
  · intro keeps
    refine ⟨fun socketId mover callId call => ?_, fun callId opens => keeps.opened opens⟩
    cases connected : world.gateway.connected socketId with
    | false => exact .inl (.inl (.inl rfl))
    | true =>
        cases live : world.active callId with
        | false => exact .inl (.inl (.inr rfl))
        | true =>
            by_cases closed : shift.closed = some callId
            · exact .inl (.inr closed)
            · refine .inr (keeps.left mover ?_ live closed)
              simp [World.holding, World.remembers, connected, call]

end Conditions

namespace Seats

section CallOf

variable {seats : Seats} {socketId other : SocketId}

theorem setCallId_callOf (callId : Option Text)
    : (seats.setCallId socketId callId).callOf other
      = if other = socketId then (seats.sockets.lookup other).bind (fun _ => callId)
        else seats.callOf other := by
  unfold callOf setCallId
  rw [lookup_updateMeta]
  split
  · cases seats.sockets.lookup other with
    | none => rfl
    | some known => rfl
  · rfl

@[simp]
theorem join_callOf (room : Text)
    : (seats.join room socketId).callOf other = seats.callOf other :=
  rfl

@[simp]
theorem leave_callOf (room : Text)
    : (seats.leave room socketId).callOf other = seats.callOf other :=
  rfl

@[simp]
theorem socketsJoin_callOf (source room : Text)
    : (seats.socketsJoin source room).callOf other = seats.callOf other := by
  unfold callOf
  rw [socketsJoin_sockets]

/-- Two sockets that are given a call remember it, if they are known. -/
theorem paired_callOf {a b : SocketId} (source source' room : Text) (callId : Option Text)
    : ((((seats.socketsJoin source room).socketsJoin source' room).setCallId a
          callId).setCallId b callId).callOf other
      = if other = a ∨ other = b then (seats.sockets.lookup other).bind (fun _ => callId)
        else seats.callOf other := by
  rw [setCallId_callOf]
  by_cases second : other = b
  · rw [if_pos second, if_pos (.inr second), setCallId, lookup_updateMeta,
      socketsJoin_sockets, socketsJoin_sockets]
    split
    · cases seats.sockets.lookup other with
      | none => rfl
      | some known => rfl
    · rfl
  · rw [if_neg second, setCallId_callOf, socketsJoin_sockets, socketsJoin_sockets,
      socketsJoin_callOf, socketsJoin_callOf]
    simp [second]

@[simp]
theorem openRoom_callOf (roomId : Text)
    : (seats.openRoom roomId).callOf other = seats.callOf other := by
  unfold callOf
  rw [openRoom_sockets]

@[simp]
theorem setRoomId_callOf (roomId : Text)
    : (seats.setRoomId socketId roomId).callOf other = seats.callOf other := by
  unfold callOf setRoomId
  rw [lookup_updateMeta]
  split
  · cases seats.sockets.lookup other with
    | none => rfl
    | some known => rfl
  · rfl

theorem forget_callOf (known : SocketMeta) (apart : other ≠ socketId)
    : (seats.forget socketId known).callOf other = seats.callOf other := by
  unfold callOf
  rw [forget_sockets, AList.lookup_erase_ne apart]

end CallOf

end Seats

section Handlers

variable {gateway : Gateway} {now : Time} {socketId : SocketId}

/-- What a `call:initiate` does to the seats. -/
theorem initiate_seats (runtime : Runtime) (data : InitiateData) (callId : Uuid)
    : (SignalingGateway.onCallInitiate runtime now gateway socketId data callId).gateway.seats
      = if gateway.initiates runtime socketId data callId then
          (gateway.seats.setCallId socketId (some (.uuid callId))).join (.uuid callId) socketId
        else
          gateway.seats := by
  unfold SignalingGateway.onCallInitiate Gateway.initiates
  cases found : gateway.sockets.lookup socketId with
  | none => simp [Outcome.refused]
  | some known =>
      cases resolved : SignalingGateway.resolveTarget runtime gateway.db data with
      | error failure => simp [Outcome.refused, Except.toOption]
      | ok target =>
          dsimp only
          generalize paramsEq
            : ({
                initiatorId := some known.identity
                anonymousId := known.anonymous
                callType := data.callType
                isAnonymous := known.userId.isNone
              } : CallsService.InitiateParams) = params
          have initiator : params.initiatorId = some known.identity := by rw [← paramsEq]
          have succeeds
              : (CallsService.initiateCall now gateway.db callId params).result = .ok ()
                ↔ ((Except.ok target : Except Failure Text).toOption.isSome
                    && (some known).any
                        (fun known => gateway.db.references (some known.identity))
                    && (gateway.db.callSessions.lookup callId).isNone)
                  = true := by
            rw [initiateCall_ok_iff, initiator]
            simp [Except.toOption, and_comm]
          cases result : (CallsService.initiateCall now gateway.db callId params).result with
          | error failure =>
              rw [if_neg (by rw [← succeeds, result]; simp)]
              rfl
          | ok _ =>
              rw [if_pos (succeeds.mp result)]
              change (Gateway.join (Gateway.setCallId _ _ _) _ _).seats = _
              rw [join_seats, setCallId_seats, seats_stores]

/-- A `call:accept` that its checks let through succeeds for a user and a call that exist. -/
theorem accept_succeeds (now : Time) {data : AcceptData}
    (known
      : ∀ userId,
          gateway.userOf socketId = some userId → gateway.db.references (some userId) = true)
    (accepts : gateway.accepts socketId data = true)
    : ∃ reply, (SignalingGateway.onCallAccept now gateway socketId data).reply = .ok reply := by
  simp only [Gateway.accepts, Gateway.mayAccept, Bool.and_eq_true] at accepts
  obtain ⟨may, exists_call⟩ := accepts
  obtain ⟨userId, user, unbarred⟩ := (Option.any_eq_true _ _).mp may
  obtain ⟨meta', found, registered⟩ := Option.bind_eq_some_iff.mp user
  obtain ⟨row, named⟩ := Option.isSome_iff_exists.mp exists_call
  obtain ⟨id, cast, lookup⟩ := Option.bind_eq_some_iff.mp named
  obtain ⟨session, succeeded⟩
      : ∃ session,
          (CallsService.acceptCall now gateway.db
            { callId := data.callId, userId := userId, callType := data.callType }).result
          = .ok session :=
    acceptCall_succeeds now cast (by rw [lookup]; rfl) (known userId user)
  unfold SignalingGateway.onCallAccept
  simp only [found, registered, succeeded]
  rw [if_neg (by simpa using unbarred)]
  exact ⟨_, rfl⟩

/-- What a `call:accept` of a user who exists does to the seats. -/
theorem accept_seats (data : AcceptData)
    (known
      : ∀ userId,
          gateway.userOf socketId = some userId → gateway.db.references (some userId) = true)
    : (SignalingGateway.onCallAccept now gateway socketId data).gateway.seats
      = if gateway.accepts socketId data then
          (gateway.seats.setCallId socketId (some data.callId)).join data.callId socketId
        else
          gateway.seats := by
  have turn := accept_turn now gateway socketId data
  generalize done : SignalingGateway.onCallAccept now gateway socketId data = outcome at turn ⊢
  cases turn with
  | quiet _ idle same =>
      have refused : ¬ gateway.accepts socketId data = true := by
        intro accepts
        obtain ⟨reply, replied⟩ := accept_succeeds now known accepts
        rcases idle with idle | ⟨failure, failed⟩
        · cases idle
        · rw [← done] at failed
          cases failed.symm.trans replied
      rw [if_neg refused, same]
  | accepted _ _ replied seats =>
      rw [← done] at replied
      obtain ⟨userId, id, accepted⟩ := accept_ok replied
      have accepts : gateway.accepts socketId data = true := by
        simp [Gateway.accepts, Gateway.mayAccept, Database.sessionNamed, accepted.user,
          accepted.unbarred, accepted.cast, accepted.found]
      rw [if_pos accepts, seats]

/-- What a `call:end` does to the seats. -/
theorem end_seats (callId : Text)
    : (SignalingGateway.onCallEnd now gateway socketId callId).gateway.seats
      = if gateway.knows socketId && callId.cast.isSome then
          (gateway.seats.leave callId socketId).setCallId socketId none
        else
          gateway.seats := by
  unfold SignalingGateway.onCallEnd
  cases found : gateway.sockets.lookup socketId with
  | none => simp [Outcome.refused, Gateway.knows, found]
  | some known =>
      cases cast : callId.cast with
      | none => simp [CallsService.endCall, cast]
      | some id => simp [CallsService.endCall, cast, Gateway.knows, found]

/-- A pairing of users who exist under a new id succeeds, and its call is active. -/
theorem pairUsers_paired (now : Time) (gateway : Gateway) {a b : TimedEntry} {callId : Uuid}
    (absent : gateway.db.callSessions.lookup callId = none)
    (first : gateway.db.references a.userId = true)
    (second : gateway.db.references b.userId = true)
    : (SignalingGateway.pairUsers now gateway a b callId).gateway.seats
        = (((gateway.seats.socketsJoin (.socket a.socketId) (.uuid callId)).socketsJoin
              (.socket b.socketId) (.uuid callId)).setCallId a.socketId
            (some (.uuid callId))).setCallId b.socketId (some (.uuid callId))
      ∧ ((SignalingGateway.pairUsers now gateway a b callId).gateway.db.callSessions.lookup
          callId).map CallSession.status
        = some .active := by
  unfold SignalingGateway.pairUsers
  dsimp only
  generalize (if a.preferredType = b.preferredType then a.preferredType else .video) = callType
  generalize initiateEq
    : ({
        initiatorId := a.userId
        anonymousId := if a.userId.isSome then none else some a.anonymousId
        callType := callType
        isAnonymous := true
      } : CallsService.InitiateParams) = initiateParams
  generalize acceptEq
    : ({
        callId := .uuid callId
        userId := b.userId.getD b.anonymousId
        anonymousId := if b.userId.isSome then none else some b.anonymousId
        isAnonymous := b.userId.isNone
        callType := callType
      } : CallsService.AcceptParams) = acceptParams
  have initiated
      : (CallsService.initiateCall now gateway.db callId initiateParams).result = .ok () := by
    rw [initiateCall_ok_iff, ← initiateEq]
    exact ⟨absent, first⟩
  have inserted
      : (CallsService.initiateCall now gateway.db callId initiateParams).db.callSessions
        = gateway.db.callSessions.insert callId
            (CallsService.initiatedRow now initiateParams) := by
    rcases initiateCall_cases now gateway.db callId initiateParams with
      ⟨_, failure, failed⟩ | ⟨_, inserted⟩
    · cases failed.symm.trans initiated
    · exact inserted
  have cast : acceptParams.callId.cast = some callId := by
    rw [← acceptEq]
    rfl
  have guest
      : (CallsService.initiateCall now gateway.db callId initiateParams).db.references
          (if acceptParams.isAnonymous then none else some acceptParams.userId)
        = true := by
    rw [references_of_users (initiateCall_users now gateway.db callId initiateParams),
      ← acceptEq]
    cases user : b.userId with
    | none => rfl
    | some userId =>
        rw [user] at second
        exact second
  obtain ⟨session, accepted⟩ :=
    acceptCall_succeeds now cast (by rw [inserted, AList.lookup_insert]; rfl) guest
  have effect := acceptCall_effect now
    (CallsService.initiateCall now gateway.db callId initiateParams).db acceptParams callId
  rw [cast, if_pos rfl, inserted, AList.lookup_insert] at effect
  simp only [initiated, accepted]
  constructor
  · simp
  · rcases effect.of_row with ⟨issued, _⟩ | ⟨update, issued, written, _⟩
    · cases issued
    · cases issued
      simp [written, CallSession.write, StatusUpdate.accepted]

/-- A pairing under an id that is in use fails. -/
theorem pairUsers_taken {a b : TimedEntry} {callId : Uuid}
    (taken : (gateway.db.callSessions.lookup callId).isSome)
    : (SignalingGateway.pairUsers now gateway a b callId).gateway = gateway := by
  obtain ⟨row, found⟩ := Option.isSome_iff_exists.mp taken
  simp [SignalingGateway.pairUsers, CallsService.initiateCall, createSession, found]

/-- A join changes nothing but the queue, or it pairs those whom it finds there. -/
theorem joinQueue_cases (now : Time) (gateway : Gateway) (socketId : SocketId)
    (preferredType : Option CallType) (callId : Uuid)
    : (gateway.pairing now socketId preferredType = none
        ∧ ∃ redis,
            (SignalingGateway.onJoinQueue now gateway socketId preferredType callId).gateway
              = { gateway with redis := redis })
      ∨ ∃ a b redis,
          gateway.pairing now socketId preferredType = some (a, b)
          ∧ (SignalingGateway.onJoinQueue now gateway socketId preferredType callId).gateway
            = (SignalingGateway.pairUsers now { gateway with redis := redis } a b
                callId).gateway := by
  unfold SignalingGateway.onJoinQueue Gateway.pairing
  cases found : gateway.sockets.lookup socketId with
  | none => exact .inl ⟨rfl, gateway.redis, rfl⟩
  | some known =>
      simp only [Option.bind_some, SocketMeta.entry]
      generalize (MatchmakingService.enqueue (dateNow now) gateway.redis _).1 = waiting
      have paired
          : ((MatchmakingService.tryMatch (dateNow now) waiting).2 = none
              ∧ ∃ redis,
                  (SignalingGateway.tryPairUsers now { gateway with redis := waiting }
                      callId).gateway
                    = { gateway with redis := redis })
            ∨ ∃ a b redis,
                (MatchmakingService.tryMatch (dateNow now) waiting).2 = some (a, b)
                ∧ (SignalingGateway.tryPairUsers now { gateway with redis := waiting }
                      callId).gateway
                  = (SignalingGateway.pairUsers now { gateway with redis := redis } a b
                      callId).gateway := by
        unfold SignalingGateway.tryPairUsers
        cases matched : (MatchmakingService.tryMatch (dateNow now) waiting).2 with
        | none =>
            refine .inl ⟨rfl, (MatchmakingService.tryMatch (dateNow now) waiting).1, ?_⟩
            simp only [matched]
        | some pair =>
            refine .inr
              ⟨pair.1, pair.2, (MatchmakingService.tryMatch (dateNow now) waiting).1, rfl, ?_⟩
            simp only [matched]
      split
      · exact paired
      · exact paired

end Handlers

section Steps

variable {runtime : Runtime} {world : World} {stimulus : Stimulus}

/-- An existing call becomes active by an UPDATE that makes it active, and stays what it is
without an UPDATE. -/
theorem active_of_row {callId : Uuid} (existed : (world.session callId).isSome)
    : (world.after runtime stimulus).active callId
      = match stimulus.event.updateOf world.gateway callId with
        | none => world.active callId
        | some update => decide (update.status = .active) := by
  obtain ⟨row, found⟩ := Option.isSome_iff_exists.mp existed
  unfold World.active
  rcases after_of_row runtime stimulus found with
    ⟨issued, same, _⟩ | ⟨update, issued, same, _⟩
  · rw [issued, same, found]
  · rw [issued, same]
    simp [CallSession.write]

/-- A call that is neither there nor created is not active. -/
theorem inactive_of_none {callId : Uuid} (absent : world.session callId = none)
    (other : stimulus.event.creates callId = false)
    : (world.after runtime stimulus).active callId = false := by
  cases found : (world.after runtime stimulus).session callId with
  | none => simp [World.active, found]
  | some row =>
      have creates := session_created absent (by rw [found]; rfl)
      cases other.symm.trans creates

/-- A text names the row of the id that it casts to. -/
theorem sessionNamed_of_cast {text : Text} {callId : Uuid} (cast : text.cast = some callId)
    : world.gateway.db.sessionNamed text = world.session callId := by
  simp [Database.sessionNamed, World.session, cast]

/-- What an event that creates no call makes of the active calls. -/
theorem live_of_update {shift : Shift SocketId Uuid} {callId : Uuid}
    (other : stimulus.event.creates callId = false)
    (opened : shift.opened = some callId → (world.session callId).isSome)
    (update
      : match stimulus.event.updateOf world.gateway callId with
        | none =>
            shift.opened ≠ some callId
            ∧ (world.active callId = true → shift.closed ≠ some callId)
        | some update =>
            if update.status = .active then
              (world.session callId).isSome → shift.opened = some callId
            else
              shift.opened ≠ some callId ∧ shift.closed = some callId)
    : (world.after runtime stimulus).active callId = true
      ↔ shift.opened = some callId
        ∨ world.active callId = true ∧ shift.closed ≠ some callId := by
  cases existed : world.session callId with
  | none =>
      have inactive : world.active callId = false := by simp [World.active, existed]
      rw [inactive_of_none existed other, inactive]
      constructor
      · intro active
        cases active
      · rintro (opens | ⟨active, _⟩)
        · have present := opened opens
          rw [existed] at present
          cases present
        · cases active
  | some row =>
      have present : (world.session callId).isSome := by
        rw [existed]
        rfl
      rw [active_of_row present]
      cases issued : stimulus.event.updateOf world.gateway callId with
      | none =>
          rw [issued] at update
          constructor
          · exact fun active => .inr ⟨active, update.2 active⟩
          · rintro (opens | ⟨active, _⟩)
            · exact absurd opens update.1
            · exact active
      | some written =>
          rw [issued] at update
          dsimp only at update ⊢
          split at update
          · next active => simp [active, update present]
          · next closes => simp [closes, update.1, update.2]

/-- Without a connect or a disconnect the same sockets are connected. -/
theorem connected_stays (seated : Seated world) (admitted : world.admits stimulus = true)
    (stays : stimulus.event.moves = false) {socketId : SocketId}
    : (world.after runtime stimulus).gateway.seats.connected socketId
      ↔ world.gateway.seats.connected socketId := by
  rw [seated.connected_iff admitted]
  constructor
  · rintro (⟨_, _, sent⟩ | ⟨here, _⟩)
    · rw [sent] at stays
      cases stays
    · exact here
  · refine fun here => .inr ⟨here, fun sent => ?_⟩
    rw [sent] at stays
    cases stays

/-- A change of the memories of connected sockets, who stay connected. -/
theorem applies_of_callOf {shift : Shift SocketId Uuid} (seated : Seated world)
    (admitted : world.admits stimulus = true) (stays : stimulus.event.moves = false)
    (moved
      : ∀ socketId ∈ shift.movers,
          world.gateway.seats.connected socketId →
            ((world.after runtime stimulus).gateway.seats.callOf socketId).bind Text.cast
              = shift.next)
    (stayed
      : ∀ socketId,
          socketId ∉ shift.movers →
            (world.after runtime stimulus).gateway.seats.callOf socketId
              = world.gateway.seats.callOf socketId)
    (live
      : ∀ callId,
          (world.after runtime stimulus).active callId = true
          ↔ shift.opened = some callId
            ∨ world.active callId = true ∧ shift.closed ≠ some callId)
    : shift.Applies (fun socketId => world.gateway.connected socketId = true) world.holding
        (world.after runtime stimulus).holding where
  moved {socketId} mover callId := by
    simp only [World.holding, remembers_iff, connected_stays seated admitted stays,
      Gateway.connected_iff]
    refine and_congr_right (fun connected => ?_)
    rw [moved socketId mover connected]
  stayed {socketId} other callId := by
    simp only [World.holding, remembers_iff, connected_stays seated admitted stays,
      stayed socketId other]
  live := live

/-- A connected socket remembers the call that it is given. -/
theorem setCallId_self (seated : Seated world) {socketId : SocketId}
    (connected : world.gateway.seats.connected socketId) (callId : Option Text)
    : (world.gateway.seats.setCallId socketId callId).callOf socketId = callId := by
  obtain ⟨known, found⟩ := Option.isSome_iff_exists.mp ((seated.tidy.known socketId).mp connected)
  rw [Seats.setCallId_callOf, if_pos rfl, found]
  rfl

/-- The events whose handlers can change what a socket remembers. -/
def Event.rewrites : Event → Bool
  | .connect _ _ _ | .disconnect _ | .callInitiate _ _ _ | .callAccept _ _ | .callEnd _ _
  | .joinQueue _ _ _ => true
  | _ => false

/-- The other handlers leave the memories alone. -/
theorem Turn.callOf_same {gateway : Gateway} {event : Event} {outcome : Outcome}
    (turn : Turn gateway event outcome) (plain : event.rewrites = false)
    (socketId : SocketId)
    : outcome.gateway.seats.callOf socketId = gateway.seats.callOf socketId := by
  cases turn with
  | quiet _ _ same => rw [same]
  | connected _ => cases plain
  | dropped _ _ => cases plain
  | gone _ _ => cases plain
  | initiated _ _ _ => cases plain
  | accepted _ _ _ _ => cases plain
  | ended _ _ _ _ => cases plain
  | paired _ _ _ _ => cases plain
  | seated _ _ seats => simp [seats]
  | opened _ _ seats =>
      rw [seats]
      rfl

/-- A handler that leaves the memories alone, and what its UPDATE does. -/
theorem applies_plain {shift : Shift SocketId Uuid} (seated : Seated world)
    (admitted : world.admits stimulus = true) (plain : stimulus.event.rewrites = false)
    (still : shift.movers = [])
    (live
      : ∀ callId,
          (world.after runtime stimulus).active callId = true
          ↔ shift.opened = some callId
            ∨ world.active callId = true ∧ shift.closed ≠ some callId)
    : shift.Applies (fun socketId => world.gateway.connected socketId = true) world.holding
        (world.after runtime stimulus).holding := by
  have stays : stimulus.event.moves = false := by
    revert plain
    cases stimulus.event <;> simp [Event.rewrites, Event.moves]
  refine applies_of_callOf seated admitted stays ?_ ?_ live
  · intro socketId mover
    rw [still] at mover
    cases mover
  · intro socketId _
    exact (handle_turn runtime stimulus.now world.gateway stimulus.event).callOf_same plain
      socketId

/-- `call:reject` closes its call. -/
theorem reject_applies {now : Time} {socketId : SocketId} {text : Text}
    (seated : Seated world)
    (admitted : world.admits ⟨now, .callReject socketId text⟩ = true)
    : (world.gateway.shift runtime now (.callReject socketId text)).Applies
        (fun socketId => world.gateway.connected socketId = true) world.holding
        (world.after runtime ⟨now, .callReject socketId text⟩).holding := by
  simp only [Gateway.shift]
  by_cases registered : (world.gateway.userOf socketId).isSome
  · rw [if_pos registered]
    refine applies_plain seated admitted rfl rfl (fun callId => live_of_update rfl ?_ ?_)
    · intro opens
      cases opens
    · simp only [Event.updateOf, Event.rowUpdate, registered, if_true, Option.bind_some]
      by_cases here : text.cast = some callId
      · simp [here, CloseReason.update, CloseReason.status]
      · simp [here]
  · rw [if_neg registered]
    refine applies_plain seated admitted rfl rfl (fun callId => live_of_update rfl ?_ ?_)
    · intro opens
      cases opens
    · simp [Event.updateOf, Event.rowUpdate, registered]

/-- The timer closes a call that rings. -/
theorem missedCall_applies {now : Time} {id : Uuid} (seated : Seated world)
    (admitted : world.admits ⟨now, .missedCall id⟩ = true)
    : (world.gateway.shift runtime now (.missedCall id)).Applies
        (fun socketId => world.gateway.connected socketId = true) world.holding
        (world.after runtime ⟨now, .missedCall id⟩).holding := by
  simp only [Gateway.shift]
  by_cases misses : world.gateway.misses id = true
  · rw [if_pos misses]
    refine applies_plain seated admitted rfl rfl (fun callId => live_of_update rfl ?_ ?_)
    · intro opens
      cases opens
    · simp only [Event.updateOf, Event.rowUpdate, misses, if_true, Option.bind_some,
        Text.cast_uuid]
      by_cases here : id = callId
      · simp [here, CloseReason.update, CloseReason.status]
      · simp [here]
  · rw [if_neg misses]
    refine applies_plain seated admitted rfl rfl (fun callId => live_of_update rfl ?_ ?_)
    · intro opens
      cases opens
    · simp [Event.updateOf, Event.rowUpdate, misses]

/-- `call:switch-type` makes its call active. -/
theorem switchType_applies {now : Time} {socketId : SocketId} {data : SwitchData}
    (seated : Seated world)
    (admitted : world.admits ⟨now, .switchType socketId data⟩ = true)
    : (world.gateway.shift runtime now (.switchType socketId data)).Applies
        (fun socketId => world.gateway.connected socketId = true) world.holding
        (world.after runtime ⟨now, .switchType socketId data⟩).holding := by
  simp only [Gateway.shift]
  split
  · next found =>
      obtain ⟨knows, exists_call⟩ := Bool.and_eq_true_iff.mp found
      refine applies_plain seated admitted rfl rfl (fun callId => live_of_update rfl ?_ ?_)
      · exact fun opens => (sessionNamed_of_cast opens) ▸ exists_call
      · simp only [Event.updateOf, Event.rowUpdate, knows, if_true, Option.bind_some]
        by_cases here : data.callId.cast = some callId
        · simp [here, StatusUpdate.switched]
        · simp [here]
  · next missing =>
      refine applies_plain seated admitted rfl rfl (fun callId => live_of_update rfl ?_ ?_)
      · intro opens
        cases opens
      · by_cases knows : world.gateway.knows socketId = true
        · simp only [Event.updateOf, Event.rowUpdate, knows, if_true, Option.bind_some]
          by_cases here : data.callId.cast = some callId
          · have absent : ¬ (world.session callId).isSome := by
              intro present
              rw [← sessionNamed_of_cast here] at present
              simp [knows, present] at missing
            simp [here, StatusUpdate.switched, absent]
          · simp [here]
        · simp [Event.updateOf, Event.rowUpdate, knows]

/-- `call:accept` makes its call active, and its sender remembers it. -/
theorem accept_applies {now : Time} {socketId : SocketId} {data : AcceptData}
    (seated : Seated world)
    (admitted : world.admits ⟨now, .callAccept socketId data⟩ = true)
    : (world.gateway.shift runtime now (.callAccept socketId data)).Applies
        (fun socketId => world.gateway.connected socketId = true) world.holding
        (world.after runtime ⟨now, .callAccept socketId data⟩).holding := by
  have sits
      : (world.after runtime ⟨now, .callAccept socketId data⟩).gateway.seats
        = if world.gateway.accepts socketId data then
            (world.gateway.seats.setCallId socketId (some data.callId)).join data.callId socketId
          else
            world.gateway.seats :=
    accept_seats data (fun _ user => seated.registered user)
  simp only [Gateway.shift]
  split
  · next accepts =>
      rw [if_pos accepts] at sits
      obtain ⟨may, exists_call⟩ := Bool.and_eq_true_iff.mp accepts
      refine applies_of_callOf seated admitted rfl ?_ ?_ (fun callId => live_of_update rfl ?_ ?_)
      · intro other mover connected
        obtain rfl := List.mem_singleton.mp mover
        rw [sits, Seats.join_callOf, setCallId_self seated connected]
        rfl
      · intro other apart
        rw [sits, Seats.join_callOf, Seats.setCallId_callOf,
          if_neg (fun same => apart (List.mem_singleton.mpr same))]
      · exact fun opens => (sessionNamed_of_cast opens) ▸ exists_call
      · simp only [Event.updateOf, Event.rowUpdate, may, if_true, Option.bind_some]
        by_cases here : data.callId.cast = some callId
        · simp [here, StatusUpdate.accepted]
        · simp [here]
  · next refused =>
      rw [if_neg refused] at sits
      refine applies_of_callOf seated admitted rfl ?_ ?_ (fun callId => live_of_update rfl ?_ ?_)
      · intro other mover
        cases mover
      · intro other _
        rw [sits]
      · intro opens
        cases opens
      · by_cases may : world.gateway.mayAccept socketId data.callId = true
        · simp only [Event.updateOf, Event.rowUpdate, may, if_true, Option.bind_some]
          by_cases here : data.callId.cast = some callId
          · have absent : ¬ (world.session callId).isSome := by
              intro present
              rw [← sessionNamed_of_cast here] at present
              simp [Gateway.accepts, may, present] at refused
            simp [here, StatusUpdate.accepted, absent]
          · simp [here]
        · simp [Event.updateOf, Event.rowUpdate, may]

/-- `call:end` closes its call, and its sender remembers none. -/
theorem end_applies {now : Time} {socketId : SocketId} {text : Text}
    (seated : Seated world)
    (admitted : world.admits ⟨now, .callEnd socketId text⟩ = true)
    : (world.gateway.shift runtime now (.callEnd socketId text)).Applies
        (fun socketId => world.gateway.connected socketId = true) world.holding
        (world.after runtime ⟨now, .callEnd socketId text⟩).holding := by
  have sits
      : (world.after runtime ⟨now, .callEnd socketId text⟩).gateway.seats
        = if world.gateway.knows socketId && text.cast.isSome then
            (world.gateway.seats.leave text socketId).setCallId socketId none
          else
            world.gateway.seats :=
    end_seats text
  simp only [Gateway.shift]
  split
  · next succeeds =>
      rw [if_pos succeeds] at sits
      obtain ⟨knows, named⟩ := Bool.and_eq_true_iff.mp succeeds
      refine applies_of_callOf seated admitted rfl ?_ ?_ (fun callId => live_of_update rfl ?_ ?_)
      · intro other mover connected
        obtain rfl := List.mem_singleton.mp mover
        rw [sits, Seats.setCallId_callOf, if_pos rfl]
        cases (world.gateway.seats.leave text other).sockets.lookup other with
        | none => rfl
        | some known => rfl
      · intro other apart
        rw [sits, Seats.setCallId_callOf,
          if_neg (fun same => apart (List.mem_singleton.mpr same)), Seats.leave_callOf]
      · intro opens
        cases opens
      · simp only [Event.updateOf, Event.rowUpdate, knows, if_true, Option.bind_some]
        by_cases here : text.cast = some callId
        · simp [here, CloseReason.update, CloseReason.status]
        · simp [here]
  · next refused =>
      rw [if_neg refused] at sits
      refine applies_of_callOf seated admitted rfl ?_ ?_ (fun callId => live_of_update rfl ?_ ?_)
      · intro other mover
        cases mover
      · intro other _
        rw [sits]
      · intro opens
        cases opens
      · by_cases knows : world.gateway.knows socketId = true
        · have unnamed : text.cast = none := by simpa [knows] using refused
          simp [Event.updateOf, Event.rowUpdate, knows, unnamed]
        · simp [Event.updateOf, Event.rowUpdate, knows]

/-- `call:initiate` makes no call active: the new one rings. -/
theorem initiate_active {now : Time} {socketId : SocketId} {data : InitiateData} {id : Uuid}
    (callId : Uuid)
    : (world.after runtime ⟨now, .callInitiate socketId data id⟩).active callId
      = world.active callId := by
  cases existed : world.session callId with
  | some row =>
      have present : (world.session callId).isSome := by
        rw [existed]
        rfl
      exact active_of_row present
  | none =>
      have inactive : world.active callId = false := by simp [World.active, existed]
      have effect := initiate_effect now world.gateway socketId callId runtime data id
      have quiet : updatesOf callId
          (SignalingGateway.onCallInitiate runtime now world.gateway socketId data id).outputs
          = [] := by
        unfold SignalingGateway.onCallInitiate
        split
        · rfl
        · split
          · rfl
          · dsimp only
            split
            · exact initiateCall_quiet _ _ _ _ _
            · simpa using initiateCall_quiet now world.gateway.db id _ callId
      rw [show world.gateway.db.callSessions.lookup callId = none from existed, quiet] at effect
      rw [inactive]
      rcases effect.of_none with ⟨absent, _⟩ | ⟨params, ⟨created, _⟩ | ⟨_, answered⟩⟩
      · simp only [World.active, World.session, World.after, handle, absent]
        rfl
      · simp only [World.active, World.session, World.after, handle, created]
        rfl
      · cases answered

/-- `call:initiate` makes its sender remember the new call. -/
theorem initiate_applies {now : Time} {socketId : SocketId} {data : InitiateData} {id : Uuid}
    (seated : Seated world)
    (admitted : world.admits ⟨now, .callInitiate socketId data id⟩ = true)
    : (world.gateway.shift runtime now (.callInitiate socketId data id)).Applies
        (fun socketId => world.gateway.connected socketId = true) world.holding
        (world.after runtime ⟨now, .callInitiate socketId data id⟩).holding := by
  have sits
      : (world.after runtime ⟨now, .callInitiate socketId data id⟩).gateway.seats
        = if world.gateway.initiates runtime socketId data id then
            (world.gateway.seats.setCallId socketId (some (.uuid id))).join (.uuid id) socketId
          else
            world.gateway.seats :=
    initiate_seats runtime data id
  simp only [Gateway.shift]
  split
  · next succeeds =>
      rw [if_pos succeeds] at sits
      refine applies_of_callOf seated admitted rfl ?_ ?_ (fun callId => ?_)
      · intro other mover connected
        obtain rfl := List.mem_singleton.mp mover
        rw [sits, Seats.join_callOf, setCallId_self seated connected]
        rfl
      · intro other apart
        rw [sits, Seats.join_callOf, Seats.setCallId_callOf,
          if_neg (fun same => apart (List.mem_singleton.mpr same))]
      · rw [initiate_active]
        simp
  · next refused =>
      rw [if_neg refused] at sits
      refine applies_of_callOf seated admitted rfl ?_ ?_ (fun callId => ?_)
      · intro other mover
        cases mover
      · intro other _
        rw [sits]
      · rw [initiate_active]
        simp

/-- Everybody who is paired is anonymous or exists. -/
theorem pairing_known (seated : Seated world) (entries : EntriesKnown world) {now : Time}
    {socketId : SocketId} {preferredType : Option CallType} {a b : TimedEntry}
    (paired : world.gateway.pairing now socketId preferredType = some (a, b))
    : world.gateway.db.references a.userId = true
      ∧ world.gateway.db.references b.userId = true := by
  obtain ⟨known, found, matched⟩ := Option.bind_eq_some_iff.mp paired
  have own : world.gateway.db.references known.userId = true := by
    cases user : known.userId with
    | none => rfl
    | some userId =>
        exact seated.registered (Option.bind_eq_some_iff.mpr ⟨known, found, user⟩)
  exact (tryMatch_all (dateNow now) (enqueue_all (dateNow now) entries own)).2 a b matched

/-- A join makes the two whom it pairs remember the new call. -/
theorem joinQueue_applies {now : Time} {socketId : SocketId}
    {preferredType : Option CallType} {id : Uuid} (seated : Seated world)
    (entries : EntriesKnown world)
    (admitted : world.admits ⟨now, .joinQueue socketId preferredType id⟩ = true)
    : (world.gateway.shift runtime now (.joinQueue socketId preferredType id)).Applies
        (fun socketId => world.gateway.connected socketId = true) world.holding
        (world.after runtime ⟨now, .joinQueue socketId preferredType id⟩).holding := by
  have nothing {redis : QueueStore}
      (same
        : (SignalingGateway.onJoinQueue now world.gateway socketId preferredType id).gateway
          = { world.gateway with redis := redis })
      : ({} : Shift SocketId Uuid).Applies
          (fun socketId => world.gateway.connected socketId = true) world.holding
          (world.after runtime ⟨now, .joinQueue socketId preferredType id⟩).holding := by
    refine applies_of_callOf seated admitted rfl ?_ ?_ (fun callId => ?_)
    · intro other mover
      cases mover
    · intro other _
      simp only [World.after, handle, same]
      rfl
    · simp [World.active, World.session, World.after, handle, same]
  simp only [Gateway.shift]
  rcases joinQueue_cases now world.gateway socketId preferredType id with
    ⟨unpaired, redis, same⟩ | ⟨a, b, redis, paired, same⟩
  · simp only [unpaired]
    exact nothing same
  · simp only [paired]
    split
    · next new =>
        obtain ⟨first, second⟩ := pairing_known seated entries paired
        have absent : world.session id = none := Option.isNone_iff_eq_none.mp new
        obtain ⟨seats, active⟩ := pairUsers_paired now
          { world.gateway with redis := redis } absent first second
        rw [← same] at seats active
        refine applies_of_callOf seated admitted rfl ?_ ?_ (fun callId => ?_)
        · intro other mover connected
          have pair : other = a.socketId ∨ other = b.socketId := by simpa using mover
          obtain ⟨known, found⟩ :=
            Option.isSome_iff_exists.mp ((seated.tidy.known other).mp connected)
          simp only [World.after, handle, seats, Seats.paired_callOf, if_pos pair]
          change ((world.gateway.seats.sockets.lookup other).bind _).bind Text.cast = _
          rw [found]
          rfl
        · intro other apart
          have outside : ¬ (other = a.socketId ∨ other = b.socketId) := by simpa using apart
          simp only [World.after, handle, seats, Seats.paired_callOf, if_neg outside]
          rfl
        · by_cases here : id = callId
          · subst here
            simp [World.active, World.session, World.after, handle, active]
          · refine live_of_update (by simp [Event.creates, here]) ?_ ?_
            · exact fun opens => absurd (Option.some.inj opens) here
            · refine ⟨fun opens => here (Option.some.inj opens), fun _ closes => ?_⟩
              cases closes
    · next taken =>
        have present
            : (({ world.gateway with redis := redis } : Gateway).db.callSessions.lookup
                id).isSome := by
          simpa [Option.isSome_iff_ne_none] using taken
        exact nothing (same.trans (pairUsers_taken present))

/-- A new socket remembers nothing. -/
theorem connect_applies {now : Time} {socketId : SocketId} {userId : Option Uuid}
    {anonymousId : Uuid} (seated : Seated world)
    (admitted : world.admits ⟨now, .connect socketId userId anonymousId⟩ = true)
    : (world.gateway.shift runtime now (.connect socketId userId anonymousId)).Applies
        (fun socketId => world.gateway.connected socketId = true) world.holding
        (world.after runtime ⟨now, .connect socketId userId anonymousId⟩).holding where
  moved mover _ := by cases mover
  stayed {other} _ callId := by
    have new := (connect_admitted admitted rfl).1
    have before {x : SocketId}
        : (world.after runtime ⟨now, .connect socketId userId anonymousId⟩).gateway.seats.connected
            x
          ↔ x = socketId ∨ world.gateway.seats.connected x := by
      rw [seated.connected_iff admitted]
      simp [eq_comm]
    simp only [World.holding, remembers_iff, before]
    by_cases here : other = socketId
    · subst here
      have absent : ¬ world.gateway.seats.connected other :=
        fun connected => new (seated.opened connected)
      simp [absent, World.after, handle, SignalingGateway.handleConnection, Seats.callOf]
    · simp [here, World.after, handle, SignalingGateway.handleConnection, Seats.callOf,
        AList.lookup_insert_ne here]
  live callId := by
    refine live_of_update rfl ?_ ?_
    · intro opens
      cases opens
    · refine ⟨fun opens => ?_, fun _ closes => ?_⟩
      · cases opens
      · cases closes

/-- A disconnect closes the call that its socket remembers. -/
theorem disconnect_applies {now : Time} {socketId : SocketId} (seated : Seated world)
    (admitted : world.admits ⟨now, .disconnect socketId⟩ = true)
    : (world.gateway.shift runtime now (.disconnect socketId)).Applies
        (fun socketId => world.gateway.connected socketId = true) world.holding
        (world.after runtime ⟨now, .disconnect socketId⟩).holding where
  moved {other} mover callId := by
    obtain rfl := List.mem_singleton.mp mover
    simp only [World.holding, remembers_iff, Gateway.shift, reduceCtorEq, and_false, iff_false,
      not_and]
    intro connected
    rcases (seated.connected_iff admitted).mp connected with ⟨_, _, sent⟩ | ⟨_, apart⟩
    · cases sent
    · exact absurd rfl apart
  stayed {other} outside callId := by
    have apart : other ≠ socketId := fun same => outside (List.mem_singleton.mpr same)
    obtain ⟨known, _, seats⟩ := seated.disconnected runtime admitted rfl
    have stays
        : (world.after runtime ⟨now, .disconnect socketId⟩).gateway.seats.connected other
          ↔ world.gateway.seats.connected other := by
      rw [seated.connected_iff admitted]
      simp [Ne.symm apart]
    simp only [World.holding, remembers_iff, stays]
    rw [seats, Seats.forget_callOf known apart]
    rfl
  live callId := by
    refine live_of_update rfl ?_ ?_
    · intro opens
      cases opens
    · simp only [Event.updateOf, Event.rowUpdate, Gateway.shift]
      cases remembered : world.gateway.callOf socketId with
      | none => simp
      | some text =>
          by_cases here : text.cast = some callId
          · simp [here, CloseReason.update, CloseReason.status]
          · simp [here]

/-- Each event changes the calls and the memories as its shift says. -/
theorem shift_applies (seated : Seated world) (entries : EntriesKnown world)
    (admitted : world.admits stimulus = true)
    : (world.gateway.shift runtime stimulus.now stimulus.event).Applies
        (fun socketId => world.gateway.connected socketId = true) world.holding
        (world.after runtime stimulus).holding := by
  obtain ⟨now, event⟩ := stimulus
  cases event with
  | callReject socketId callId => exact reject_applies seated admitted
  | switchType socketId data => exact switchType_applies seated admitted
  | missedCall callId => exact missedCall_applies seated admitted
  | callInitiate socketId data callId => exact initiate_applies seated admitted
  | callAccept socketId data => exact accept_applies seated admitted
  | callEnd socketId callId => exact end_applies seated admitted
  | joinQueue socketId preferredType callId =>
      exact joinQueue_applies seated entries admitted
  | connect socketId userId anonymousId => exact connect_applies seated admitted
  | disconnect socketId => exact disconnect_applies seated admitted
  | _ =>
      refine applies_plain seated admitted rfl rfl (fun callId => live_of_update rfl ?_ ?_)
      · intro opens
        cases opens
      · refine ⟨fun opens => ?_, fun _ closes => ?_⟩
        · cases opens
        · cases closes

/-- A step that starts without orphans leaves none exactly if it keeps the parties. -/
theorem orphanFree_iff (seated : Seated world) (entries : EntriesKnown world)
    (orphanFree : OrphanFree world) (admitted : world.admits stimulus = true)
    : OrphanFree (world.after runtime stimulus)
      ↔ keepsParties runtime world stimulus = true := by
  rw [keepsParties_iff seated]
  exact (shift_applies seated entries admitted).covered_iff orphanFree

end Steps

/-- In every run, no active call is ever orphaned exactly if every step keeps the parties. -/
theorem no_orphans {runtime : Runtime} {actions : List Stimulus} {world : World}
    (run : (gatewayMachine runtime).Reaches actions world)
    : (gatewayMachine runtime).Throughout OrphanFree .start actions
      ↔ (gatewayMachine runtime).Along
          (fun before stimulus => keepsParties runtime before stimulus = true) .start
          actions := by
  have nothing : OrphanFree .start := by
    intro callId active
    simp [World.active, World.session, World.start, Gateway.empty] at active
  refine Machine.throughout_iff_along _ (fun world => Seated world ∧ EntriesKnown world)
    ?_ ?_ ⟨seated_start, QueueStore.All.empty⟩ nothing run
  · rintro before stimulus after ⟨seated, entries⟩ taken
    obtain ⟨admitted, rfl⟩ := step_eq_some.mp taken
    exact ⟨seated.step admitted, entries.step seated⟩
  · rintro before stimulus after ⟨seated, entries⟩ orphanFree taken
    obtain ⟨admitted, rfl⟩ := step_eq_some.mp taken
    exact orphanFree_iff seated entries orphanFree admitted

/-- A call that is accepted and ended by its caller. -/
def acceptedAndEnded : List Stimulus := ringing ++ [
  ⟨2, .callAccept 12 ⟨.uuid 201, .video⟩⟩,
  ⟨3, .callEnd 11 (.uuid 201)⟩
]

/-- It is never orphaned. -/
theorem no_orphans_ended
    : (gatewayMachine plainRuntime).Throughout OrphanFree .start acceptedAndEnded := by
  have run
      : (gatewayMachine plainRuntime).Reaches acceptedAndEnded (worldAfter acceptedAndEnded) :=
    rfl
  exact (no_orphans run).mpr (by decide)

/-- The two parties of an accepted call each call somebody else. -/
def bothCallAgain : List Stimulus := ringing ++ [
  ⟨2, .callAccept 12 ⟨.uuid 201, .video⟩⟩,
  ⟨3, .callInitiate 11 ⟨some "callee@example.org", none, .voice⟩ 202⟩,
  ⟨4, .callInitiate 12 ⟨some "caller@example.org", none, .voice⟩ 203⟩
]

/-- Nobody remembers the first call, which stays active. -/
theorem both_turn_away
    : (gatewayMachine plainRuntime).Reaches bothCallAgain (worldAfter bothCallAgain)
      ∧ (worldAfter bothCallAgain).active 201 = true
      ∧ ¬ OrphanFree (worldAfter bothCallAgain) := by
  have run : (gatewayMachine plainRuntime).Reaches bothCallAgain (worldAfter bothCallAgain) :=
    rfl
  refine ⟨run, by decide, fun orphanFree => ?_⟩
  obtain ⟨socketId, remembers⟩ := orphanFree 201 (by decide)
  have opened := (Seated.of_reaches run).opened (remembers_iff.mp remembers).1
  have nobody
      : ∀ other ∈ (worldAfter bothCallAgain).opened,
          (worldAfter bothCallAgain).remembers other 201 = false := by
    decide
  cases remembers.symm.trans (nobody socketId opened)

end NexusComms.Signaling
