import NexusComms.Signaling.Participants

/-! What a pairing leaves behind: a row for the call, two for its participants, a room, two
metas and two messages. The pairing writes the host as anonymous whoever it is, and a message
for one socket reaches everybody in the room of that socket's id.
-/

namespace NexusComms.Signaling

open Concurrency Matchmaking CallsService

/-- The row names its user where the schema wants it: in `user_id`, which is "NULL for
anonymous", or in `anonymous_id`, which is the "ephemeral ID for non-registered users". -/
def CallParticipant.belongsTo (row : CallParticipant) (entry : TimedEntry) : Prop :=
  row.userId = entry.userId
  ∧ row.anonymousId = if entry.userId.isSome then none else some entry.anonymousId

/-- One of the two columns holds the id of the user. -/
def CallParticipant.mentions (row : CallParticipant) (entry : TimedEntry) : Prop :=
  (row.userId <|> row.anonymousId) = some (entry.userId.getD entry.anonymousId)

/-- The message `match:found` in an output that has reached a socket. -/
def Output.matchFor (socketId : SocketId) : Output → Option Message
  | .emit ⟨_, .matchFound callId callType isInitiator bothRegistered partner, receivers, _⟩ =>
      if socketId ∈ receivers then
        some (.matchFound callId callType isInitiator bothRegistered partner)
      else
        none
  | _ => none

/-- All the messages `match:found` that have reached a socket. -/
def matchesFor (socketId : SocketId) (outputs : List Output) : List Message :=
  outputs.filterMap (Output.matchFor socketId)

/-- The state, and what clients have been told, after `a` and `b` have been paired in a call.
`owns` is how a participant's row tells whose it is. -/
structure Paired (owns : CallParticipant → TimedEntry → Prop) (before after : Gateway)
    (outputs : List Output) (callId : Uuid) (a b : TimedEntry) (session : CallSession)
    : Prop where
  new : before.db.callSessions.lookup callId = none
  created : after.db.callSessions.lookup callId = some session
  only (id : Uuid) (other : id ≠ callId)
    : after.db.callSessions.lookup id = before.db.callSessions.lookup id
  active : session.status = .active
  answered : session.answeredAt.isSome = true
  participants
    : ∃ host guest,
        after.db.callParticipants.filter (fun row => row.callSessionId = callId)
          = [host, guest]
        ∧ host.role = .host ∧ owns host a
        ∧ guest.role = .guest ∧ owns guest b
  inRoom : ∀ socketId ∈ [a.socketId, b.socketId], (.uuid callId, socketId) ∈ after.rooms
  inMeta
    : ∀ socketId ∈ [a.socketId, b.socketId], after.seats.callOf socketId = some (.uuid callId)
  told
    : ∃ isInitiator,
        matchesFor a.socketId outputs
          = [
              .matchFound callId session.callType isInitiator
                (a.userId.isSome && b.userId.isSome) b.userId
            ]
        ∧ matchesFor b.socketId outputs
          = [
              .matchFound callId session.callType (!isInitiator)
                (a.userId.isSome && b.userId.isSome) a.userId
            ]

/-- Neither of two sockets is in the room that bears the id of the other. -/
def Gateway.apart (gateway : Gateway) (first second : SocketId) : Bool :=
  decide ((Text.socket first, second) ∉ gateway.rooms)
    && decide ((Text.socket second, first) ∉ gateway.rooms)

-----------------------------------------------------------------------------------------
-- Announcements
-----------------------------------------------------------------------------------------

/-- The output is a message `match:found`. -/
def Output.announces : Output → Bool
  | .emit ⟨_, .matchFound _ _ _ _ _, _, _⟩ => true
  | _ => false

/-- What takes notice of the messages `match:found` only. -/
def HearsMatches {α : Type} (listen : Output → Option α) : Prop :=
  ∀ output, output.announces = false → listen output = none

theorem matchFor_hears (socketId : SocketId) : HearsMatches (Output.matchFor socketId) := by
  intro output quiet
  unfold Output.matchFor
  split
  · cases quiet
  · rfl

section Announcements

variable {α : Type} {listen : Output → Option α} (hears : HearsMatches listen) (now : Time)
  (db : Database)
include hears

theorem log_heard (userId : Option Uuid) (event : AuditEvent)
    : (AuditService.log db userId event).filterMap listen = [] := by
  unfold AuditService.log
  split
  · exact List.filterMap_cons_none (hears _ rfl)
  · rfl

theorem updateStatus_heard (id : Uuid) (update : StatusUpdate)
    : (CallsRepository.updateStatus now db id update).2.filterMap listen = [] := by
  unfold CallsRepository.updateStatus
  split
  · rfl
  · exact List.filterMap_cons_none (hears _ rfl)

theorem initiateCall_heard (id : Uuid) (params : InitiateParams)
    : (initiateCall now db id params).outputs.filterMap listen = [] := by
  unfold CallsService.initiateCall
  split
  · rfl
  · split
    · rfl
    · exact log_heard hears _ _ _

theorem acceptCall_heard (params : AcceptParams)
    : (acceptCall now db params).outputs.filterMap listen = [] := by
  unfold CallsService.acceptCall
  split
  · rfl
  · split
    · rfl
    · dsimp only
      split
      · exact updateStatus_heard hears now db _ _
      · rw [List.filterMap_append, updateStatus_heard hears, log_heard hears]
        rfl

end Announcements

-----------------------------------------------------------------------------------------
-- Messages
-----------------------------------------------------------------------------------------

section Messages

variable (socketId : SocketId)

@[simp]
theorem matchesFor_nil : matchesFor socketId [] = [] := rfl

/-- A message for one socket reaches all who are in the room of its id. -/
theorem matchesFor_emit (gateway : Gateway) (other : SocketId) (callId : Uuid)
    (callType : CallType) (isInitiator bothRegistered : Bool) (partner : Option Uuid)
    (rest : List Output)
    : matchesFor socketId
        (gateway.emit (.room (.socket other))
            (.matchFound callId callType isInitiator bothRegistered partner)
          :: rest)
      = (if (Text.socket other, socketId) ∈ gateway.rooms then
          [.matchFound callId callType isInitiator bothRegistered partner]
        else
          [])
        ++ matchesFor socketId rest := by
  have reached
      : socketId ∈ gateway.receivers (.room (.socket other))
        ↔ (Text.socket other, socketId) ∈ gateway.rooms := by
    simp [Gateway.receivers, mem_members]
  by_cases here : (Text.socket other, socketId) ∈ gateway.rooms
  · simp [matchesFor, Gateway.emit, Output.matchFor, reached, here]
  · simp [matchesFor, Gateway.emit, Output.matchFor, reached, here]

end Messages

-----------------------------------------------------------------------------------------
-- One pairing
-----------------------------------------------------------------------------------------

section Pairs

variable (now : Time) (gateway : Gateway) {a b : TimedEntry} {callId : Uuid}

/-- The row of the new call, once it has been answered. -/
theorem pairUsers_session (absent : gateway.db.callSessions.lookup callId = none)
    (first : gateway.db.references a.userId = true)
    (second : gateway.db.references b.userId = true)
    : (SignalingGateway.pairUsers now gateway a b callId).gateway.db.callSessions.lookup callId
      = some ((initiatedRow now (firstParams a b)).write now .accepted) := by
  obtain ⟨initiated, inserted, session, accepted⟩ :=
    pairUsers_services now gateway absent first second
  rw [pairUsers_db, initiated]
  dsimp only
  have effect := acceptCall_effect now (initiateCall now gateway.db callId (firstParams a b)).db
    (secondParams a b callId) callId
  rw [named, if_pos rfl, inserted, AList.lookup_insert] at effect
  rcases effect.of_row with ⟨issued, _⟩ | ⟨update, issued, written, _⟩
  · cases issued
  · cases issued
    exact written

/-- What is heard of a pairing of users who exist under a new id: its two messages. -/
theorem pairUsers_heard {α : Type} {listen : Output → Option α} (hears : HearsMatches listen)
    (absent : gateway.db.callSessions.lookup callId = none)
    (first : gateway.db.references a.userId = true)
    (second : gateway.db.references b.userId = true)
    : let paired := (SignalingGateway.pairUsers now gateway a b callId).gateway
      (SignalingGateway.pairUsers now gateway a b callId).outputs.filterMap listen
        = [
            paired.emit (.room (.socket a.socketId))
              (.matchFound callId (pairType a b) true (a.userId.isSome && b.userId.isSome)
                b.userId),
            paired.emit (.room (.socket b.socketId))
              (.matchFound callId (pairType a b) false (a.userId.isSome && b.userId.isSome)
                a.userId)
          ].filterMap listen := by
  obtain ⟨initiated, _, session, accepted⟩ :=
    pairUsers_services now gateway absent first second
  have quiet := initiateCall_heard hears now gateway.db callId (firstParams a b)
  have quiet' := acceptCall_heard hears now
    (initiateCall now gateway.db callId (firstParams a b)).db (secondParams a b callId)
  simp only [firstParams, secondParams, pairType] at initiated accepted quiet quiet' ⊢
  simp only [SignalingGateway.pairUsers, initiated, accepted, List.filterMap_append, quiet,
    quiet', List.nil_append]

/-- What the pairing says to a socket: each of its two messages, if the socket is in the room
that the message addresses. -/
theorem pairUsers_matches (absent : gateway.db.callSessions.lookup callId = none)
    (first : gateway.db.references a.userId = true)
    (second : gateway.db.references b.userId = true) (socketId : SocketId)
    : matchesFor socketId (SignalingGateway.pairUsers now gateway a b callId).outputs
      = (if (Text.socket a.socketId, socketId) ∈ gateway.rooms then
          [
            .matchFound callId (pairType a b) true (a.userId.isSome && b.userId.isSome)
              b.userId
          ]
        else
          [])
        ++ if (Text.socket b.socketId, socketId) ∈ gateway.rooms then
            [
              .matchFound callId (pairType a b) false (a.userId.isSome && b.userId.isSome)
                a.userId
            ]
          else
            [] := by
  have seats := (pairUsers_paired now gateway absent first second).1
  have own (other : SocketId)
      : (Text.socket other, socketId)
          ∈ (SignalingGateway.pairUsers now gateway a b callId).gateway.rooms
        ↔ (Text.socket other, socketId) ∈ gateway.rooms := by
    rw [← seats_rooms, seats, Seats.setCallId, Seats.updateMeta_rooms, Seats.setCallId,
      Seats.updateMeta_rooms, Seats.mem_socketsJoin, Seats.mem_socketsJoin]
    simp
  rw [matchesFor, pairUsers_heard now gateway (matchFor_hears socketId) absent first second]
  change matchesFor socketId [_, _] = _
  simp only [matchesFor_emit, own, matchesFor_nil, List.append_nil]

/-- A join that finds a pair does what the pairing does, and what is heard of it is what is
heard of the pairing. -/
theorem joinQueue_pairs {socketId : SocketId} {preferredType : Option CallType}
    (callId : Uuid) (paired : gateway.pairing now socketId preferredType = some (a, b))
    : ∃ redis,
        (SignalingGateway.onJoinQueue now gateway socketId preferredType callId).gateway
          = (SignalingGateway.pairUsers now { gateway with redis := redis } a b callId).gateway
        ∧ ∀ {α : Type} {listen : Output → Option α},
            HearsMatches listen →
              (SignalingGateway.onJoinQueue now gateway socketId preferredType
                  callId).outputs.filterMap listen
                = (SignalingGateway.pairUsers now { gateway with redis := redis } a b
                    callId).outputs.filterMap listen := by
  obtain ⟨known, found, matched⟩ := Option.bind_eq_some_iff.mp paired
  simp only [SocketMeta.entry] at matched
  unfold SignalingGateway.onJoinQueue SignalingGateway.tryPairUsers
  simp only [found]
  generalize enqueuedEq : MatchmakingService.enqueue (dateNow now) gateway.redis _ = enqueued
  rw [enqueuedEq] at matched
  refine ⟨(MatchmakingService.tryMatch (dateNow now) enqueued.1).1, ?_⟩
  simp only [matched]
  generalize SignalingGateway.pairUsers now _ a b callId = outcome
  cases outcome.reply with
  | error failure => exact ⟨rfl, fun hears => List.filterMap_cons_none (hears _ rfl)⟩
  | ok _ =>
      refine ⟨rfl, fun hears => ?_⟩
      rw [List.cons_append, List.filterMap_cons_none (hears _ rfl), List.filterMap_append,
        List.filterMap_cons_none (hears _ rfl), List.filterMap_nil, List.append_nil]

/-- Nothing is heard of a join that finds no pair. -/
theorem joinQueue_unpaired {socketId : SocketId} {preferredType : Option CallType}
    {α : Type} {listen : Output → Option α} (callId : Uuid) (hears : HearsMatches listen)
    (unpaired : gateway.pairing now socketId preferredType = none)
    : (SignalingGateway.onJoinQueue now gateway socketId preferredType
        callId).outputs.filterMap listen
      = [] := by
  unfold SignalingGateway.onJoinQueue SignalingGateway.tryPairUsers
  cases found : gateway.sockets.lookup socketId with
  | none => rfl
  | some known =>
      simp only [Gateway.pairing, found, Option.bind_some, SocketMeta.entry] at unpaired
      simp only [unpaired, List.cons_append, List.nil_append]
      rw [List.filterMap_cons_none (hears _ rfl), List.filterMap_cons_none (hears _ rfl),
        List.filterMap_nil]

end Pairs

section Steps

variable {runtime : Runtime} {world : World} {now : Time} {socketId : SocketId}
  {preferredType : Option CallType} {callId : Uuid} {a b : TimedEntry}

/-- A step creates only the call whose id it draws, and a join issues no other UPDATE. -/
theorem joinQueue_others {id : Uuid} (other : id ≠ callId)
    : (world.after runtime ⟨now, .joinQueue socketId preferredType callId⟩).session id
      = world.session id := by
  cases existed : world.session id with
  | none =>
      by_contra present
      have creates := session_created existed (Option.isSome_iff_ne_none.mpr present)
      exact other (of_decide_eq_true creates).symm
  | some row =>
      rcases after_of_row runtime ⟨now, .joinQueue socketId preferredType callId⟩ existed with
        ⟨_, same, _⟩ | ⟨update, issued, _, _⟩
      · exact same
      · cases issued

/-- A join that finds a pair of connected sockets leaves everything consistent exactly if the
two rows tell whose they are, and each of the two messages reaches one of the two sockets. -/
theorem paired_iff {owns : CallParticipant → TimedEntry → Prop} (seated : Seated world)
    (entries : EntriesKnown world) (rows : RowsKnown world)
    (admitted
      : world.admits ⟨now, .joinQueue socketId preferredType callId⟩ = true)
    (paired : world.gateway.pairing now socketId preferredType = some (a, b))
    (connected
      : ∀ socketId ∈ [a.socketId, b.socketId], world.gateway.connected socketId = true)
    : (∃ session,
        Paired owns world.gateway
          (world.after runtime ⟨now, .joinQueue socketId preferredType callId⟩).gateway
          (handle runtime now world.gateway
            (.joinQueue socketId preferredType callId)).outputs
          callId a b session)
      ↔ (owns (hostRow now callId (firstParams a b)) a
          ∧ owns (guestRow now callId (secondParams a b callId)) b)
        ∧ world.gateway.apart a.socketId b.socketId = true := by
  have absent : world.session callId = none := by
    by_contra present
    have drawn := rows.sessions (Option.isSome_iff_ne_none.mpr present)
    exact ActorsKnown.fresh admitted (by simp [Event.draws]) drawn
  obtain ⟨first, second⟩ := pairing_known seated entries paired
  obtain ⟨redis, same, told⟩ := joinQueue_pairs now world.gateway callId paired
  have session := pairUsers_session now { world.gateway with redis := redis } absent first second
  have listed :=
    pairUsers_participants now { world.gateway with redis := redis } absent first second
  have seats :=
    (pairUsers_paired now { world.gateway with redis := redis } absent first second).1
  have said := fun other =>
    (told (matchFor_hears other)).trans
      (pairUsers_matches now { world.gateway with redis := redis } absent first second other)
  rw [← same] at session listed seats
  have unlisted
      : world.gateway.db.callParticipants.filter (fun row => row.callSessionId = callId)
        = [] := by
    refine List.filter_eq_nil_iff.mpr fun row here call => ?_
    have present := rows.calls here
    rw [of_decide_eq_true call, absent] at present
    cases present
  have enrolled
      : (world.after runtime ⟨now, .joinQueue socketId preferredType
            callId⟩).gateway.db.callParticipants.filter (fun row => row.callSessionId = callId)
        = [hostRow now callId (firstParams a b), guestRow now callId (secondParams a b callId)]
      := by
    change List.filter _ (SignalingGateway.onJoinQueue now world.gateway socketId preferredType
      callId).gateway.db.callParticipants = _
    rw [listed, List.filter_append, unlisted]
    simp [hostRow, guestRow]
  have own : (Text.socket a.socketId, a.socketId) ∈ world.gateway.rooms :=
    Gateway.connected_iff.mp (connected _ (by simp))
  have own' : (Text.socket b.socketId, b.socketId) ∈ world.gateway.rooms :=
    Gateway.connected_iff.mp (connected _ (by simp))
  simp only [Gateway.apart, Bool.and_eq_true, decide_eq_true_eq]
  constructor
  · rintro ⟨_, after⟩
    obtain ⟨host, guest, both, _, ownsHost, _, ownsGuest⟩ := after.participants
    obtain ⟨_, toldFirst, toldSecond⟩ := after.told
    rw [enrolled] at both
    cases both
    refine ⟨⟨ownsHost, ownsGuest⟩, fun inside => ?_, fun inside => ?_⟩
    · have twice := (said b.socketId).symm.trans toldSecond
      rw [if_pos inside, if_pos own'] at twice
      cases congrArg List.length twice
    · have twice := (said a.socketId).symm.trans toldFirst
      rw [if_pos own, if_pos inside] at twice
      cases congrArg List.length twice
  · rintro ⟨⟨ownsHost, ownsGuest⟩, outside, outside'⟩
    refine ⟨(initiatedRow now (firstParams a b)).write now .accepted, ?_⟩
    have known : ∀ member ∈ [a.socketId, b.socketId],
        ∃ found, world.gateway.seats.sockets.lookup member = some found := fun member pair =>
      Option.isSome_iff_exists.mp
        ((seated.tidy.known member).mp (Gateway.connected_iff.mp (connected member pair)))
    constructor
    case new => exact absent
    case created => exact session
    case only => exact fun id other => joinQueue_others other
    case active => rfl
    case answered => rfl
    case participants => exact ⟨_, _, enrolled, rfl, ownsHost, rfl, ownsGuest⟩
    case inRoom =>
      intro member pair
      change (Text.uuid callId, member)
        ∈ (SignalingGateway.onJoinQueue now world.gateway socketId preferredType
            callId).gateway.seats.rooms
      rw [seats, Seats.setCallId, Seats.updateMeta_rooms, Seats.setCallId,
        Seats.updateMeta_rooms, Seats.mem_socketsJoin, Seats.mem_socketsJoin]
      rcases List.mem_pair.mp pair with rfl | rfl
      · exact .inl (.inr ⟨rfl, own⟩)
      · exact .inr ⟨rfl, (Seats.mem_socketsJoin _).mpr (.inl own')⟩
    case inMeta =>
      intro member pair
      obtain ⟨found, there⟩ := known member pair
      change (SignalingGateway.onJoinQueue now world.gateway socketId preferredType
        callId).gateway.seats.callOf member = _
      rw [seats, Seats.paired_callOf, if_pos (List.mem_pair.mp pair)]
      change (world.gateway.seats.sockets.lookup member).bind _ = _
      rw [there]
      rfl
    case told =>
      refine ⟨true, ?_, ?_⟩
      · refine (said a.socketId).trans ?_
        rw [if_pos own, if_neg outside']
        rfl
      · refine (said b.socketId).trans ?_
        rw [if_neg outside, if_pos own']
        rfl

end Steps

/-- The host's row, which is written as anonymous, belongs to an anonymous host only. -/
theorem host_belongsTo {now : Time} {callId : Uuid} {a b : TimedEntry}
    : (hostRow now callId (firstParams a b)).belongsTo a ↔ a.userId = none := by
  cases registered : a.userId with
  | none => simp [CallParticipant.belongsTo, hostRow, firstParams, registered]
  | some userId => simp [CallParticipant.belongsTo, hostRow, firstParams, registered]

theorem guest_belongsTo (now : Time) (callId : Uuid) (a b : TimedEntry)
    : (guestRow now callId (secondParams a b callId)).belongsTo b := by
  cases registered : b.userId with
  | none => simp [CallParticipant.belongsTo, guestRow, secondParams, registered]
  | some userId => simp [CallParticipant.belongsTo, guestRow, secondParams, registered]

theorem host_mentions (now : Time) (callId : Uuid) (a b : TimedEntry)
    : (hostRow now callId (firstParams a b)).mentions a := by
  cases registered : a.userId with
  | none => simp [CallParticipant.mentions, hostRow, firstParams, registered]
  | some userId => simp [CallParticipant.mentions, hostRow, firstParams, registered]

theorem guest_mentions (now : Time) (callId : Uuid) (a b : TimedEntry)
    : (guestRow now callId (secondParams a b callId)).mentions b := by
  cases registered : b.userId with
  | none => simp [CallParticipant.mentions, guestRow, secondParams, registered]
  | some userId => simp [CallParticipant.mentions, guestRow, secondParams, registered]

/-- In every run, a pairing of two connected sockets leaves everything consistent exactly if
the host is anonymous and neither socket is in the other's own room. If a row may tell whose it
is in either column, it does so exactly if neither is in the other's room. Both hold of two
entries of one socket too, which is in its own room. -/
theorem pairing_consistent {runtime : Runtime} {actions : List Stimulus} {world next : World}
    {now : Time} {socketId : SocketId} {preferredType : Option CallType} {callId : Uuid}
    {a b : TimedEntry} (run : (gatewayMachine runtime).Reaches actions world)
    (stepped
      : (gatewayMachine runtime).step world ⟨now, .joinQueue socketId preferredType callId⟩
        = some next)
    (paired : world.gateway.pairing now socketId preferredType = some (a, b))
    (connected
      : ∀ socketId ∈ [a.socketId, b.socketId], world.gateway.connected socketId = true)
    : let outputs :=
        (handle runtime now world.gateway (.joinQueue socketId preferredType callId)).outputs
      ((∃ session,
          Paired CallParticipant.belongsTo world.gateway next.gateway outputs callId a b session)
        ↔ a.userId = none ∧ world.gateway.apart a.socketId b.socketId = true)
      ∧ ((∃ session,
            Paired CallParticipant.mentions world.gateway next.gateway outputs callId a b
              session)
          ↔ world.gateway.apart a.socketId b.socketId = true) := by
  obtain ⟨seated, entries, rows⟩ := known_of_reaches run
  obtain ⟨admitted, rfl⟩ := step_eq_some.mp stepped
  constructor
  · rw [paired_iff seated entries rows admitted paired connected, host_belongsTo]
    exact and_congr_left' (and_iff_left (guest_belongsTo now callId a b))
  · rw [paired_iff seated entries rows admitted paired connected]
    exact and_iff_right ⟨host_mentions now callId a b, guest_mentions now callId a b⟩

/-- An anonymous visitor waits in the queue, and another one is connected. -/
def visitorWaits : List Stimulus := [
  ⟨0, .connect 11 none 101⟩,
  ⟨0, .connect 12 none 102⟩,
  ⟨1000, .joinQueue 11 none 201⟩
]

/-- The two are paired, and everything is consistent. -/
theorem pairing_consistent_visitors
    : ∃ session,
        Paired CallParticipant.belongsTo (worldAfter visitorWaits).gateway
          (worldAfter (visitorWaits ++ [⟨2000, .joinQueue 12 none 202⟩])).gateway
          (handle plainRuntime 2000 (worldAfter visitorWaits).gateway
            (.joinQueue 12 none 202)).outputs
          202 ⟨⟨101, none, 11, .video, true⟩, 1⟩ ⟨⟨102, none, 12, .video, true⟩, 2⟩ session := by
  have run : (gatewayMachine plainRuntime).Reaches visitorWaits (worldAfter visitorWaits) := rfl
  exact (pairing_consistent run rfl (by decide) (by decide)).1.mpr ⟨rfl, by decide⟩

/-- A registered user waits in the queue, and a visitor is connected. -/
def userWaits : List Stimulus := [
  ⟨0, .register 1 "caller@example.org"⟩,
  ⟨0, .connect 11 (some 1) 101⟩,
  ⟨0, .connect 12 none 102⟩,
  ⟨1000, .joinQueue 11 none 201⟩
]

/-- A visitor who waits in the queue has joined the room of the other's id with `sfu:join`. -/
def visitorEavesdrops : List Stimulus := visitorWaits ++ [⟨1500, .sfuJoin 11 (.socket 12)⟩]

/-- The row of the registered host is not theirs, and the visitor who is in the other's room is
told of the match twice. -/
theorem pairings_inconsistent
    : ((gatewayMachine plainRuntime).Reaches userWaits (worldAfter userWaits)
        ∧ (worldAfter userWaits).gateway.pairing 2000 12 none
          = some (⟨⟨101, some 1, 11, .video, false⟩, 1⟩, ⟨⟨102, none, 12, .video, true⟩, 2⟩)
        ∧ (∀ socketId ∈ [11, 12], (worldAfter userWaits).gateway.connected socketId = true)
        ∧ ¬ ∃ session,
            Paired CallParticipant.belongsTo (worldAfter userWaits).gateway
              (worldAfter (userWaits ++ [⟨2000, .joinQueue 12 none 202⟩])).gateway
              (handle plainRuntime 2000 (worldAfter userWaits).gateway
                (.joinQueue 12 none 202)).outputs
              202 ⟨⟨101, some 1, 11, .video, false⟩, 1⟩ ⟨⟨102, none, 12, .video, true⟩, 2⟩
              session)
      ∧ (gatewayMachine plainRuntime).Reaches visitorEavesdrops (worldAfter visitorEavesdrops)
      ∧ (worldAfter visitorEavesdrops).gateway.pairing 2000 12 none
        = some (⟨⟨101, none, 11, .video, true⟩, 1⟩, ⟨⟨102, none, 12, .video, true⟩, 2⟩)
      ∧ (∀ socketId ∈ [11, 12],
          (worldAfter visitorEavesdrops).gateway.connected socketId = true)
      ∧ ¬ ∃ session,
          Paired CallParticipant.mentions (worldAfter visitorEavesdrops).gateway
            (worldAfter (visitorEavesdrops ++ [⟨2000, .joinQueue 12 none 202⟩])).gateway
            (handle plainRuntime 2000 (worldAfter visitorEavesdrops).gateway
              (.joinQueue 12 none 202)).outputs
            202 ⟨⟨101, none, 11, .video, true⟩, 1⟩ ⟨⟨102, none, 12, .video, true⟩, 2⟩
            session := by
  refine ⟨⟨rfl, by decide, by decide, ?_⟩, rfl, by decide, by decide, ?_⟩
  · rintro ⟨session, paired⟩
    obtain ⟨host, guest, both, _, ⟨owner, _⟩, _⟩ := paired.participants
    have stored
        : (List.filter (fun row => row.callSessionId = 202)
            (worldAfter (userWaits
              ++ [⟨2000, .joinQueue 12 none 202⟩])).gateway.db.callParticipants)[0]?.map
            CallParticipant.userId
          = some none := by
      decide
    rw [both] at stored
    cases (Option.some.inj stored).symm.trans owner
  · rintro ⟨session, paired⟩
    obtain ⟨isInitiator, first, _⟩ := paired.told
    have twice
        : (matchesFor 11
            (handle plainRuntime 2000 (worldAfter visitorEavesdrops).gateway
              (.joinQueue 12 none 202)).outputs).length
          = 2 := by
      decide
    cases twice.symm.trans (congrArg List.length first)

end NexusComms.Signaling
