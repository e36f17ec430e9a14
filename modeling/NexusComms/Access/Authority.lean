import NexusComms.Access.Guarantees

/-! Who may do what, and for how long. Whoever acts as a user on a socket, or revokes a session
of theirs through a guarded route, has a token that the store has signed for this user; and the
tokens of a session that has ended run out.
-/

namespace NexusComms.Signaling

open Concurrency

/-- Whoever has acted as a user had connected as this user. -/
def World.Introduced (world : World) : Prop :=
  ∀ occurrence ∈ world.trace, ∀ userId,
    occurrence.user = some userId →
      ∃ connection ∈ world.connections,
        occurrence.event.sender = some connection.socketId ∧ connection.userId = some userId

/-- In every run of the gateway. -/
theorem reaches_introduced {runtime : Runtime} {stimuli : List Stimulus} {world : World}
    (run : (gatewayMachine runtime).Reaches stimuli world)
    : Originates world ∧ world.Introduced := by
  refine Machine.Reaches.invariant (fun world => Originates world ∧ world.Introduced)
    ⟨.start, fun _ member => by cases member⟩ ?_ run
  intro before stimulus after ⟨origins, introduced⟩ taken
  obtain ⟨admitted, rfl⟩ := step_eq_some.mp taken
  refine ⟨origins.step admitted, fun occurrence member userId user => ?_⟩
  rw [Originates.connections_after]
  rcases List.mem_append.mp member with earlier | new
  · obtain ⟨connection, made, sent, same⟩ := introduced occurrence earlier userId user
    exact ⟨connection, List.mem_append_left _ made, sent, same⟩
  · cases List.mem_singleton.mp new
    obtain ⟨socketId, sent, known⟩ := Option.bind_eq_some_iff.mp user
    obtain ⟨socket, found, same⟩ := Option.bind_eq_some_iff.mp known
    exact ⟨socket.connection socketId, List.mem_append_left _ (origins.metas found), sent,
      same⟩

end NexusComms.Signaling

namespace NexusComms.Access

open Concurrency Sessions Signaling

namespace Platform

/-- What is behind a user on a socket or at a route: a token that the store has signed for a
session of theirs, and the login of theirs that has opened this session. -/
structure Backed {Token : Type} (jwt : JwtService Token) (sha256 : RawToken → Digest)
    (platform : Platform) (userId : Uuid) (payload : JwtPayload) (shownAt : Time)
    : Prop where
  user : payload.sub = userId
  vouched : platform.Vouched jwt payload shownAt
  signed : Signed platform.sessions payload
  owned : OwnedBy platform.sessions.shared userId payload.sid
  opened
    : ∃ log ledger,
        Accounts sha256 log ledger platform.sessions
        ∧ OpenedBy log platform.sessions userId payload.sid

theorem Sound.backed {Token : Type} {jwt : JwtService Token} {sha256 : RawToken → Digest}
    {runtime : Runtime} {platform : Platform} {payload : JwtPayload} {shownAt : Time}
    (sound : Sound jwt sha256 runtime platform) (vouched : platform.Vouched jwt payload shownAt)
    : platform.Backed jwt sha256 payload.sub payload shownAt :=
  ⟨rfl, vouched, sound.signed vouched, (sound.opened vouched).1, (sound.opened vouched).2⟩

section

variable {Token : Type} [DecidableEq Token] {jwt : JwtService Token}
  {sha256 : RawToken → Digest} {runtime : Runtime} {platform next : Platform} {now : Time}
  {act : Act Token} {occasions : List (Occasion Token)}

-----------------------------------------------------------------------------------------
-- What happens to the parts
-----------------------------------------------------------------------------------------

/-- What an act does to the parts: nothing, or a request on the session store begins, or it runs
a statement and may sign a token then, or the gateway handles an event that it admits. -/
inductive Concerns (sha256 : RawToken → Digest) (runtime : Runtime) (platform next : Platform)
    : Prop
  | nothing (sessions : next.sessions = platform.sessions)
    (signatures : next.signatures = platform.signatures) (world : next.world = platform.world)
  | request (request : Request)
    (began : (program sha256).move platform.sessions (.start request) = some next.sessions)
    (signatures : next.signatures = platform.signatures) (world : next.world = platform.world)
  | statement (index : Nat) (input : Input)
    (ran : (program sha256).move platform.sessions (.step index input) = some next.sessions)
    (signatures
      : next.signatures
        = platform.signatures
          ++ ((next.sessions.threads[index]?.bind Request.returned).map
              (fun tokens => ⟨tokens.accessToken, seconds platform.clock⟩)).toList)
    (world : next.world = platform.world)
  | event (stimulus : Stimulus)
    (handled : (gatewayMachine runtime).step platform.world stimulus = some next.world)
    (sessions : next.sessions = platform.sessions)
    (signatures : next.signatures = platform.signatures)

theorem Concerns.of_arrive {request : Request} {arrived : Platform}
    (begins : platform.arrive sha256 request = some arrived)
    (sessions : next.sessions = arrived.sessions)
    (signatures : next.signatures = arrived.signatures) (world : next.world = arrived.world)
    : Concerns sha256 runtime platform next := by
  obtain ⟨pool, moved, rfl⟩ := Option.map_eq_some_iff.mp begins
  exact .request request (sessions ▸ moved) signatures world

theorem Sound.concerns (sound : Sound jwt sha256 runtime platform)
    (acted : Platform.act jwt sha256 runtime platform platform.clock act = some next)
    : Concerns sha256 runtime platform next := by
  cases act with
  | login userId =>
      obtain ⟨_, begins⟩ := Option.ite_none_right_eq_some.mp acted
      exact .of_arrive begins rfl rfl rfl
  | refresh rawToken => exact .of_arrive acted rfl rfl rfl
  | guarded route token =>
      obtain ⟨_, guarded⟩ := Option.ite_none_right_eq_some.mp acted
      cases verified : jwt.verify strategyOptions token (seconds platform.clock) with
      | none =>
          rw [verified] at guarded
          cases guarded
          exact .nothing rfl rfl rfl
      | some payload =>
          rw [verified] at guarded
          obtain ⟨arrived, begins, rfl⟩ := Option.map_eq_some_iff.mp guarded
          exact .of_arrive begins rfl rfl rfl
  | handle validator =>
      obtain ⟨bearer, _, handled⟩ := Option.bind_eq_some_iff.mp acted
      split at handled
      · cases handled
        exact .nothing rfl rfl rfl
      · obtain ⟨arrived, begins, rfl⟩ := Option.map_eq_some_iff.mp handled
        exact .of_arrive begins rfl rfl rfl
  | statement index input =>
      obtain ⟨sessions, ran, rfl⟩ := Option.map_eq_some_iff.mp acted
      exact .statement index _ ran rfl rfl
  | connect socketId token anonymousId =>
      obtain ⟨⟨possible, drawn, opened⟩, made⟩ := Option.ite_none_right_eq_some.mp acted
      cases made
      have admitted := (sound.admits_connect possible drawn opened).2
      exact .event _ (step_eq_some.mpr ⟨admitted, rfl⟩) rfl rfl
  | event event =>
      obtain ⟨_, taken⟩ := Option.ite_none_right_eq_some.mp acted
      obtain ⟨world, handled, rfl⟩ := Option.map_eq_some_iff.mp taken
      exact .event _ handled rfl rfl

/-- A step is an act at a time that is not before the clock. -/
theorem Sound.step_concerns (sound : Sound jwt sha256 runtime platform)
    {occasion : Occasion Token}
    (taken : Platform.step jwt sha256 runtime platform occasion = some next)
    : platform.clock ≤ occasion.now
      ∧ Concerns sha256 runtime { platform with clock := occasion.now } next
      ∧ Sound jwt sha256 runtime next := by
  obtain ⟨later, acted⟩ := Option.ite_none_right_eq_some.mp taken
  have ticked := sound.tick later
  exact ⟨later, ticked.concerns acted, ticked.act acted⟩

/-- The application is made of its parts. Every stretch of a run is a run of the session store
and a run of the gateway, which both go on from where they are; in particular the gateway may
rely on it that a token names a registered user.
-/
theorem runs_compose {first second : List (Occasion Token)} {middle final : Platform}
    (reached : (machine jwt sha256 runtime).Reaches first middle)
    (later : (machine jwt sha256 runtime).exec middle second = some final)
    : (∃ moves, (Sessions.machine sha256).exec middle.sessions moves = some final.sessions)
      ∧ ∃ stimuli, (gatewayMachine runtime).exec middle.world stimuli = some final.world := by
  have sound := reaches_sound reached
  have preserved {platform next : Platform} {occasion : Occasion Token}
      (sound : Sound jwt sha256 runtime platform)
      (taken : (machine jwt sha256 runtime).step platform occasion = some next)
      : Sound jwt sha256 runtime next :=
    (sound.step_concerns taken).2.2
  constructor
  · refine Machine.exec_projects Platform.sessions (Sound jwt sha256 runtime) preserved ?_ sound
      later
    intro platform occasion next sound taken
    cases (sound.step_concerns taken).2.1 with
    | nothing sessions => exact ⟨[], congrArg some sessions.symm⟩
    | request request began => exact ⟨[.start request], by simp [Machine.exec_cons, began]⟩
    | statement index input ran =>
        exact ⟨[.step index input], by simp [Machine.exec_cons, ran]⟩
    | event stimulus handled sessions => exact ⟨[], congrArg some sessions.symm⟩
  · refine Machine.exec_projects Platform.world (Sound jwt sha256 runtime) preserved ?_ sound
      later
    intro platform occasion next sound taken
    cases (sound.step_concerns taken).2.1 with
    | nothing _ _ world => exact ⟨[], congrArg some world.symm⟩
    | request _ _ _ world => exact ⟨[], congrArg some world.symm⟩
    | statement _ _ _ _ world => exact ⟨[], congrArg some world.symm⟩
    | event stimulus handled =>
        refine ⟨[stimulus], ?_⟩
        rw [Machine.exec_cons, show (gatewayMachine runtime).step _ _ = _ from handled]
        rfl

/-- A login, and then a socket and a logout. -/
theorem runs_compose_visit
    : ∃ moves, (Sessions.machine id).exec (runAfter visit).sessions moves
        = some (runAfter (visit ++ revisit)).sessions := by
  have reached
      : (machine plainJwt id plainRuntime).Reaches visit (runAfter visit) := rfl
  have later
      : (machine plainJwt id plainRuntime).exec (runAfter visit) revisit
        = some (runAfter (visit ++ revisit)) := rfl
  exact (runs_compose reached later).1

-----------------------------------------------------------------------------------------
-- Who acts
-----------------------------------------------------------------------------------------

/-- Whoever has acted as a user on a socket, or at a guarded route, came with a token of theirs
that had not expired. A login or a refresh had returned it, for a session of this user, and by
the log of the run a login of theirs has opened this session.
-/
theorem users_are_backed (run : (machine jwt sha256 runtime).Reaches occasions platform)
    : (∀ occurrence ∈ platform.world.trace, ∀ userId,
        occurrence.user = some userId →
          ∃ handshake ∈ platform.handshakes, ∃ payload,
            occurrence.event.sender = some handshake.socketId
            ∧ handshake.payload = some payload
            ∧ platform.Backed jwt sha256 userId payload handshake.connectedAt)
      ∧ ∀ index bearer,
          (index, bearer) ∈ platform.handled →
            platform.Backed jwt sha256 bearer.payload.sub bearer.payload bearer.presentedAt
            ∧ platform.sessions.threads[bearer.validator]?
              = some (.validate bearer.payload .accepted) := by
  have sound := reaches_sound run
  obtain ⟨stimuli, ran⟩ := sound.world
  obtain ⟨_, introduced⟩ := reaches_introduced ran
  constructor
  · intro occurrence member userId user
    obtain ⟨connection, made, sent, same⟩ := introduced occurrence member userId user
    rw [sound.connections] at made
    obtain ⟨handshake, shaken, rfl⟩ := List.mem_map.mp made
    obtain ⟨payload, found, rfl⟩ := Option.map_eq_some_iff.mp same
    exact ⟨handshake, shaken, payload, sent, found,
      sound.backed (sound.handshakes shaken found)⟩
  · intro index bearer handling
    obtain ⟨shown, accepted⟩ := sound.handled handling
    exact ⟨sound.backed (sound.bearers shown), accepted⟩

/-- The socket that asks for the queue is the user's who has logged in. -/
theorem users_are_backed_visit
    : ∃ handshake ∈ (runAfter visit).handshakes, ∃ payload,
        (Event.queueStatusRequest 11).sender = some handshake.socketId
        ∧ handshake.payload = some payload
        ∧ (runAfter visit).Backed plainJwt id 1 payload handshake.connectedAt := by
  have run : (machine plainJwt id plainRuntime).Reaches visit (runAfter visit) := rfl
  have asked
      : ∃ occurrence ∈ (runAfter visit).world.trace,
          occurrence.event = .queueStatusRequest 11 ∧ occurrence.user = some 1 := by
    decide
  obtain ⟨occurrence, member, event, user⟩ := asked
  exact event ▸ (users_are_backed run).1 occurrence member 1 user

-----------------------------------------------------------------------------------------
-- Who revokes
-----------------------------------------------------------------------------------------

/-- A session is revoked by its own user. Either a request with a token of theirs has come
through the guard, to log out of this session or of all their sessions, or the server has
refused a refresh token of this session that was presented again.
-/
theorem revocations_are_backed (run : (machine jwt sha256 runtime).Reaches occasions platform)
    : ∀ row ∈ platform.sessions.shared.sessions.rows,
        row.isRevoked = true →
          (∃ (index : Nat) (bearer : Bearer),
            (some index, bearer) ∈ platform.handled
            ∧ platform.Backed jwt sha256 row.userId bearer.payload bearer.presentedAt
            ∧ (platform.sessions.threads[index]? = some (.logout row.id .done)
                ∧ bearer.payload.sid = row.id
              ∨ platform.sessions.threads[index]? = some (.logoutAll row.userId .done)))
          ∨ ∃ (index : Nat) (rawToken : RawToken),
              platform.sessions.threads[index]?
                = some (.refresh rawToken (.threw (some .invalidRefreshToken)))
              ∧ Owned sha256 platform.sessions.shared rawToken row.id := by
  have sound := reaches_sound run
  obtain ⟨moves, ran⟩ := sound.sessions
  have valid := (reaches_ownership ran).1.1
  intro row member revoked
  obtain ⟨_, _, _, cause⟩ := session_revoked ran member revoked
  rcases cause with
    ⟨index, _, done⟩ | ⟨index, _, _, done⟩ | ⟨index, rawToken, _, refused, owned⟩
  · obtain ⟨bearer, handling, named⟩ := sound.grounded done
    have backed := sound.backed (sound.bearers (sound.handled handling).1)
    have same := backed.owned.userId_eq valid member named.symm
    exact Or.inl ⟨index, bearer, handling, same ▸ backed, Or.inl ⟨done, named⟩⟩
  · obtain ⟨bearer, handling, named⟩ := sound.grounded done
    have backed := sound.backed (sound.bearers (sound.handled handling).1)
    exact Or.inl ⟨index, bearer, handling, named ▸ backed, Or.inr done⟩
  · exact Or.inr ⟨index, rawToken, refused, owned⟩

/-- The session that is logged out is the user's. -/
theorem revocations_are_backed_visit
    : (∃ (index : Nat) (bearer : Bearer),
        (some index, bearer) ∈ (runAfter visit).handled
        ∧ (runAfter visit).Backed plainJwt id 1 bearer.payload bearer.presentedAt
        ∧ ((runAfter visit).sessions.threads[index]? = some (.logout 2 .done)
            ∧ bearer.payload.sid = 2
          ∨ (runAfter visit).sessions.threads[index]? = some (.logoutAll 1 .done)))
      ∨ ∃ (index : Nat) (rawToken : RawToken),
          (runAfter visit).sessions.threads[index]?
            = some (.refresh rawToken (.threw (some .invalidRefreshToken)))
          ∧ Owned id (runAfter visit).sessions.shared rawToken 2 := by
  have run : (machine plainJwt id plainRuntime).Reaches visit (runAfter visit) := rfl
  have member
      : SessionRow.mk 2 1 true 1 (1 + sevenDays)
        ∈ (runAfter visit).sessions.shared.sessions.rows := by
    decide
  exact revocations_are_backed run _ member rfl

end

end Platform

end NexusComms.Access
