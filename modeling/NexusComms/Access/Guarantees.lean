import NexusComms.Access.Platform
import NexusComms.Sessions.Causes

/-! What the parts of the application guarantee each other. The session store signs tokens for
users who are registered, and whoever comes to the gateway or to a guarded route as a user has
such a token.
-/

namespace NexusComms.Sessions

open Concurrency

section

variable {sha256 : RawToken → Digest} {request : Request} {tokens : AuthTokens}
  {payload : JwtPayload} {pool next : Pool Store Request} {action : Move Request Input}
  {index : Nat}

/-- A request that has returned its tokens does not go on. -/
theorem returned_stops (returned : request.returned = some tokens) (input : Input)
    (store : Store)
    : (program sha256).step index input store request = none := by
  unfold Request.returned at returned
  split at returned
  · simp [program, Request.step, AuthService.issueTokens]
  · simp [program, Request.step, AuthService.refresh]
  · cases returned

/-- A guard that has accepted a token does not go on. -/
theorem accepted_stops (input : Input) (store : Store)
    : (program sha256).step index input store (.validate payload .accepted) = none := by
  simp [program, Request.step, JwtStrategy.validate]

/-- What has been signed stays signed. -/
theorem Signed.move (signed : Signed pool payload)
    (moved : (program sha256).move pool action = some next)
    : Signed next payload := by
  obtain ⟨request, member, tokens, returned, named⟩ := signed
  obtain ⟨index, found⟩ := List.mem_iff_getElem?.mp member
  have stays :=
    Program.move_stopped found (fun input store => returned_stops returned input store) moved
  exact ⟨request, List.mem_of_getElem? stays, tokens, returned, named⟩

end

end NexusComms.Sessions

namespace NexusComms.Access

open Concurrency Sessions Signaling

namespace Platform

/-- What holds of the application in every run. -/
structure Sound {Token : Type} (jwt : JwtService Token) (sha256 : RawToken → Digest)
    (runtime : Runtime) (platform : Platform)
    : Prop where
  clock : platform.world.clock ≤ platform.clock
  sessions : ∃ moves, (Sessions.machine sha256).Reaches moves platform.sessions
  world : ∃ stimuli, (gatewayMachine runtime).Reaches stimuli platform.world
  grounded {index : Nat} {request : Request}
    (found : platform.sessions.threads[index]? = some request)
    : platform.Grounded index request
  signatures {signature : Signature} (signed : signature ∈ platform.signatures)
    : signature.signedAt ≤ seconds platform.clock ∧ Signed platform.sessions signature.payload
  bearers {bearer : Bearer} (shown : bearer ∈ platform.bearers)
    : platform.Vouched jwt bearer.payload bearer.presentedAt
  handled {index : Option Nat} {bearer : Bearer}
    (handling : (index, bearer) ∈ platform.handled)
    : bearer ∈ platform.bearers
      ∧ platform.sessions.threads[bearer.validator]?
        = some (.validate bearer.payload .accepted)
  handshakes {handshake : Handshake} (made : handshake ∈ platform.handshakes)
    {payload : JwtPayload} (found : handshake.payload = some payload)
    : platform.Vouched jwt payload handshake.connectedAt
  connections : platform.world.connections = platform.handshakes.map Handshake.connection

/-- The history that does not shrink. -/
structure Grows (platform next : Platform) : Prop where
  clock : platform.clock ≤ next.clock
  users (userId : Uuid) (known : platform.registered userId = true)
    : next.registered userId = true
  signatures : platform.signatures ⊆ next.signatures
  bearers : platform.bearers ⊆ next.bearers
  handled : platform.handled ⊆ next.handled

section

variable {Token : Type} {jwt : JwtService Token} {sha256 : RawToken → Digest}
  {runtime : Runtime} {platform next : Platform} {request : Request} {index : Nat}
  {payload : JwtPayload} {now : Time}

theorem Vouched.grows {shownAt : Time} (vouched : platform.Vouched jwt payload shownAt)
    (grows : Grows platform next)
    : next.Vouched jwt payload shownAt := by
  obtain ⟨signature, signed, named, before, current⟩ := vouched
  exact ⟨signature, grows.signatures signed, named, before, current⟩

theorem Grounded.grows (grounded : platform.Grounded index request)
    (grows : Grows platform next)
    : next.Grounded index request := by
  cases request with
  | login userId stage => exact grows.users userId grounded
  | refresh rawToken stage => trivial
  | logout sessionId stage =>
      obtain ⟨bearer, handling, named⟩ := grounded
      exact ⟨bearer, grows.handled handling, named⟩
  | logoutAll userId stage =>
      obtain ⟨bearer, handling, named⟩ := grounded
      exact ⟨bearer, grows.handled handling, named⟩
  | validate payload stage =>
      obtain ⟨bearer, shown, named⟩ := grounded
      exact ⟨bearer, grows.bearers shown, named⟩

/-- A request comes from where it came from, however far it has got. -/
theorem Grounded.step {owner : Nat} {input : Input} {store store' : Store} {request' : Request}
    (grounded : platform.Grounded index request)
    (ran : (program sha256).step owner input store request = some (store', request'))
    : platform.Grounded index request' := by
  have stepped := (program_step_some ran).2
  cases request with
  | login userId stage =>
      obtain ⟨_, _, same⟩ := Option.map_eq_some_iff.mp stepped
      cases same
      exact grounded
  | refresh rawToken stage =>
      obtain ⟨_, _, same⟩ := Option.map_eq_some_iff.mp stepped
      cases same
      trivial
  | logout sessionId stage =>
      obtain ⟨_, _, same⟩ := Option.map_eq_some_iff.mp stepped
      cases same
      exact grounded
  | logoutAll userId stage =>
      obtain ⟨_, _, same⟩ := Option.map_eq_some_iff.mp stepped
      cases same
      exact grounded
  | validate payload stage =>
      obtain ⟨_, _, same⟩ := Option.map_eq_some_iff.mp stepped
      cases same
      exact grounded

/-- A token that is verified was handed out in time. -/
theorem possible_vouched [DecidableEq Token] {options : VerifyOptions} {token : Token}
    (allowed : .hs256 ∈ options.algorithms)
    (signed
      : ∀ {signature}, signature ∈ platform.signatures → signature.signedAt ≤ seconds now)
    (possible : platform.possible jwt options now token = true)
    (verified : jwt.verify options token (seconds now) = some payload)
    : platform.Vouched jwt payload (seconds now) := by
  simp only [Platform.possible, verified, Option.all_some, List.any_eq_true, Bool.and_eq_true,
    decide_eq_true_eq] at possible
  obtain ⟨signature, member, named, rfl⟩ := possible
  rw [jwt.verify_sign options _ _ _ allowed] at verified
  split at verified
  · rename_i current
    exact ⟨signature, member, named, signed member, current⟩
  · cases verified

-----------------------------------------------------------------------------------------
-- Moves of the session store
-----------------------------------------------------------------------------------------

/-- A move of the session store, with the history that it adds. -/
theorem Sound.moved (sound : Sound jwt sha256 runtime platform) {action : Move Request Input}
    (moved : (program sha256).move platform.sessions action = some next.sessions)
    (grows : Grows platform next) (world : next.world = platform.world)
    (handshakes : next.handshakes = platform.handshakes)
    (signatures
      : ∀ {signature},
          signature ∈ next.signatures →
            signature ∈ platform.signatures
            ∨ signature.signedAt ≤ seconds next.clock
              ∧ Signed next.sessions signature.payload)
    (bearers
      : ∀ {bearer},
          bearer ∈ next.bearers →
            bearer ∈ platform.bearers
            ∨ platform.Vouched jwt bearer.payload bearer.presentedAt)
    (handled
      : ∀ {index bearer},
          (index, bearer) ∈ next.handled →
            (index, bearer) ∈ platform.handled
            ∨ bearer ∈ platform.bearers
              ∧ platform.sessions.threads[bearer.validator]?
                = some (.validate bearer.payload .accepted))
    (grounded
      : ∀ {index request},
          next.sessions.threads[index]? = some request →
            platform.sessions.threads[index]? = some request ∨ next.Grounded index request)
    : Sound jwt sha256 runtime next where
  clock := by
    rw [world]
    exact Nat.le_trans sound.clock grows.clock
  sessions := by
    obtain ⟨moves, run⟩ := sound.sessions
    refine ⟨moves ++ [action], ?_⟩
    rw [Machine.Reaches, Machine.exec_append, run]
    simp [Machine.exec_cons, moved]
  world := world ▸ sound.world
  grounded found := by
    rcases grounded found with before | new
    · exact (sound.grounded before).grows grows
    · exact new
  signatures signed := by
    rcases signatures signed with before | new
    · obtain ⟨early, stays⟩ := sound.signatures before
      exact ⟨Nat.le_trans early (Nat.div_le_div_right grows.clock), stays.move moved⟩
    · exact new
  bearers shown := by
    rcases bearers shown with before | new
    · exact (sound.bearers before).grows grows
    · exact new.grows grows
  handled handling := by
    have stays {bearer : Bearer}
        (accepted
          : platform.sessions.threads[bearer.validator]?
            = some (.validate bearer.payload .accepted))
        : next.sessions.threads[bearer.validator]?
          = some (.validate bearer.payload .accepted) :=
      Program.move_stopped accepted accepted_stops moved
    rcases handled handling with before | ⟨shown, accepted⟩
    · exact ⟨grows.bearers (sound.handled before).1, stays (sound.handled before).2⟩
    · exact ⟨grows.bearers shown, stays accepted⟩
  handshakes made payload found := by
    rw [handshakes] at made
    exact (sound.handshakes made found).grows grows
  connections := by
    rw [world, handshakes]
    exact sound.connections

/-- A request on the store begins. -/
theorem Sound.arrives (sound : Sound jwt sha256 runtime platform) {arrived : Platform}
    (began : platform.arrive sha256 request = some arrived) (moreBearers : List Bearer)
    (moreHandled : List (Option Nat × Bearer))
    (bearers
      : ∀ bearer ∈ moreBearers, platform.Vouched jwt bearer.payload bearer.presentedAt)
    (handled
      : ∀ entry ∈ moreHandled,
          entry.2 ∈ platform.bearers
          ∧ platform.sessions.threads[entry.2.validator]?
            = some (.validate entry.2.payload .accepted))
    (grounded
      : Grounded
          {
            arrived with
            bearers := platform.bearers ++ moreBearers
            handled := platform.handled ++ moreHandled
          }
          platform.sessions.threads.length request)
    : Sound jwt sha256 runtime
        {
          arrived with
          bearers := platform.bearers ++ moreBearers
          handled := platform.handled ++ moreHandled
        } := by
  obtain ⟨sessions, moved, rfl⟩ := Option.map_eq_some_iff.mp began
  have threads := ((program sha256).move_start_some moved).2
  refine sound.moved moved ⟨Nat.le_refl _, fun _ known => known, fun _ member => member,
    List.subset_append_left _ _, List.subset_append_left _ _⟩ rfl rfl
    (fun member => Or.inl member) ?_ ?_ ?_
  · intro bearer shown
    exact (List.mem_append.mp shown).imp_right (bearers bearer)
  · intro index bearer handling
    exact (List.mem_append.mp handling).imp_right (handled (index, bearer))
  · intro index other found
    change sessions.threads[index]? = some other at found
    rw [threads] at found
    rcases Nat.lt_or_ge index platform.sessions.threads.length with early | late
    · rw [List.getElem?_append_left early] at found
      exact Or.inl found
    · rw [List.getElem?_append_right late, List.getElem?_singleton] at found
      split at found
      · rename_i last
        cases found
        rw [show index = platform.sessions.threads.length from by omega]
        exact Or.inr grounded
      · cases found

/-- A handler begins that leaves the store alone. -/
theorem Sound.passes (sound : Sound jwt sha256 runtime platform) {bearer : Bearer}
    (shown : bearer ∈ platform.bearers)
    (accepted
      : platform.sessions.threads[bearer.validator]?
        = some (.validate bearer.payload .accepted))
    : Sound jwt sha256 runtime
        { platform with handled := platform.handled ++ [(none, bearer)] } := by
  have grows
      : Grows platform { platform with handled := platform.handled ++ [(none, bearer)] } :=
    ⟨Nat.le_refl _, fun _ known => known, fun _ member => member, fun _ member => member,
      List.subset_append_left _ _⟩
  refine ⟨sound.clock, sound.sessions, sound.world,
    fun found => (sound.grounded found).grows grows, fun signed => sound.signatures signed,
    fun before => sound.bearers before, fun handling => ?_,
    fun made _ found => sound.handshakes made found, sound.connections⟩
  rcases List.mem_append.mp handling with before | new
  · exact sound.handled before
  · cases List.mem_singleton.mp new
    exact ⟨shown, accepted⟩

/-- A request on the store runs its next statement. If that was the last one, a token may be
signed. -/
theorem Sound.ran (sound : Sound jwt sha256 runtime platform) {input : Input}
    {sessions : Pool Store Request}
    (moved : (program sha256).move platform.sessions (.step index input) = some sessions)
    : Sound jwt sha256 runtime
        {
          platform with
          sessions := sessions
          signatures :=
            platform.signatures
              ++ ((sessions.threads[index]?.bind Request.returned).map
                  (fun tokens => ⟨tokens.accessToken, seconds platform.clock⟩)).toList
        } := by
  obtain ⟨request, after, found, stepped, threads⟩ := (program sha256).move_step_some moved
  have own : sessions.threads[index]? = some after := by
    rw [threads, List.getElem?_set_self (List.getElem?_eq_some_iff.mp found).1]
  refine sound.moved moved ⟨Nat.le_refl _, fun _ known => known, List.subset_append_left _ _,
    fun _ member => member, fun _ member => member⟩ rfl rfl ?_ (fun shown => Or.inl shown)
    (fun handling => Or.inl handling) ?_
  · intro signature signed
    refine (List.mem_append.mp signed).imp_right (fun new => ?_)
    obtain ⟨tokens, returned, rfl⟩ := Option.map_eq_some_iff.mp (Option.mem_toList.mp new)
    rw [own] at returned
    exact ⟨Nat.le_refl _, after, List.mem_of_getElem? own, tokens, returned, rfl⟩
  · intro other request' found'
    change sessions.threads[other]? = some request' at found'
    by_cases same : other = index
    · subst same
      cases Option.some.inj (own.symm.trans found')
      exact Or.inr (Grounded.step (sound.grounded found) stepped)
    · rw [threads, List.getElem?_set_ne (Ne.symm same)] at found'
      exact Or.inl found'

-----------------------------------------------------------------------------------------
-- Events of the gateway
-----------------------------------------------------------------------------------------

/-- A token that was handed out was returned by a request. -/
theorem Sound.signed (sound : Sound jwt sha256 runtime platform) {shownAt : Time}
    (vouched : platform.Vouched jwt payload shownAt)
    : Signed platform.sessions payload := by
  obtain ⟨signature, member, rfl, _⟩ := vouched
  exact (sound.signatures member).2

/-- Its session was opened by a login of its user. -/
theorem Sound.opened (sound : Sound jwt sha256 runtime platform) {shownAt : Time}
    (vouched : platform.Vouched jwt payload shownAt)
    : OwnedBy platform.sessions.shared payload.sub payload.sid
      ∧ ∃ log ledger,
          Accounts sha256 log ledger platform.sessions
          ∧ OpenedBy log platform.sessions payload.sub payload.sid := by
  obtain ⟨moves, run⟩ := sound.sessions
  obtain ⟨row, member, named, user⟩ := (sound.signed vouched).ownedBy (reaches_ownership run)
  exact ⟨⟨row, member, named, user⟩, user ▸ named ▸ session_opened run member⟩

/-- So this user is registered. -/
theorem Sound.vouched_registered (sound : Sound jwt sha256 runtime platform) {shownAt : Time}
    (vouched : platform.Vouched jwt payload shownAt)
    : platform.registered payload.sub = true := by
  obtain ⟨_, log, ledger, _, index, stage, _, slot, _⟩ := sound.opened vouched
  exact sound.grounded slot

/-- The gateway handles an event that it admits. -/
theorem Sound.handles (sound : Sound jwt sha256 runtime platform) {event : Event}
    (more : List Handshake)
    (admitted : platform.world.admits ⟨platform.clock, event⟩ = true)
    (made : more.map Handshake.connection = event.connection.toList)
    (vouched
      : ∀ handshake ∈ more, ∀ payload,
          handshake.payload = some payload →
            platform.Vouched jwt payload handshake.connectedAt)
    : Sound jwt sha256 runtime
        {
          platform with
          world := platform.world.after runtime ⟨platform.clock, event⟩
          handshakes := platform.handshakes ++ more
        } := by
  have grows
      : Grows platform
          {
            platform with
            world := platform.world.after runtime ⟨platform.clock, event⟩
            handshakes := platform.handshakes ++ more
          } :=
    ⟨Nat.le_refl _, fun userId known => (ActorsKnown.references_iff userId).mpr (Or.inl known),
      fun _ member => member, fun _ member => member, fun _ member => member⟩
  refine ⟨Nat.le_refl _, sound.sessions, ?_, fun found => (sound.grounded found).grows grows,
    fun signed => sound.signatures signed, fun shown => (sound.bearers shown).grows grows,
    fun handling => sound.handled handling, ?_, ?_⟩
  · obtain ⟨stimuli, run⟩ := sound.world
    have taken
        : (gatewayMachine runtime).step platform.world ⟨platform.clock, event⟩
          = some (platform.world.after runtime ⟨platform.clock, event⟩) :=
      step_eq_some.mpr ⟨admitted, rfl⟩
    refine ⟨stimuli ++ [⟨platform.clock, event⟩], ?_⟩
    rw [Machine.Reaches, Machine.exec_append, run, Option.bind_some, Machine.exec_cons, taken]
    rfl
  · intro handshake member payload found
    rcases List.mem_append.mp member with before | new
    · exact (sound.handshakes before found).grows grows
    · exact (vouched handshake new payload found).grows grows
  · rw [Originates.connections_after, List.map_append, made, sound.connections]

/-- What the gateway makes of a token is the user of its payload. -/
theorem authenticate_eq (token : Option Token)
    : SignalingGateway.authenticate jwt now token
      = (token.bind (fun token => jwt.verify gatewayOptions token now)).map JwtPayload.sub := by
  cases token with
  | none => rfl
  | some token => rfl

/-- A new socket is admitted: the user whom its token names is registered. -/
theorem Sound.admits_connect [DecidableEq Token] (sound : Sound jwt sha256 runtime platform)
    {socketId : SocketId} {token : Option Token} {anonymousId : Uuid}
    (possible : token.all (platform.possible jwt gatewayOptions platform.clock) = true)
    (drawn : anonymousId ∉ platform.world.drawn) (opened : socketId ∉ platform.world.opened)
    : (∀ payload,
        token.bind (fun token => jwt.verify gatewayOptions token (seconds platform.clock))
            = some payload →
          platform.Vouched jwt payload (seconds platform.clock))
      ∧ platform.world.admits
          ⟨platform.clock,
            .connect socketId
              (SignalingGateway.authenticate jwt (seconds platform.clock) token) anonymousId⟩
        = true := by
  have vouched (payload : JwtPayload)
      (verified
        : token.bind (fun token => jwt.verify gatewayOptions token (seconds platform.clock))
          = some payload)
      : platform.Vouched jwt payload (seconds platform.clock) := by
    obtain ⟨token, rfl, verified⟩ := Option.bind_eq_some_iff.mp verified
    exact possible_vouched (by decide) (fun signed => (sound.signatures signed).1) possible
      verified
  refine ⟨vouched, ?_⟩
  have known
      : platform.world.gateway.db.references
          (SignalingGateway.authenticate jwt (seconds platform.clock) token)
        = true := by
    rw [authenticate_eq]
    cases verified
        : token.bind (fun token => jwt.verify gatewayOptions token (seconds platform.clock)) with
    | none => rfl
    | some payload => exact sound.vouched_registered (vouched payload verified)
  simp [World.admits, World.enabled, Event.draws, Event.opens, sound.clock, drawn, opened,
    known]

-----------------------------------------------------------------------------------------
-- Every run
-----------------------------------------------------------------------------------------

theorem Sound.start : Sound jwt sha256 runtime Platform.start where
  clock := Nat.le_refl _
  sessions := ⟨[], rfl⟩
  world := ⟨[], rfl⟩
  grounded found := by simp [Platform.start] at found
  signatures signed := by cases signed
  bearers shown := by cases shown
  handled handling := by cases handling
  handshakes made := by cases made
  connections := rfl

/-- Time goes on. -/
theorem Sound.tick (sound : Sound jwt sha256 runtime platform) (later : platform.clock ≤ now)
    : Sound jwt sha256 runtime { platform with clock := now } where
  clock := Nat.le_trans sound.clock later
  sessions := sound.sessions
  world := sound.world
  grounded found := by
    exact (sound.grounded found).grows ⟨later, fun _ known => known, fun _ member => member,
      fun _ member => member, fun _ member => member⟩
  signatures signed := by
    obtain ⟨before, signed'⟩ := sound.signatures signed
    exact ⟨Nat.le_trans before (Nat.div_le_div_right later), signed'⟩
  bearers shown := sound.bearers shown
  handled handling := sound.handled handling
  handshakes made _ found := sound.handshakes made found
  connections := sound.connections

/-- Whatever happens keeps what the parts guarantee each other. -/
theorem Sound.act [DecidableEq Token] (sound : Sound jwt sha256 runtime platform)
    {act : Act Token}
    (acted : Platform.act jwt sha256 runtime platform platform.clock act = some next)
    : Sound jwt sha256 runtime next := by
  cases act with
  | login userId =>
      obtain ⟨known, began⟩ := Option.ite_none_right_eq_some.mp acted
      obtain ⟨sessions, moved, rfl⟩ := Option.map_eq_some_iff.mp began
      simpa using sound.arrives began [] [] (by simp) (by simp) known
  | refresh rawToken =>
      have began
          : platform.arrive sha256 (.refresh rawToken (.rotating .begin)) = some next := acted
      obtain ⟨sessions, moved, rfl⟩ := Option.map_eq_some_iff.mp began
      simpa using sound.arrives began [] [] (by simp) (by simp) trivial
  | guarded route token =>
      obtain ⟨possible, guarded⟩ := Option.ite_none_right_eq_some.mp acted
      cases verified : jwt.verify strategyOptions token (seconds platform.clock) with
      | none =>
          rw [verified] at guarded
          exact Option.some.inj guarded ▸ sound
      | some payload =>
          rw [verified] at guarded
          obtain ⟨arrived, began, rfl⟩ := Option.map_eq_some_iff.mp guarded
          have vouched : platform.Vouched jwt payload (seconds platform.clock) :=
            possible_vouched (by decide) (fun signed => (sound.signatures signed).1) possible
              verified
          obtain ⟨sessions, moved, rfl⟩ := Option.map_eq_some_iff.mp began
          simpa using
            sound.arrives began
              [⟨platform.sessions.threads.length, payload, route, seconds platform.clock⟩] []
              (by simpa using vouched) (by simp)
              ⟨_, List.mem_append_right _ (List.mem_singleton_self _), rfl, rfl⟩
  | handle validator =>
      obtain ⟨bearer, admitted, handled⟩ := Option.bind_eq_some_iff.mp acted
      have shown := List.mem_of_find?_eq_some admitted
      have accepted
          : platform.sessions.threads[bearer.validator]?
            = some (.validate bearer.payload .accepted) := by
        have test := List.find?_some admitted
        simp only [Bool.and_eq_true, decide_eq_true_eq] at test
        rw [test.1.1]
        exact test.1.2
      have own
          : (some platform.sessions.threads.length, bearer)
            ∈ platform.handled ++ [(some platform.sessions.threads.length, bearer)] :=
        List.mem_append_right _ (List.mem_singleton_self _)
      have handling {request : Request} {arrived : Platform}
          (began : platform.arrive sha256 request = some arrived) :=
        sound.arrives began [] [(some platform.sessions.threads.length, bearer)] (by simp)
          (by simpa using ⟨shown, accepted⟩)
      cases named : bearer.route with
      | logout =>
          rw [named] at handled
          obtain ⟨arrived, began, rfl⟩ := Option.map_eq_some_iff.mp handled
          obtain ⟨sessions, moved, rfl⟩ := Option.map_eq_some_iff.mp began
          simpa using handling began ⟨bearer, own, rfl⟩
      | logoutAll =>
          rw [named] at handled
          obtain ⟨arrived, began, rfl⟩ := Option.map_eq_some_iff.mp handled
          obtain ⟨sessions, moved, rfl⟩ := Option.map_eq_some_iff.mp began
          simpa using handling began ⟨bearer, own, rfl⟩
      | other =>
          rw [named] at handled
          cases handled
          exact sound.passes shown accepted
  | statement index input =>
      obtain ⟨sessions, moved, rfl⟩ := Option.map_eq_some_iff.mp acted
      exact sound.ran moved
  | connect socketId token anonymousId =>
      obtain ⟨⟨possible, drawn, opened⟩, made⟩ := Option.ite_none_right_eq_some.mp acted
      obtain ⟨vouched, admitted⟩ := sound.admits_connect possible drawn opened
      cases made
      refine sound.handles _ admitted ?_ ?_
      · simp [Handshake.connection, Event.connection, authenticate_eq]
      · intro handshake new payload found
        cases List.mem_singleton.mp new
        exact vouched payload found
  | event event =>
      obtain ⟨quiet, taken⟩ := Option.ite_none_right_eq_some.mp acted
      obtain ⟨world, stepped, rfl⟩ := Option.map_eq_some_iff.mp taken
      obtain ⟨admitted, rfl⟩ := step_eq_some.mp stepped
      simpa using sound.handles [] admitted (by simp [quiet]) (by simp)

/-- Every run keeps it. -/
theorem reaches_sound [DecidableEq Token] {occasions : List (Occasion Token)}
    (run : (machine jwt sha256 runtime).Reaches occasions platform)
    : Sound jwt sha256 runtime platform := by
  refine Machine.Reaches.invariant (Sound jwt sha256 runtime) .start ?_ run
  intro before occasion after sound taken
  obtain ⟨later, acted⟩ := Option.ite_none_right_eq_some.mp taken
  exact (sound.tick later).act acted

end

end Platform

end NexusComms.Access
