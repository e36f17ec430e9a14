import NexusComms.Browser.Honesty
import NexusComms.Sessions.Progress

/-! Client and server agree on the tokens after a login, when calls are made one at a time.
They do not after a refresh: behind the envelope `refreshAuthToken` finds no token, so it
removes both and still returns true.
-/

namespace NexusComms.Browser

open Storage Sessions Concurrency LockedTable

/-- The call has ended in the tab. -/
def Call.ended (call : Call) : Bool :=
  match call.stage with
  | .resolved => true
  | .rejected => true
  | _ => false

/-- A call starts when all earlier ones have ended, and every response is delivered. -/
def OneAtATime (pool : Pool System Call) : Move Call Event → Prop
  | .start _ => ∀ call ∈ pool.threads, call.ended = true
  | .step _ (.tab _ _) => True
  | .step _ (.server _) => True
  | .step _ .networkError => False

instance (pool : Pool System Call)
    : (move : Move Call Event) → Decidable (OneAtATime pool move)
  | .start _ => inferInstanceAs (Decidable (∀ call ∈ pool.threads, call.ended = true))
  | .step _ (.tab _ _) => isTrue trivial
  | .step _ (.server _) => isTrue trivial
  | .step _ .networkError => isFalse False.elim

/-- `refreshAuthToken` has been answered with new tokens. -/
def Call.refreshAnswered (call : Call) : Bool :=
  match call.stage, call.request with
  | .refreshing _, some (.refresh _ (.returned _)) => true
  | _, _ => false

/-- The step is not one of a call whose refresh has been answered with new tokens. -/
def NoRefreshAnswered (pool : Pool System Call) : Move Call Event → Prop
  | .start _ => True
  | .step index _ => ∀ call ∈ pool.threads[index]?, call.refreshAnswered = false

instance (pool : Pool System Call)
    : (move : Move Call Event) → Decidable (NoRefreshAnswered pool move)
  | .start _ => isTrue trivial
  | .step index _ =>
      inferInstanceAs
        (Decidable (∀ call ∈ pool.threads[index]?, call.refreshAnswered = false))

/-- After the step the client believes that it is authenticated. -/
def Believed (taken : Taken (Pool System Call) (Move Call Event)) : Prop :=
  match taken.action with
  | .start _ => False
  | .step index _ => ∃ call ∈ taken.after.threads[index]?, call.believes = true

instance (taken : Taken (Pool System Call) (Move Call Event)) : Decidable (Believed taken) :=
  match taken with
  | ⟨_, .start _, _⟩ => isFalse False.elim
  | ⟨_, .step index _, after⟩ =>
      inferInstanceAs (Decidable (∃ call ∈ after.threads[index]?, call.believes = true))

/-- The silent refresh of `initAuth`, as call `index`, up to the result of
`refreshAuthToken`. -/
def AuthProvider.initAuth (index : Nat) (attempt : Attempt) : List (Move Call Event) :=
  [.start { purpose := .initAuth, stage := .refreshAuthToken }, .step index (.tab true false)]
    ++ (attempt.inputs.map Event.server).map (Move.step index)
    ++ [.step index (.tab true false)]

/-- The run leads to a state in which `refreshAuthToken` of call `index` has returned true. -/
def Succeeds (sha256 : RawToken → Digest) (pool : Pool System Call) (index : Nat)
    (moves : List (Move Call Event))
    : Prop :=
  ∃ next call,
    (machine sha256).exec pool moves = some next
    ∧ next.threads[index]? = some call
    ∧ call.stage = .refreshed true

/-- Client and server agree on these tokens: the stored access token is the one signed last,
the stored refresh token is the only unused one of its family, both are of one active session,
and the next refresh succeeds while neither token nor session has expired. -/
structure AgreesOn (sha256 : RawToken → Digest) (pool : Pool System Call)
    (accessToken : AccessToken) (refreshToken : RawToken) (token : RefreshTokenRow)
    (session : SessionRow)
    : Prop where
  stored : pool.shared.storage = ⟨some accessToken, some refreshToken⟩
  signed : pool.shared.lastSigned = some accessToken
  current : Current sha256 pool.shared.store refreshToken token session
  sameSession : token.sessionId = accessToken.payload.sid
  refreshes
    : ∀ attempt : Attempt,
        attempt.InTime sha256 pool.shared.store token session →
          Succeeds sha256 pool pool.threads.length
            (AuthProvider.initAuth pool.threads.length attempt)

def Agrees (sha256 : RawToken → Digest) (pool : Pool System Call) : Prop :=
  ∃ accessToken refreshToken token session,
    AgreesOn sha256 pool accessToken refreshToken token session

/-- What one call keeps, as long as calls are made one at a time: a call that has ended has no
request left, a login has got as far as its stage says, and the tokens of an answer hold the
access token signed last. -/
structure Call.InOrder (sha256 : RawToken → Digest) (system : System) (call : Call)
    : Prop where
  quiet : call.ended = true ∨ call.stage = .refreshed false → call.request = none
  reached
    : ∀ userId stage, call.request = some (.login userId stage) →
        stage.Reached sha256 system.store
  signed
    : ∀ request tokens, call.request = some request → request.returned = some tokens →
        system.lastSigned = some ⟨tokens.accessToken, call.servedAt⟩

/-- The tab between two steps, as long as calls are made one at a time: only the last call may
be unfinished. -/
structure InOrder (sha256 : RawToken → Digest) (pool : Pool System Call) : Prop where
  outline
    : Program.Holds (fun system => Valid sha256 system.store ∧ Linked system.store)
        (fun system index slot => CallHolds sha256 system.store index slot) pool
  calls : ∀ call ∈ pool.threads, call.InOrder sha256 pool.shared
  last
    : ∀ index call, pool.threads[index]? = some call → call.ended = false →
        index + 1 = pool.threads.length

section

variable {sha256 : RawToken → Digest} {index : Nat} {system system' : System}
  {call call' : Call} {event : Event} {pool next : Pool System Call}

-----------------------------------------------------------------------------------------
-- The next refresh
-----------------------------------------------------------------------------------------

/-- The server's part of a call that runs by itself, by induction on the inputs. -/
theorem serve_alone {request request' : Request} {store' : Store} {inputs : List Input}
    (running : call.request = some request)
    (ran
      : (Sessions.program sha256).alone index system.store request inputs
        = some (store', request'))
    : ∃ system' call',
        (program sha256).alone index system call (inputs.map Event.server)
          = some (system', call')
        ∧ call'.request = some request'
        ∧ call'.stage = call.stage := by
  induction inputs generalizing system call request with
  | nil =>
      cases ran
      exact ⟨system, call, rfl, running, rfl⟩
  | cons input rest ih =>
      obtain ⟨⟨store, answer⟩, stepped, later⟩ := Option.bind_eq_some_iff.mp ran
      let served : System := {
        system with
        store := store
        lastSigned :=
          (answer.returned.map
            (fun tokens => ⟨tokens.accessToken, input.appNow⟩)).or system.lastSigned
        issued := system.issued ++ (drawn answer).map (fun token => (index, token))
      }
      let suspended : Call := { call with request := some answer, servedAt := input.appNow }
      have running' : suspended.request = some answer := rfl
      have later'
          : (Sessions.program sha256).alone index served.store answer rest
            = some (store', request') :=
        later
      obtain ⟨system', call', reached, answered, stage⟩ := ih running' later'
      refine ⟨system', call', ?_, answered, stage⟩
      rw [List.map_cons, ← reached]
      refine (program sha256).alone_cons _ ?_
      simp [program, Call.serve, running, stepped, served, suspended]

/-- A pool without requests has no transaction under way. -/
theorem free_of_idle
    (outline
      : Program.Holds (fun system => Valid sha256 system.store ∧ Linked system.store)
          (fun system index slot => CallHolds sha256 system.store index slot) pool)
    (idle : ∀ call ∈ pool.threads, call.request = none)
    : Free pool.shared.store := by
  have served (owner : Nat) : Served sha256 pool.shared.store owner none := by
    have slot := outline.2 owner
    cases found : pool.threads[owner]? with
    | none =>
        rw [found] at slot
        exact slot
    | some call =>
        rw [found] at slot
        exact idle call (List.mem_of_getElem? found) ▸ slot.1
  refine ⟨fun k => ?_, fun k => ?_, outline.1.2.sessions⟩
  · cases held : pool.shared.store.refreshTokens.holder k with
    | none => rfl
    | some owner => exact absurd held ((served owner).1.holder k)
  · cases held : pool.shared.store.sessions.holder k with
    | none => rfl
    | some owner => exact False.elim ((served owner).2.sessions k held)

/-- The silent refresh succeeds with a usable token when all calls have ended. -/
theorem initAuth_succeeds {refreshToken : RawToken} {token : RefreshTokenRow}
    {session : SessionRow} {attempt : Attempt}
    (outline
      : Program.Holds (fun system => Valid sha256 system.store ∧ Linked system.store)
          (fun system index slot => CallHolds sha256 system.store index slot) pool)
    (idle : ∀ call ∈ pool.threads, call.request = none)
    (stored : pool.shared.storage.refreshToken = some refreshToken)
    (usable : Usable sha256 pool.shared.store refreshToken token session)
    (inTime : attempt.InTime sha256 pool.shared.store token session)
    : Succeeds sha256 pool pool.threads.length
        (AuthProvider.initAuth pool.threads.length attempt) := by
  let arrived : Call := { purpose := .initAuth, stage := .refreshAuthToken }
  let waiting : Call :=
    {
      arrived with
      stage := .refreshing refreshToken
      request := some (.refresh refreshToken (.rotating .begin))
    }
  let presented : System :=
    {
      pool.shared with
      store :=
        { pool.shared.store with digests := sha256 refreshToken :: pool.shared.store.digests }
      presented := pool.shared.presented ++ [(pool.threads.length, refreshToken)]
    }
  have free := free_of_idle outline idle
  have seen : sha256 refreshToken ∈ pool.shared.store.digests :=
    usable.presented ▸
      (outline.1.1.knownTokens token (List.mem_append_left _ usable.member)).2.2.1
  have started
      : (Sessions.program sha256).start pool.threads.length pool.shared.store
          (.refresh refreshToken (.rotating .begin))
        = some presented.store :=
    rfl
  have slot := outline.2 pool.threads.length
  rw [List.getElem?_eq_none (Nat.le_refl _)] at slot
  have valid : Valid sha256 presented.store :=
    (ownership_outline.start outline.1 slot started).1.1
  have free' : Free presented.store := ⟨free.tokens, free.sessions, free.inserted⟩
  have usable' : Usable sha256 presented.store refreshToken token session :=
    ⟨usable.member, usable.presented, usable.unused, usable.active, usable.named,
      usable.unrevoked⟩
  -- the server answers the presented token with new ones
  obtain ⟨store', tokens, ran⟩ :
      ∃ store' tokens,
        (Sessions.program sha256).alone pool.threads.length presented.store
            (.refresh refreshToken (.rotating .begin)) attempt.inputs
          = some (store', .refresh refreshToken (.returned tokens)) :=
    refresh_alone valid free' usable' (inTime.present seen)
  have running : waiting.request = some (.refresh refreshToken (.rotating .begin)) := rfl
  obtain ⟨system', call', served, answered, stage⟩ := serve_alone running ran
  have there : (pool.threads ++ [waiting])[pool.threads.length]? = some waiting := by simp
  have beginning
      : (machine sha256).exec pool [
            .start arrived,
            .step pool.threads.length (.tab true false)
          ]
        = some ⟨presented, pool.threads ++ [waiting]⟩ := by
    simp [Machine.exec_cons, Program.move, program, Call.run, arrived, Purpose.entry, stored,
      Request.start, waiting, presented]
  have middle
      : (machine sha256).exec ⟨presented, pool.threads ++ [waiting]⟩
            ((attempt.inputs.map Event.server).map (Move.step pool.threads.length))
        = some ⟨system', (pool.threads ++ [waiting]).set pool.threads.length call'⟩ :=
    (program sha256).exec_alone System.empty there served
  have ending
      : (program sha256).step pool.threads.length (.tab true false) system' call'
        = some (
            { system' with storage := ⟨none, none⟩ },
            call'.settle (.refreshed true)) := by
    simp [program, Call.run, stage, waiting, refreshAuthToken, answered, refresh_decodes]
  have answeredThere
      : ((pool.threads ++ [waiting]).set pool.threads.length call')[pool.threads.length]?
        = some call' := by
    simp
  refine ⟨⟨{ system' with storage := ⟨none, none⟩ },
    ((pool.threads ++ [waiting]).set pool.threads.length call').set pool.threads.length
      (call'.settle (.refreshed true))⟩, call'.settle (.refreshed true), ?_, by simp, rfl⟩
  rw [AuthProvider.initAuth, Machine.exec_append, Machine.exec_append, beginning,
    Option.bind_some, middle, Option.bind_some, Machine.exec_cons, Program.machine_step,
    Program.move, answeredThere, Option.bind_some, ending]
  rfl

-----------------------------------------------------------------------------------------
-- One call at a time
-----------------------------------------------------------------------------------------

/-- Nothing is left to say about a call that waits for no request. -/
theorem Call.InOrder.of_quiet (quiet : call.request = none) : call.InOrder sha256 system where
  quiet := fun _ => quiet
  reached := fun userId stage running => by simp [quiet] at running
  signed := fun request tokens running => by simp [quiet] at running

theorem finish_request : (call.finish system).2.request = call.request := by
  unfold Call.finish
  split
  · rfl
  · rfl

theorem apiFetch_request {unauthorized : Bool}
    (ran : apiFetch system call unauthorized = some (system', call'))
    : call'.request = none := by
  have finished {waiting : Call} (quiet : waiting.request = none)
      (same : waiting.finish system = (system', call'))
      : call'.request = none := by
    have kept : (waiting.finish system).2.request = waiting.request := finish_request
    rw [same] at kept
    exact kept.trans quiet
  unfold apiFetch at ran
  split at ran
  · rename_i quiet
    split at ran
    · cases ran
      rfl
    · exact finished quiet (Option.some.inj ran)
  · exact finished rfl (Option.some.inj ran)
  · exact finished rfl (Option.some.inj ran)
  · cases ran

theorem login_request (ran : AuthProvider.login system call = some (system', call'))
    : call'.request = none := by
  unfold AuthProvider.login at ran
  split at ran
  · cases ran
    rfl
  · cases ran
    rfl
  · cases ran
    rfl
  · cases ran

theorem refreshAuthToken_request (ran : refreshAuthToken system call = some (system', call'))
    : call'.request = none := by
  unfold refreshAuthToken at ran
  split at ran
  · cases ran
    rfl
  · cases ran
    rfl
  · cases ran

/-- A call that runs on in the tab has a request only if it has just sent it. -/
theorem run_request {passes unauthorized : Bool} (coherent : call.Coherent)
    (inOrder : call.InOrder sha256 system)
    (ran : call.run sha256 index passes unauthorized system = some (system', call'))
    : call'.request = none
      ∨ (call'.stage = .responding ∨ call'.stage = .retrying)
        ∧ call'.request = call.fetch system passes
      ∨ ∃ token,
          call'.stage = .refreshing token
          ∧ call'.request = some (.refresh token (.rotating .begin)) := by
  cases stage : call.stage with
  | apiFetch =>
      simp only [Call.run, stage] at ran
      cases ran
      exact Or.inr (Or.inl ⟨Or.inl rfl, rfl⟩)
  | responding =>
      simp only [Call.run, stage] at ran
      split at ran
      · exact Or.inl (login_request ran)
      · exact Or.inl (apiFetch_request ran)
  | refreshAuthToken =>
      simp only [Call.run, stage] at ran
      split at ran
      · cases ran
        exact Or.inl (coherent.idle (Or.inr (Or.inl stage)))
      · cases ran
        exact Or.inr (Or.inr ⟨_, rfl, rfl⟩)
  | refreshing token =>
      simp only [Call.run, stage] at ran
      exact Or.inl (refreshAuthToken_request ran)
  | refreshed result =>
      cases result with
      | true =>
          simp only [Call.run, stage] at ran
          split at ran
          · cases ran
            exact Or.inl (coherent.idle (Or.inr (Or.inr stage)))
          · cases ran
            exact Or.inr (Or.inl ⟨Or.inr rfl, rfl⟩)
      | false =>
          simp only [Call.run, stage] at ran
          have kept : (call.finish system).2.request = call.request := finish_request
          rw [Option.some.inj ran] at kept
          exact Or.inl (kept.trans (inOrder.quiet (Or.inr stage)))
  | retrying =>
      simp only [Call.run, stage] at ran
      exact Or.inl (apiFetch_request ran)
  | resolved => simp [Call.run, stage] at ran
  | rejected => simp [Call.run, stage] at ran

/-- The tab's part of a call keeps it in order: a request just sent has reached nothing. -/
theorem run_inOrder {passes unauthorized : Bool} (coherent : call.Coherent)
    (inOrder : call.InOrder sha256 system)
    (ran : call.run sha256 index passes unauthorized system = some (system', call'))
    : call'.InOrder sha256 system' := by
  rcases run_request coherent inOrder ran with quiet | ⟨waiting, sent⟩ | ⟨token, waiting, sent⟩
  · exact .of_quiet quiet
  · have fresh {request : Request} (running : call'.request = some request) :=
      fetch_eq (sent.symm.trans running)
    refine ⟨fun finished => ?_, fun userId stage running => ?_,
      fun request tokens running => ?_⟩
    · rcases waiting with waiting | waiting
      · simp [Call.ended, waiting] at finished
      · simp [Call.ended, waiting] at finished
    · rcases fresh running with ⟨_, same⟩ | ⟨_, same⟩
      · cases same
        trivial
      · cases same
    · rcases fresh running with ⟨_, same⟩ | ⟨_, same⟩
      · simp [same, Request.returned]
      · simp [same, Request.returned]
  · refine ⟨fun finished => ?_, fun userId stage running => ?_,
      fun request tokens running => ?_⟩
    · simp [Call.ended, waiting] at finished
    · simp [sent] at running
    · simp only [sent, Option.some.injEq] at running
      simp [← running, Request.returned]

/-- The server's part of a call keeps it in order: a login goes on by itself, and tokens are
returned when their access token is signed. -/
theorem serve_inOrder {input : Input} (valid : Valid sha256 system.store)
    (inOrder : call.InOrder sha256 system)
    (ran : call.serve sha256 index input system = some (system', call'))
    : call'.InOrder sha256 system' := by
  obtain ⟨request, running, stepped⟩ := Option.bind_eq_some_iff.mp ran
  obtain ⟨⟨store, request'⟩, served, same⟩ := Option.map_eq_some_iff.mp stepped
  cases same
  refine ⟨fun finished => ?_, fun userId stage' answered => ?_,
    fun answer tokens answered returned => ?_⟩
  · rw [inOrder.quiet finished] at running
    cases running
  · obtain ⟨later, own⟩ := program_step_some served
    cases Option.some.inj answered
    obtain ⟨stage, rfl, issued⟩ := step_login own
    exact issueTokens_reached (tick_kept index valid later).1
      ((inOrder.reached userId stage running).of_rows rfl rfl) issued
  · cases Option.some.inj answered
    simp [returned]

/-- A call that has ended goes no further. -/
theorem step_not_ended (inOrder : call.InOrder sha256 system)
    (ran : (program sha256).step index event system call = some (system', call'))
    : call.ended = false := by
  cases finished : call.ended with
  | false => rfl
  | true =>
      have quiet := inOrder.quiet (Or.inl finished)
      cases stage : call.stage <;> simp [Call.ended, stage] at finished
      all_goals
        cases event with
        | tab passes unauthorized => simp [program, Call.run, stage] at ran
        | server input => simp [program, Call.serve, quiet] at ran
        | networkError => simp [program, Call.networkError, stage] at ran

/-- All calls but the last have ended. -/
theorem InOrder.ended_of_ne (inOrder : InOrder sha256 pool) {place : Nat}
    (last : index + 1 = pool.threads.length) (there : pool.threads[place]? = some call)
    (different : place ≠ index)
    : call.ended = true := by
  cases ended : call.ended with
  | true => rfl
  | false =>
      have alsoLast := inOrder.last place call there ended
      omega

/-- Every move of a tab that makes its calls one at a time keeps the order: the last call is
the only one that moves. -/
theorem InOrder.move {move : Move Call Event} (inOrder : InOrder sha256 pool)
    (alone : OneAtATime pool move) (moved : (program sha256).move pool move = some next)
    : InOrder sha256 next := by
  have outline := call_outline.move inOrder.outline moved
  have ended {call : Call} (member : call ∈ pool.threads) (finished : call.ended = true)
      : call.InOrder sha256 next.shared :=
    .of_quiet ((inOrder.calls call member).quiet (Or.inl finished))
  cases move with
  | start call =>
      obtain ⟨started, threads⟩ := (program sha256).move_start_some moved
      obtain ⟨_, _, quiet, _⟩ := arrives started
      refine ⟨outline, fun other member => ?_, fun index other found unfinished => ?_⟩
      · rw [threads] at member
        rcases List.mem_append.mp member with old | new
        · exact ended old (alone other old)
        · exact List.mem_singleton.mp new ▸ .of_quiet quiet
      · rw [threads] at found ⊢
        rcases Nat.lt_or_ge index pool.threads.length with earlier | later
        · rw [List.getElem?_append_left earlier] at found
          rw [alone other (List.mem_of_getElem? found)] at unfinished
          cases unfinished
        · have bound := (List.getElem?_eq_some_iff.mp found).1
          rw [List.length_append, List.length_singleton] at bound ⊢
          omega
  | step index event =>
      obtain ⟨call, call', found, ran, threads⟩ := (program sha256).move_step_some moved
      have own := inOrder.calls call (List.mem_of_getElem? found)
      have holds := inOrder.outline.2 index
      rw [found] at holds
      have last := inOrder.last index call found (step_not_ended own ran)
      have own' : call'.InOrder sha256 next.shared := by
        cases event with
        | tab passes unauthorized => exact run_inOrder holds.2 own ran
        | server input => exact serve_inOrder inOrder.outline.1.1 own ran
        | networkError => exact False.elim alone
      refine ⟨outline, fun other member => ?_, fun place other there unfinished => ?_⟩
      · obtain ⟨place, there⟩ := List.mem_iff_getElem?.mp member
        rw [threads] at there
        by_cases same : place = index
        · rw [same, List.getElem?_set_self (List.getElem?_eq_some_iff.mp found).1] at there
          exact Option.some.inj there ▸ own'
        · rw [List.getElem?_set_ne (Ne.symm same)] at there
          exact ended (List.mem_of_getElem? there) (inOrder.ended_of_ne last there same)
      · rw [threads] at there ⊢
        rw [List.length_set]
        by_cases same : place = index
        · omega
        · rw [List.getElem?_set_ne (Ne.symm same)] at there
          exact inOrder.last place other there unfinished

theorem InOrder.init : InOrder sha256 (machine sha256).init where
  outline := .init ⟨Valid.empty, Linked.empty⟩ (fun index => .empty index)
  calls := fun call member => by simp [machine, Program.machine] at member
  last := fun index call found => by simp [machine, Program.machine] at found

-----------------------------------------------------------------------------------------
-- What the client believes
-----------------------------------------------------------------------------------------

/-- The tab comes to believe in a call either because its login is answered, which stores the
tokens, or because its refresh is, which removes both. -/
theorem Happens.believes_cases (coherent : call.Coherent) (unfinished : call.ended = false)
    (happens : Happens sha256 index system call system' call')
    (believes : call'.believes = true)
    : call.refreshAnswered = true ∧ system'.storage = ⟨none, none⟩
      ∨ ∃ userId tokens,
          call.request = some (.login userId (.returned tokens))
          ∧ system' = {
              system with
              storage := ⟨some ⟨tokens.accessToken, call.servedAt⟩, some tokens.refreshToken⟩
            }
          ∧ call' = call.settle .resolved := by
  cases happens with
  | served running ran =>
      unfold Call.believes at believes
      split at believes
      · rename_i stage
        rw [coherent.idle (Or.inr (Or.inr stage))] at running
        cases running
      · rename_i stage _
        simp only at stage
        simp [Call.ended, stage] at unfinished
      · cases believes
  | sent passes quiet from_ =>
      rcases from_ with ⟨_, rfl⟩ | ⟨_, rfl⟩
      · simp [Call.believes] at believes
      · simp [Call.believes] at believes
  | presented reading stored => simp [Call.believes] at believes
  | loggedIn waiting purpose answered => exact Or.inr ⟨_, _, answered, rfl, rfl⟩
  | refreshed waiting answered =>
      exact Or.inl ⟨by simp [Call.refreshAnswered, waiting, answered], rfl⟩
  | cleared aside =>
      rw [aside.believes] at believes
      cases believes
  | stayed was aside =>
      rw [aside.believes] at believes
      cases believes

/-- An answered refresh makes `refreshAuthToken` return true, with no token left. -/
theorem refreshAnswered_step (answered : call.refreshAnswered = true)
    (delivered : event ≠ .networkError)
    (ran : (program sha256).step index event system call = some (system', call'))
    : call'.believes = true ∧ system'.storage = ⟨none, none⟩ := by
  unfold Call.refreshAnswered at answered
  split at answered
  · rename_i stage request
    cases event with
    | tab passes unauthorized =>
        simp only [program, Call.run, stage, refreshAuthToken, request] at ran
        cases ran
        exact ⟨rfl, refresh_decodes _ _ _⟩
    | server input =>
        simp [program, Call.serve, request, Sessions.program, Request.step,
          AuthService.refresh] at ran
    | networkError => exact absurd rfl delivered
  · cases answered

/-- After a login, client and server agree. -/
theorem login_agrees {userId : Uuid} {tokens : AuthTokens} (inOrder : InOrder sha256 next)
    (own : call.InOrder sha256 system)
    (answered : call.request = some (.login userId (.returned tokens)))
    (shared
      : next.shared = {
          system with
          storage := ⟨some ⟨tokens.accessToken, call.servedAt⟩, some tokens.refreshToken⟩
        })
    (ended : ∀ call ∈ next.threads, call.ended = true)
    : Agrees sha256 next := by
  obtain ⟨token, session, current, same⟩ := own.reached userId _ answered
  have current' : Current sha256 next.shared.store tokens.refreshToken token session := by
    rw [shared]
    exact current
  refine ⟨⟨tokens.accessToken, call.servedAt⟩, tokens.refreshToken, token, session, {
    stored := by rw [shared]
    signed := by
      rw [shared]
      exact own.signed _ tokens answered rfl
    current := current'
    sameSession := same
    refreshes := fun attempt inTime => ?_
  }⟩
  refine initAuth_succeeds inOrder.outline (fun other member => ?_) ?_ current'.usable inTime
  · exact (inOrder.calls other member).quiet (Or.inl (ended other member))
  · rw [shared]

/-- A step after which the client believes that it is authenticated leaves client and server in
agreement exactly if it is not the step of an answered refresh. -/
theorem believed_agrees_iff {taken : Taken (Pool System Call) (Move Call Event)}
    (inOrder : InOrder sha256 taken.before) (alone : OneAtATime taken.before taken.action)
    (moved : (program sha256).move taken.before taken.action = some taken.after)
    : (Believed taken → Agrees sha256 taken.after)
      ↔ NoRefreshAnswered taken.before taken.action := by
  have inOrder' := inOrder.move alone moved
  obtain ⟨before, action, after⟩ := taken
  cases action with
  | start call => exact iff_of_true (fun believed => False.elim believed) trivial
  | step index event =>
      obtain ⟨call, call', found, ran, threads⟩ := (program sha256).move_step_some moved
      have own := inOrder.calls call (List.mem_of_getElem? found)
      have holds := inOrder.outline.2 index
      rw [found] at holds
      have unfinished := step_not_ended own ran
      have there : after.threads[index]? = some call' := by
        rw [threads]
        exact List.getElem?_set_self (List.getElem?_eq_some_iff.mp found).1
      have delivered : event ≠ .networkError := by
        rintro rfl
        exact alone
      constructor
      · intro agrees other found'
        cases Option.some.inj (found.symm.trans found')
        cases answered : call.refreshAnswered with
        | false => rfl
        | true =>
            obtain ⟨believes, storage⟩ := refreshAnswered_step answered delivered ran
            obtain ⟨_, _, _, _, agreed⟩ := agrees ⟨call', there, believes⟩
            have stored := agreed.stored
            simp only at stored
            rw [storage] at stored
            cases stored
      · rintro unanswered ⟨other, found', believes⟩
        cases Option.some.inj (there.symm.trans found')
        rcases (step_happens holds.2 ran).believes_cases holds.2 unfinished believes with
          ⟨answered, _⟩ | ⟨userId, tokens, answered, shared, settled⟩
        · rw [unanswered call found] at answered
          cases answered
        · refine login_agrees inOrder' own answered shared (fun other member => ?_)
          obtain ⟨place, there'⟩ := List.mem_iff_getElem?.mp member
          have last : index + 1 = after.threads.length := by
            rw [threads, List.length_set]
            exact inOrder.last index call found unfinished
          by_cases same : place = index
          · -- the call that could be unfinished has just resolved
            rw [same, there] at there'
            cases Option.some.inj there'
            rw [settled]
            rfl
          · exact inOrder'.ended_of_ne last there' same

/-- The tokens of client and server, for every sequence of calls made one at a time with every
response delivered: they agree after all steps after which the client believes that it is
authenticated exactly if no refresh is answered with new tokens, so that each of these steps
is the end of a login.
-/
theorem client_agrees {moves : List (Move Call Event)}
    (alone : (machine sha256).Along OneAtATime (machine sha256).init moves)
    (run : (machine sha256).Reaches moves pool)
    : (∀ taken ∈ (machine sha256).taken (machine sha256).init moves,
          Believed taken → Agrees sha256 taken.after)
      ↔ (machine sha256).Along NoRefreshAnswered (machine sha256).init moves := by
  rw [(machine sha256).along_iff_taken run]
  have each {taken : Taken (Pool System Call) (Move Call Event)}
      (member : taken ∈ (machine sha256).taken (machine sha256).init moves) := by
    obtain ⟨inOrder, meets, moved⟩ :=
      alone.of_taken (InOrder sha256) (fun inOrder meets moved => inOrder.move meets moved)
        InOrder.init run member
    exact believed_agrees_iff inOrder meets moved
  exact forall₂_congr (fun taken member => each member)

end

/-- What a refresh right after `loginOnce` is supplied with. -/
def refreshOnce : Attempt := ⟨4, 4, 4, 12, 13⟩

theorem client_agrees_login
    : (∃ taken ∈ (machine id).taken (machine id).init loginOnce, Believed taken)
      ∧ ∀ taken ∈ (machine id).taken (machine id).init loginOnce,
          Believed taken → Agrees id taken.after := by
  have alone : (machine id).Along OneAtATime (machine id).init loginOnce := by decide
  have run : (machine id).Reaches loginOnce (tabAfter loginOnce) := rfl
  exact ⟨by decide, (client_agrees alone run).mpr (by decide)⟩

/-- A login and one silent refresh of its token: `refreshAuthToken` has returned true, but the
tab has no token left, although the server has signed an access token and keeps an unused
refresh token for it. -/
theorem client_disagrees_refresh
    : let moves := loginOnce ++ AuthProvider.initAuth 1 refreshOnce
      (machine id).Along OneAtATime (machine id).init moves
      ∧ (machine id).Reaches moves (tabAfter moves)
      ∧ (tabAfter moves).threads.map Call.believes = [true, true]
      ∧ (tabAfter moves).shared.storage = ⟨none, none⟩
      ∧ (tabAfter moves).shared.lastSigned = some ⟨⟨100, 1⟩, 4⟩
      ∧ ((tabAfter moves).shared.store.family 3).map RefreshTokenRow.isUsed = [true, false]
      ∧ ¬ ∀ taken ∈ (machine id).taken (machine id).init moves,
            Believed taken → Agrees id taken.after := by
  refine ⟨by decide, rfl, by decide, by decide, by decide, by decide, fun agrees => ?_⟩
  have last
      : ∃ taken ∈ (machine id).taken (machine id).init
            (loginOnce ++ AuthProvider.initAuth 1 refreshOnce),
          Believed taken ∧ taken.after.shared.storage = ⟨none, none⟩ := by
    decide
  obtain ⟨taken, member, believed, storage⟩ := last
  obtain ⟨_, _, _, _, agreed⟩ := agrees taken member believed
  have stored := agreed.stored
  rw [storage] at stored
  cases stored

end NexusComms.Browser
