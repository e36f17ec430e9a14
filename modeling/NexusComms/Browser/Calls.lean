import NexusComms.Browser.Client

/-! What one event does to a call of the tab, said once for all stages. The server's part of
every call keeps the outline of the session store.
-/

namespace NexusComms.Browser

open Sessions Concurrency

/-- The response to a login holds the tokens where `AuthProvider.login` looks for them. -/
theorem login_decodes (storage : ClientStorage) (accessToken : AccessToken)
    (refreshToken : RawToken)
    : let data :=
        ResponseInterceptor.intercept (some (AuthController.login accessToken refreshToken))
      (storage.setAccessToken (Json.get "accessToken" (Json.get "data" data))).setRefreshToken
          (Json.get "refreshToken" (Json.get "data" data))
        = ⟨some accessToken, some refreshToken⟩ :=
  rfl

/-- The envelope around the response to a refresh has none of the fields that
`refreshAuthToken` reads, so both tokens are removed. -/
theorem refresh_decodes (storage : ClientStorage) (accessToken : AccessToken)
    (refreshToken : RawToken)
    : let data :=
        ResponseInterceptor.intercept (some (AuthController.refresh accessToken refreshToken))
      (storage.setAccessToken (Json.get "accessToken" data)).setRefreshToken
          (Json.get "refreshToken" data)
        = ⟨none, none⟩ :=
  rfl

theorem clear_eq (storage : ClientStorage) : storage.clear = ⟨none, none⟩ := rfl

/-- A call waits in the tab for the request that the server handles for it, and a login goes
through no refresh. A request may go on after its call has given up, but no new one starts
beside it. -/
structure Call.Coherent (call : Call) : Prop where
  idle
    : call.stage = .apiFetch ∨ call.stage = .refreshAuthToken ∨ call.stage = .refreshed true →
        call.request = none
  refreshing
    : ∀ token, call.stage = .refreshing token →
        ∃ stage, call.request = some (.refresh token stage)
  responding
    : call.stage = .responding ∨ call.stage = .retrying →
        ∀ token stage, call.request ≠ some (.refresh token stage)
  login
    : ∀ userId, call.purpose = .login userId →
        call.stage = .apiFetch ∨ call.stage = .responding ∨ call.stage = .resolved
          ∨ call.stage = .rejected

/-- The tab holds the call to be authenticated: a login has resolved, or `refreshAuthToken`
has returned true. -/
def Call.believes (call : Call) : Bool :=
  match call.stage, call.purpose with
  | .refreshed true, _ => true
  | .resolved, .login _ => true
  | _, _ => false

/-- The server has no transaction open for the call: it does nothing for it, or runs a login
or a logout, or has refused a refresh. -/
def Call.Answered (call : Call) : Prop :=
  ∀ request ∈ call.request,
    (∃ userId stage, request = .login userId stage)
    ∨ (∃ sessionId stage, request = .logout sessionId stage)
    ∨ ∃ token message, request = .refresh token (.threw message)

/-- The call goes on without tokens: it fails, asks for a refresh, or has nothing to do with
a login and hands over what it has. -/
structure Call.Aside (call call' : Call) : Prop where
  purpose : call'.purpose = call.purpose
  request : call'.request = call.request ∨ call.Answered ∧ call'.request = none
  stage
    : call'.stage = .rejected
      ∨ (∀ userId, call.purpose ≠ .login userId)
        ∧ (call'.stage = .refreshAuthToken ∧ call'.request = none
          ∨ call'.stage = .refreshed false
          ∨ call'.stage = .resolved)

/-- All that one event can do to the call `index` and the system. -/
inductive Happens (sha256 : RawToken → Digest) (index : Nat) (system : System) (call : Call)
    : System → Call → Prop where
  | served {input : Input} {request request' : Request} {store : Store}
      (running : call.request = some request)
      (ran
        : (Sessions.program sha256).step index input system.store request
          = some (store, request'))
      : Happens sha256 index system call
          {
            system with
            store := store
            lastSigned :=
              (request'.returned.map
                (fun tokens => ⟨tokens.accessToken, input.appNow⟩)).or system.lastSigned
            issued := system.issued ++ (drawn request').map (fun token => (index, token))
          }
          { call with request := some request', servedAt := input.appNow }
  | sent {stage : ClientStage} (passes : Bool) (quiet : call.request = none)
      (from_
        : call.stage = .apiFetch ∧ stage = .responding
          ∨ call.stage = .refreshed true ∧ stage = .retrying)
      : Happens sha256 index system call system
          { call with stage := stage, request := call.fetch system passes }
  | presented {token : RawToken} (reading : call.stage = .refreshAuthToken)
      (stored : system.storage.refreshToken = some token)
      : Happens sha256 index system call
          {
            system with
            store :=
              { system.store with digests := sha256 token :: system.store.digests }
            presented := system.presented ++ [(index, token)]
          }
          {
            call with
            stage := .refreshing token
            request := some (.refresh token (.rotating .begin))
          }
  | loggedIn {userId user : Uuid} {tokens : AuthTokens} (waiting : call.stage = .responding)
      (purpose : call.purpose = .login user)
      (answered : call.request = some (.login userId (.returned tokens)))
      : Happens sha256 index system call
          {
            system with
            storage :=
              ⟨some ⟨tokens.accessToken, call.servedAt⟩, some tokens.refreshToken⟩
          }
          (call.settle .resolved)
  | refreshed {token raw : RawToken} {tokens : AuthTokens}
      (waiting : call.stage = .refreshing token)
      (answered : call.request = some (.refresh raw (.returned tokens)))
      : Happens sha256 index system call { system with storage := ⟨none, none⟩ }
          (call.settle (.refreshed true))
  | cleared {call' : Call} (aside : call.Aside call')
      : Happens sha256 index system call { system with storage := ⟨none, none⟩ } call'
  | stayed {call' : Call} (was : ∀ token, call.stage ≠ .refreshing token)
      (aside : call.Aside call')
      : Happens sha256 index system call system call'

section

variable {sha256 : RawToken → Digest} {index : Nat} {system system' : System}
  {call call' : Call} {event : Event}

/-- A caller that goes on without a result. -/
theorem finish_happens (was : ∀ token, call.stage ≠ .refreshing token)
    (noLogin : ∀ userId, call.purpose ≠ .login userId) (waiting : Call)
    (purpose : waiting.purpose = call.purpose)
    (request : waiting.request = call.request ∨ call.Answered ∧ waiting.request = none)
    (finished : waiting.finish system = (system', call'))
    : Happens sha256 index system call system' call' := by
  have aside : call.Aside { waiting with stage := .resolved } :=
    ⟨purpose, request, Or.inr ⟨noLogin, Or.inr (Or.inr rfl)⟩⟩
  unfold Call.finish at finished
  split at finished
  · cases finished
    rw [clear_eq]
    exact .cleared aside
  · cases finished
    exact .stayed was aside

/-- `AuthProvider.login` from the response on: the tokens are stored, or it throws. -/
theorem login_happens {user : Uuid} (waiting : call.stage = .responding)
    (purpose : call.purpose = .login user)
    (ran : AuthProvider.login system call = some (system', call'))
    : Happens sha256 index system call system' call' := by
  have was (token : RawToken) : call.stage ≠ .refreshing token := by simp [waiting]
  have aside (answered : call.Answered) : call.Aside (call.settle .rejected) :=
    ⟨rfl, Or.inr ⟨answered, rfl⟩, Or.inl rfl⟩
  unfold AuthProvider.login at ran
  split at ran
  · rename_i none
    cases ran
    exact .stayed was (aside (by simp [Call.Answered, none]))
  · rename_i answered
    cases ran
    rw [login_decodes]
    exact .loggedIn waiting purpose answered
  · rename_i threw
    cases ran
    exact .stayed was (aside (by simp [Call.Answered, threw]))
  · cases ran

/-- `refreshAuthToken` from the response on: no token is left, whatever the answer is. -/
theorem refresh_happens {token : RawToken} (waiting : call.stage = .refreshing token)
    (noLogin : ∀ userId, call.purpose ≠ .login userId)
    (ran : refreshAuthToken system call = some (system', call'))
    : Happens sha256 index system call system' call' := by
  unfold refreshAuthToken at ran
  split at ran
  · rename_i answered
    cases ran
    rw [refresh_decodes]
    exact .refreshed waiting answered
  · rename_i threw
    cases ran
    rw [clear_eq]
    exact .cleared
      ⟨rfl, Or.inr ⟨by simp [Call.Answered, threw], rfl⟩, Or.inr ⟨noLogin, Or.inr (Or.inl rfl)⟩⟩
  · cases ran

/-- `apiFetch` from a response on: it asks for a refresh, or hands the response over. -/
theorem apiFetch_happens {unauthorized : Bool}
    (was : ∀ token, call.stage ≠ .refreshing token)
    (noLogin : ∀ userId, call.purpose ≠ .login userId)
    (ran : apiFetch system call unauthorized = some (system', call'))
    : Happens sha256 index system call system' call' := by
  unfold apiFetch at ran
  split at ran
  · rename_i none
    split at ran
    · cases ran
      exact .stayed was
        ⟨rfl, Or.inr ⟨by simp [Call.Answered, none], rfl⟩,
          Or.inr ⟨noLogin, Or.inl ⟨rfl, rfl⟩⟩⟩
    · exact finish_happens was noLogin call rfl (Or.inl rfl) (Option.some.inj ran)
  · rename_i done
    exact finish_happens was noLogin (call.settle .responding) rfl
      (Or.inr ⟨by simp [Call.Answered, done], rfl⟩) (Option.some.inj ran)
  · rename_i threw
    exact finish_happens was noLogin (call.settle .responding) rfl
      (Or.inr ⟨by simp [Call.Answered, threw], rfl⟩) (Option.some.inj ran)
  · cases ran

/-- A call that is past the first response is no login. -/
theorem Call.Coherent.noLogin (coherent : call.Coherent)
    (later
      : call.stage ≠ .apiFetch ∧ call.stage ≠ .responding ∧ call.stage ≠ .resolved
        ∧ call.stage ≠ .rejected)
    (userId : Uuid)
    : call.purpose ≠ .login userId := by
  intro purpose
  rcases coherent.login userId purpose with first | answered | resolved | rejected
  · exact later.1 first
  · exact later.2.1 answered
  · exact later.2.2.1 resolved
  · exact later.2.2.2 rejected

/-- A call that runs on in the tab. -/
theorem run_happens {passes unauthorized : Bool} (coherent : call.Coherent)
    (ran : call.run sha256 index passes unauthorized system = some (system', call'))
    : Happens sha256 index system call system' call' := by
  cases stage : call.stage with
  | apiFetch =>
      simp only [Call.run, stage] at ran
      cases ran
      exact .sent passes (coherent.idle (Or.inl stage)) (Or.inl ⟨stage, rfl⟩)
  | responding =>
      simp only [Call.run, stage] at ran
      split at ran
      · rename_i purpose
        exact login_happens stage purpose ran
      · rename_i noLogin
        exact apiFetch_happens (by simp [stage]) (fun userId same => noLogin userId same) ran
  | refreshAuthToken =>
      simp only [Call.run, stage] at ran
      split at ran
      · cases ran
        exact .stayed (by simp [stage])
          ⟨rfl, Or.inl rfl, Or.inr ⟨coherent.noLogin (by simp [stage]), Or.inr (Or.inl rfl)⟩⟩
      · rename_i stored
        cases ran
        exact .presented stage stored
  | refreshing token =>
      simp only [Call.run, stage] at ran
      exact refresh_happens stage (coherent.noLogin (by simp [stage])) ran
  | refreshed result =>
      cases result with
      | true =>
          simp only [Call.run, stage] at ran
          split at ran
          · cases ran
            exact .stayed (by simp [stage])
              ⟨rfl, Or.inl rfl,
                Or.inr ⟨coherent.noLogin (by simp [stage]), Or.inr (Or.inr rfl)⟩⟩
          · cases ran
            exact .sent passes (coherent.idle (Or.inr (Or.inr stage))) (Or.inr ⟨stage, rfl⟩)
      | false =>
          simp only [Call.run, stage] at ran
          exact finish_happens (by simp [stage]) (coherent.noLogin (by simp [stage])) call rfl
            (Or.inl rfl) (Option.some.inj ran)
  | retrying =>
      simp only [Call.run, stage] at ran
      exact apiFetch_happens (by simp [stage]) (coherent.noLogin (by simp [stage])) ran
  | resolved => simp [Call.run, stage] at ran
  | rejected => simp [Call.run, stage] at ran

/-- A call whose `fetch` rejects. -/
theorem networkError_happens (coherent : call.Coherent)
    (ran : call.networkError system = some (system', call'))
    : Happens sha256 index system call system' call' := by
  unfold Call.networkError at ran
  split at ran
  · rename_i stage
    split at ran
    · cases ran
      exact .stayed (by simp [stage]) ⟨rfl, Or.inl rfl, Or.inl rfl⟩
    · rename_i noLogin
      exact finish_happens (by simp [stage]) (fun userId same => noLogin userId same) call rfl
        (Or.inl rfl) (Option.some.inj ran)
  · rename_i stage
    cases ran
    rw [clear_eq]
    exact .cleared
      ⟨rfl, Or.inl rfl, Or.inr ⟨coherent.noLogin (by simp [stage]), Or.inr (Or.inl rfl)⟩⟩
  · rename_i stage
    exact finish_happens (by simp [stage]) (coherent.noLogin (by simp [stage])) call rfl
      (Or.inl rfl) (Option.some.inj ran)
  · cases ran

/-- Every event does one of these things. -/
theorem step_happens (coherent : call.Coherent)
    (ran : (program sha256).step index event system call = some (system', call'))
    : Happens sha256 index system call system' call' := by
  cases event with
  | tab passes unauthorized => exact run_happens coherent ran
  | server input =>
      obtain ⟨request, running, stepped⟩ := Option.bind_eq_some_iff.mp ran
      obtain ⟨⟨store, request'⟩, served, same⟩ := Option.map_eq_some_iff.mp stepped
      cases same
      exact .served running served
  | networkError => exact networkError_happens coherent ran

-----------------------------------------------------------------------------------------
-- The outline of the session store, for the calls of the tab
-----------------------------------------------------------------------------------------

theorem Call.Aside.not_refreshing (aside : call.Aside call') (token : RawToken)
    : call'.stage ≠ .refreshing token := by
  rcases aside.stage with rejected | ⟨_, asks | failed | resolved⟩
  · simp [rejected]
  · simp [asks.1]
  · simp [failed]
  · simp [resolved]

/-- Nothing makes the tab believe in such a call. -/
theorem Call.Aside.believes (aside : call.Aside call') : call'.believes = false := by
  rcases aside.stage with rejected | ⟨noLogin, asks | failed | resolved⟩
  · simp [Call.believes, rejected]
  · simp [Call.believes, asks.1]
  · simp [Call.believes, failed]
  · cases purpose : call'.purpose with
    | login userId => exact absurd (aside.purpose.symm.trans purpose) (noLogin userId)
    | apiFetch => simp [Call.believes, resolved, purpose]
    | initAuth => simp [Call.believes, resolved, purpose]
    | logout => simp [Call.believes, resolved, purpose]

theorem Call.Aside.coherent (aside : call.Aside call') : call'.Coherent where
  idle := by
    rcases aside.stage with rejected | ⟨_, asks | failed | resolved⟩
    · simp [rejected]
    · exact fun _ => asks.2
    · simp [failed]
    · simp [resolved]
  refreshing := fun token waiting => absurd waiting (aside.not_refreshing token)
  responding := by
    rcases aside.stage with rejected | ⟨_, asks | failed | resolved⟩
    · simp [rejected]
    · simp [asks.1]
    · simp [failed]
    · simp [resolved]
  login := by
    intro userId purpose
    rcases aside.stage with rejected | ⟨noLogin, _⟩
    · simp [rejected]
    · exact absurd (aside.purpose.symm.trans purpose) (noLogin userId)

/-- A request that is served stays the same call of the server. -/
theorem refresh_served {input : Input} {request request' : Request} {store store' : Store}
    (ran
      : (Sessions.program sha256).step index input store request = some (store', request'))
    (token : RawToken)
    : (∃ stage, request = .refresh token stage)
      ↔ ∃ stage, request' = .refresh token stage := by
  have stepped := (program_step_some ran).2
  constructor
  · rintro ⟨stage, rfl⟩
    obtain ⟨⟨_, stage'⟩, _, same⟩ := Option.map_eq_some_iff.mp stepped
    cases same
    exact ⟨stage', rfl⟩
  · rintro ⟨stage', rfl⟩
    obtain ⟨stage, same, _⟩ := step_refresh stepped
    exact ⟨stage, same⟩

/-- What a `fetch` starts is no refresh. -/
theorem fetch_eq {passes : Bool} {request : Request}
    (sent : call.fetch system passes = some request)
    : (∃ userId, request = .login userId .createSession)
      ∨ ∃ sessionId, request = .logout sessionId .revoke := by
  unfold Call.fetch at sent
  split at sent
  · split at sent
    · exact Or.inl ⟨_, (Option.some.inj sent).symm⟩
    · obtain ⟨token, _, rfl⟩ := Option.map_eq_some_iff.mp sent
      exact Or.inr ⟨_, rfl⟩
    · cases sent
  · cases sent

theorem Happens.coherent (coherent : call.Coherent)
    (happens : Happens sha256 index system call system' call')
    : call'.Coherent := by
  cases happens with
  | served running ran =>
      refine ⟨fun early => ?_, fun token waiting => ?_, fun waiting token stage same => ?_,
        coherent.login⟩
      · rw [coherent.idle early] at running
        cases running
      · obtain ⟨stage, same⟩ := coherent.refreshing token waiting
        obtain ⟨stage', same'⟩ :=
          (refresh_served ran token).mp ⟨stage, Option.some.inj (running.symm.trans same)⟩
        exact ⟨stage', congrArg some same'⟩
      · obtain ⟨stage', before⟩ :=
          (refresh_served ran token).mpr ⟨stage, Option.some.inj same⟩
        exact coherent.responding waiting token stage' (before ▸ running)
  | sent passes quiet from_ =>
      refine ⟨?_, ?_, fun _ token stage same => ?_, ?_⟩
      · rcases from_ with ⟨_, rfl⟩ | ⟨_, rfl⟩
        · simp
        · simp
      · rcases from_ with ⟨_, rfl⟩ | ⟨_, rfl⟩
        · simp
        · simp
      · rcases fetch_eq same with ⟨_, login⟩ | ⟨_, logout⟩
        · cases login
        · cases logout
      · intro userId purpose
        rcases from_ with ⟨_, rfl⟩ | ⟨later, rfl⟩
        · simp
        · exact absurd purpose (coherent.noLogin (by simp [later]) userId)
  | presented reading stored =>
      refine ⟨by simp, fun token same => ?_, by simp, fun userId purpose => ?_⟩
      · cases same
        exact ⟨_, rfl⟩
      · exact absurd purpose (coherent.noLogin (by simp [reading]) userId)
  | loggedIn waiting purpose answered =>
      exact ⟨fun _ => rfl, by simp [Call.settle], by simp [Call.settle], by simp [Call.settle]⟩
  | refreshed waiting answered =>
      refine ⟨fun _ => rfl, by simp [Call.settle], by simp [Call.settle], ?_⟩
      exact fun userId purpose =>
        absurd purpose (coherent.noLogin (by simp [waiting]) userId)
  | cleared aside => exact aside.coherent
  | stayed was aside => exact aside.coherent

/-- The assertion of the server's part of a call. -/
abbrev Served (sha256 : RawToken → Digest) (store : Store) (index : Nat)
    (request : Option Request)
    : Prop :=
  SlotHolds sha256 store index request ∧ SlotConfined sha256 store index request

/-- The assertion of one call: that of its request, and coherence. -/
def CallHolds (sha256 : RawToken → Digest) (store : Store) (index : Nat)
    : Option Call → Prop
  | none => Served sha256 store index none
  | some call => Served sha256 store index call.request ∧ call.Coherent

/-- A request that has been answered holds nothing any more. -/
theorem Call.Answered.served {store : Store} (answered : call.Answered)
    (served : Served sha256 store index call.request)
    : Served sha256 store index none := by
  cases request : call.request with
  | none =>
      rw [request] at served
      exact served
  | some running =>
      rw [request] at served
      rcases answered running request with ⟨_, _, rfl⟩ | ⟨_, _, rfl⟩ | ⟨_, _, rfl⟩
      · exact ⟨served.1, served.2.1⟩
      · exact ⟨served.1, served.2.1⟩
      · exact ⟨served.1.2, served.2.1⟩

theorem Call.Aside.served {store : Store} (aside : call.Aside call')
    (served : Served sha256 store index call.request)
    : Served sha256 store index call'.request := by
  rcases aside.request with kept | ⟨answered, none⟩
  · rwa [kept]
  · rw [none]
    exact answered.served served

/-- A fresh login or logout has done nothing yet. -/
theorem fetch_served {store : Store} {passes : Bool}
    (idle : Served sha256 store index none)
    : Served sha256 store index (call.fetch system passes) := by
  cases request : call.fetch system passes with
  | none => exact idle
  | some request =>
      rcases fetch_eq request with ⟨userId, rfl⟩ | ⟨sessionId, rfl⟩
      · exact ⟨idle.1, idle.2, trivial⟩
      · exact ⟨idle.1, idle.2, trivial⟩

/-- What the server keeps for all requests it keeps for all calls. -/
theorem CallHolds.of_served {store store' : Store} {other : Nat} {slot : Option Call}
    (kept
      : ∀ request,
          Served sha256 store other request → Served sha256 store' other request)
    (holds : CallHolds sha256 store other slot)
    : CallHolds sha256 store' other slot := by
  cases slot with
  | none => exact kept none holds
  | some call => exact ⟨kept call.request holds.1, holds.2⟩

/-- Whatever happens to a call keeps the tables valid, establishes its next assertion and
leaves those of all other calls. -/
theorem Happens.kept (valid : Valid sha256 system.store ∧ Linked system.store)
    (holds : CallHolds sha256 system.store index (some call))
    (happens : Happens sha256 index system call system' call')
    : (Valid sha256 system'.store ∧ Linked system'.store)
      ∧ CallHolds sha256 system'.store index (some call')
      ∧ ∀ other slot,
          other ≠ index →
            CallHolds sha256 system.store other slot →
              CallHolds sha256 system'.store other slot := by
  have coherent' := happens.coherent holds.2
  cases happens with
  | served running ran =>
      obtain ⟨valid', own, others⟩ :=
        ownership_outline.step valid (running ▸ holds.1) ran
      exact ⟨valid', ⟨own, coherent'⟩, fun other slot different held =>
        held.of_served (fun request => others other request different)⟩
  | sent passes quiet from_ =>
      exact ⟨valid, ⟨fetch_served (quiet ▸ holds.1), coherent'⟩, fun _ _ _ held => held⟩
  | presented reading stored =>
      rename_i token
      have idle : Served sha256 system.store index none :=
        holds.2.idle (Or.inr (Or.inl reading)) ▸ holds.1
      have started
          : (Sessions.program sha256).start index system.store
              (.refresh token (.rotating .begin))
            = some { system.store with digests := sha256 token :: system.store.digests } :=
        rfl
      obtain ⟨valid', own, others⟩ := ownership_outline.start valid idle started
      exact ⟨valid', ⟨own, coherent'⟩, fun other slot different held =>
        held.of_served (fun request => others other request different)⟩
  | loggedIn waiting purpose answered =>
      have ended : call.Answered := by simp [Call.Answered, answered]
      exact ⟨valid, ⟨ended.served holds.1, coherent'⟩, fun _ _ _ held => held⟩
  | refreshed waiting answered =>
      have ended := holds.1
      rw [answered] at ended
      exact ⟨valid, ⟨⟨ended.1.2.1, ended.2.1⟩, coherent'⟩, fun _ _ _ held => held⟩
  | cleared aside =>
      exact ⟨valid, ⟨aside.served holds.1, coherent'⟩, fun _ _ _ held => held⟩
  | stayed was aside =>
      exact ⟨valid, ⟨aside.served holds.1, coherent'⟩, fun _ _ _ held => held⟩

/-- A call that arrives waits for nothing yet. -/
theorem arrives (started : (program sha256).start index system call = some system')
    : system' = system ∧ call.stage = call.purpose.entry ∧ call.request = none
      ∧ call.Coherent := by
  simp only [program] at started
  split at started
  · rename_i fresh
    refine ⟨(Option.some.inj started).symm, fresh.1, fresh.2, fun _ => fresh.2, ?_, ?_, ?_⟩
    · intro token waiting
      have entry := fresh.1
      rw [waiting] at entry
      unfold Purpose.entry at entry
      split at entry
      · cases entry
      · cases entry
    · intro _ token stage
      simp [fresh.2]
    · intro userId purpose
      rw [fresh.1, purpose]
      exact Or.inl rfl
  · cases started

/-- The tables stay valid and all assertions hold in every interleaving of calls. -/
theorem call_outline
    : (program sha256).Outline
        (fun system => Valid sha256 system.store ∧ Linked system.store)
        (fun system index slot => CallHolds sha256 system.store index slot) where
  start := by
    intro system system' index call valid idle started
    obtain ⟨rfl, _, none, coherent⟩ := arrives started
    exact ⟨valid, ⟨none ▸ idle, coherent⟩, fun _ _ _ holds => holds⟩
  step := by
    intro system system' index event call call' valid holds ran
    exact (step_happens holds.2 ran).kept valid holds

theorem CallHolds.empty (index : Nat) : CallHolds sha256 System.empty.store index none :=
  ⟨Idle.empty index, Confined.empty index⟩

end

end NexusComms.Browser
