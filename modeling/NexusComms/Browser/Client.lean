import NexusComms.Sessions.Isolation

/-! The tokens of one browser tab: `refreshAuthToken` and `apiFetch` with their callers in
`AuthProvider`, on top of the server's requests. A call is suspended at every `await`, and
the server at every statement. The API has another origin than the page, so `refreshAuthToken`
sends no cookies and the server takes the token from the body.
-/

namespace NexusComms.Browser

open Sessions Concurrency

/-- An access token: its payload and the time at which it was signed. -/
structure AccessToken where
  payload : JwtPayload
  iat : Time
deriving DecidableEq, Repr

-----------------------------------------------------------------------------------------
-- Responses
-----------------------------------------------------------------------------------------

/-- JSON values, as far as responses with tokens have them. -/
inductive Json where
  | bool (value : Bool)
  | accessToken (token : AccessToken)
  | refreshToken (token : RawToken)
  | object (fields : List (String × Json))

/-- `value.field`, where `none` is `undefined`. -/
def Json.get (field : String) : Option Json → Option Json
  | some (.object fields) =>
      (fields.find? (fun entry => entry.1 = field)).map (fun entry => entry.2)
  | _ => none

/-- `ResponseInterceptor.intercept`; without data there is no envelope. -/
def ResponseInterceptor.intercept : Option Json → Option Json
  | none => none
  | some data => some (.object [("success", .bool true), ("data", data)])

/-- What `AuthController.login` returns. -/
def AuthController.login (accessToken : AccessToken) (refreshToken : RawToken) : Json :=
  .object [
    ("accessToken", .accessToken accessToken),
    ("refreshToken", .refreshToken refreshToken)
  ]

/-- What `AuthController.refresh` returns. -/
def AuthController.refresh (accessToken : AccessToken) (refreshToken : RawToken) : Json :=
  .object [
    ("accessToken", .accessToken accessToken),
    ("refreshToken", .refreshToken refreshToken)
  ]

-----------------------------------------------------------------------------------------
-- The tab
-----------------------------------------------------------------------------------------

/-- What the tab keeps in `localStorage`. -/
structure ClientStorage where
  accessToken : Option AccessToken
  refreshToken : Option RawToken
deriving DecidableEq, Repr

/-- `setAccessToken`: `null` and `undefined` remove the token. -/
def ClientStorage.setAccessToken (storage : ClientStorage) : Option Json → ClientStorage
  | some (.accessToken token) => { storage with accessToken := some token }
  | _ => { storage with accessToken := none }

/-- `setRefreshToken`: `null` and `undefined` remove the token. -/
def ClientStorage.setRefreshToken (storage : ClientStorage) : Option Json → ClientStorage
  | some (.refreshToken token) => { storage with refreshToken := some token }
  | _ => { storage with refreshToken := none }

/-- Both tokens set to `null`. -/
def ClientStorage.clear (storage : ClientStorage) : ClientStorage :=
  (storage.setAccessToken none).setRefreshToken none

/-- Who calls the API: `apiFetch` of an endpoint that leaves the sessions alone, `initAuth`
with its silent refresh, or `login` and `logout` of `AuthProvider`. -/
inductive Purpose where
  | apiFetch
  | initAuth
  | login (userId : Uuid)
  | logout
deriving DecidableEq, Repr

/-- Where a call stands in the tab. -/
inductive ClientStage where
  | apiFetch
  | responding
  | refreshAuthToken
  | refreshing (refreshToken : RawToken)
  | refreshed (result : Bool)
  | retrying
  | resolved
  | rejected
deriving DecidableEq, Repr

/-- One call of the tab. `request` is what the server does for its last `fetch` as far as the
sessions are concerned, and `servedAt` the time of the server's last step.
-/
structure Call where
  purpose : Purpose
  stage : ClientStage
  request : Option Request := none
  servedAt : Time := 0
deriving DecidableEq, Repr

/-- Server and tab. The last three fields are history: the access token signed last, and the
refresh tokens that logins have drawn and that calls have presented, with their calls.
-/
structure System where
  store : Store
  storage : ClientStorage
  lastSigned : Option AccessToken
  issued : List (Nat × RawToken)
  presented : List (Nat × RawToken)

def System.empty : System := ⟨Store.empty, ⟨none, none⟩, none, [], []⟩

/-- The first stage of a call. -/
def Purpose.entry : Purpose → ClientStage
  | .initAuth => .refreshAuthToken
  | _ => .apiFetch

/-- What a `fetch` starts on the sessions. Whether the server lets the request through to the
handler is left open; `logout` is for the session of the token that it carries. -/
def Call.fetch (call : Call) (system : System) (passes : Bool) : Option Request :=
  if passes then
    match call.purpose with
    | .login userId => some (.login userId .createSession)
    | .logout =>
        system.storage.accessToken.map (fun token => .logout token.payload.sid .revoke)
    | _ => none
  else
    none

/-- The response has been read. -/
def Call.settle (call : Call) (stage : ClientStage) : Call :=
  { call with stage := stage, request := none }

/-- The caller goes on without a result; `logout` clears the storage in any case. -/
def Call.finish (call : Call) (system : System) : System × Call :=
  match call.purpose with
  | .logout =>
      ({ system with storage := system.storage.clear }, { call with stage := .resolved })
  | _ => (system, { call with stage := .resolved })

/-- `AuthProvider.login`, from the response on. -/
def AuthProvider.login (system : System) (call : Call) : Option (System × Call) :=
  match call.request with
  | none => some (system, call.settle .rejected)
  | some (.login _ (.returned tokens)) =>
      let data :=
        ResponseInterceptor.intercept
          (some
            (AuthController.login ⟨tokens.accessToken, call.servedAt⟩ tokens.refreshToken))
      let storage :=
        (system.storage.setAccessToken
            (Json.get "accessToken" (Json.get "data" data))).setRefreshToken
          (Json.get "refreshToken" (Json.get "data" data))
      some ({ system with storage := storage }, call.settle .resolved)
  | some (.login _ .threw) => some (system, call.settle .rejected)
  | _ => none

/-- `refreshAuthToken`, from the response on. -/
def refreshAuthToken (system : System) (call : Call) : Option (System × Call) :=
  match call.request with
  | some (.refresh _ (.returned tokens)) =>
      let data :=
        ResponseInterceptor.intercept
          (some
            (AuthController.refresh ⟨tokens.accessToken, call.servedAt⟩ tokens.refreshToken))
      let storage :=
        (system.storage.setAccessToken (Json.get "accessToken" data)).setRefreshToken
          (Json.get "refreshToken" data)
      some ({ system with storage := storage }, call.settle (.refreshed true))
  | some (.refresh _ (.threw _)) =>
      some ({ system with storage := system.storage.clear }, call.settle (.refreshed false))
  | _ => none

/-- `apiFetch`, from the first response on. -/
def apiFetch (system : System) (call : Call) (unauthorized : Bool) : Option (System × Call) :=
  match call.request with
  | none =>
      if unauthorized then
        some (system, call.settle .refreshAuthToken)
      else
        some (call.finish system)
  | some (.logout _ .done) => some ((call.settle .responding).finish system)
  | some (.logout _ .threw) => some ((call.settle .responding).finish system)
  | _ => none

/-- A call runs in the tab up to its next `await`. The status of a response that comes from
no handler of the sessions is left open. -/
def Call.run (sha256 : RawToken → Digest) (index : Nat) (passes unauthorized : Bool)
    (system : System) (call : Call)
    : Option (System × Call) :=
  match call.stage with
  | .apiFetch =>
      some (system, { call with stage := .responding, request := call.fetch system passes })
  | .responding =>
      match call.purpose with
      | .login _ => AuthProvider.login system call
      | _ => apiFetch system call unauthorized
  | .refreshAuthToken =>
      match system.storage.refreshToken with
      | none => some (system, { call with stage := .refreshed false })
      | some token =>
          let request : Request := .refresh token (.rotating .begin)
          (request.start sha256 system.store).map
            (fun store =>
              (
                {
                  system with
                  store := store
                  presented := system.presented ++ [(index, token)]
                },
                { call with stage := .refreshing token, request := some request }))
  | .refreshing _ => refreshAuthToken system call
  | .refreshed true =>
      match call.purpose with
      | .initAuth => some (system, { call with stage := .resolved })
      | _ =>
          some (system, { call with stage := .retrying, request := call.fetch system passes })
  | .refreshed false => some (call.finish system)
  | .retrying => apiFetch system call false
  | .resolved => none
  | .rejected => none

/-- A `fetch` rejects. The server knows nothing of it and goes on. -/
def Call.networkError (system : System) (call : Call) : Option (System × Call) :=
  match call.stage with
  | .responding =>
      match call.purpose with
      | .login _ => some (system, { call with stage := .rejected })
      | _ => some (call.finish system)
  | .refreshing _ =>
      some (
        { system with storage := system.storage.clear },
        { call with stage := .refreshed false })
  | .retrying => some (call.finish system)
  | _ => none

/-- The refresh token that the server has just drawn for a login. -/
def drawn : Request → List RawToken
  | .login _ (.upsertCsrf _ rawRefreshToken) => [rawRefreshToken]
  | _ => []

/-- The server runs its next statement for a call. -/
def Call.serve (sha256 : RawToken → Digest) (index : Nat) (input : Input) (system : System)
    (call : Call)
    : Option (System × Call) :=
  call.request.bind (fun request =>
    ((Sessions.program sha256).step index input system.store request).map (fun result =>
      (
        {
          system with
          store := result.1
          lastSigned :=
            (result.2.returned.map
              (fun tokens => ⟨tokens.accessToken, input.appNow⟩)).or system.lastSigned
          issued := system.issued ++ (drawn result.2).map (fun token => (index, token))
        },
        { call with request := some result.2, servedAt := input.appNow })))

/-- What happens next to a call. -/
inductive Event where
  | tab (passes unauthorized : Bool)
  | server (input : Input)
  | networkError
deriving DecidableEq, Repr

/-- All calls of one tab, with the server's handling of them. -/
def program (sha256 : RawToken → Digest) : Program System Call Event where
  start _ system call :=
    if call.stage = call.purpose.entry ∧ call.request = none then
      some system
    else
      none
  step index event system call :=
    match event with
    | .tab passes unauthorized => call.run sha256 index passes unauthorized system
    | .server input => call.serve sha256 index input system
    | .networkError => call.networkError system

/-- Every interleaving of the calls of a tab, before its first login. -/
abbrev machine (sha256 : RawToken → Digest) : Machine (Pool System Call) (Move Call Event) :=
  (program sha256).machine System.empty

end NexusComms.Browser
