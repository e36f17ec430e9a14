import NexusComms.Concurrency.Interleaving
import NexusComms.Sessions.Requests

/-! The routes that change something, the guards that stand in front of them, and what each
guard looks at. `CsrfGuard` is provided and exported by `AuthModule`, but no controller and no
module mounts it.
-/

namespace NexusComms.Http

open Sessions (Digest JwtPayload RawToken Store)

/-- `AuthErrorMessage`, as far as the guards use it. -/
inductive AuthErrorMessage where
  | authRequired
  | csrfMissing
  | noActiveSession
  | csrfInvalid
deriving DecidableEq, Repr

def AuthErrorMessage.text : AuthErrorMessage → String
  | .authRequired => "Authentication required."
  | .csrfMissing => "CSRF token missing."
  | .noActiveSession => "No active session."
  | .csrfInvalid => "Invalid or expired CSRF token."

/-- What a guard throws. -/
inductive Refusal where
  | tooManyRequests
  | unauthorized (message : AuthErrorMessage)
  | forbidden (message : AuthErrorMessage)
deriving DecidableEq, Repr

inductive Method where
  | get
  | head
  | options
  | post
  | put
  | patch
  | delete
deriving DecidableEq, Repr

/-- `UnsafeHttpMethod`. -/
def Method.unsafeMethod : Method → Bool
  | .post => true
  | .put => true
  | .patch => true
  | .delete => true
  | _ => false

/-- The routes with handlers that change something, with the parameters of their paths and
bodies. Those of `AuthController` come first. -/
inductive Route where
  | register
  | login
  | refresh
  | logout
  | logoutAll
  | accept (requestId : Uuid)
  | reject (requestId : Uuid)
  | updateNickname (contactId : Uuid) (nickname : String)
  | remove (contactId : Uuid)
deriving DecidableEq, Repr

/-- `@Post`, `@Patch` and `@Delete`. -/
def Route.method : Route → Method
  | .register => .post
  | .login => .post
  | .refresh => .post
  | .logout => .post
  | .logoutAll => .delete
  | .accept _ => .post
  | .reject _ => .post
  | .updateNickname _ _ => .patch
  | .remove _ => .delete

/-- `@Public()`. -/
def Route.isPublic : Route → Bool
  | .register => true
  | .login => true
  | .refresh => true
  | _ => false

inductive Guard where
  | throttlerGuard
  | jwtAuthGuard
  | csrfGuard
deriving DecidableEq, Repr

/-- `APP_GUARD` of `AppModule`. -/
def appGuards : List Guard := [.throttlerGuard]

/-- `@UseGuards` of `AuthController` and of `ContactsController`. No handler adds any. -/
def Route.useGuards : Route → List Guard
  | .register => [.jwtAuthGuard]
  | .login => [.jwtAuthGuard]
  | .refresh => [.jwtAuthGuard]
  | .logout => [.jwtAuthGuard]
  | .logoutAll => [.jwtAuthGuard]
  | .accept _ => [.jwtAuthGuard]
  | .reject _ => [.jwtAuthGuard]
  | .updateNickname _ _ => [.jwtAuthGuard]
  | .remove _ => [.jwtAuthGuard]

/-- The guards that a request meets, in order. -/
def Route.guards (route : Route) : List Guard := appGuards ++ route.useGuards

/-- A request. `bearer` is the payload of its access token, if that is signed and has not
expired, and `csrfToken` a header `X-CSRF-Token` that is not empty. -/
structure HttpRequest where
  route : Route
  bearer : Option JwtPayload
  csrfToken : Option RawToken
deriving DecidableEq, Repr

/-- What the environment supplies to one step. The throttler keeps its counts in memory, so
whether it refuses is up to the environment; the ids are for the rows of an INSERT. -/
structure Input extends Sessions.Input where
  secondUuid : Uuid := 0
  throttled : Bool := false
deriving DecidableEq, Repr

section

variable (sha256 : RawToken → Digest)

/-- `CsrfTokenRepository.isValid` at the store's clock. -/
def CsrfTokenRepository.isValid (store : Store) (sessionId : Uuid) (rawToken : RawToken)
    : Bool :=
  store.csrfTokens.any
    (fun row =>
      row.sessionId = sessionId && row.tokenHash = sha256 rawToken
        && decide (store.clock < row.expiresAt))

/-- `JwtAuthGuard.canActivate`: `handleRequest` throws the same for whatever is wrong. -/
def JwtAuthGuard.canActivate (input : Input) (store : Store) (request : HttpRequest)
    : Except Refusal Unit :=
  if request.route.isPublic then
    .ok ()
  else
    match request.bearer with
    | none => .error (.unauthorized .authRequired)
    | some payload =>
        if input.fails || (store.findActiveById payload.sid).isNone then
          .error (.unauthorized .authRequired)
        else
          .ok ()

/-- `CsrfGuard.canActivate`. -/
def CsrfGuard.canActivate (store : Store) (request : HttpRequest) : Except Refusal Unit :=
  if request.route.isPublic then
    .ok ()
  else if request.route.method.unsafeMethod = false then
    .ok ()
  else
    match request.csrfToken with
    | none => .error (.forbidden .csrfMissing)
    | some incoming =>
        match request.bearer with
        | none => .error (.forbidden .noActiveSession)
        | some payload =>
            if CsrfTokenRepository.isValid sha256 store payload.sid incoming then
              .ok ()
            else
              .error (.forbidden .csrfInvalid)

def Guard.canActivate (input : Input) (store : Store) (request : HttpRequest)
    : Guard → Except Refusal Unit
  | .throttlerGuard => if input.throttled then .error .tooManyRequests else .ok ()
  | .jwtAuthGuard => JwtAuthGuard.canActivate input store request
  | .csrfGuard => CsrfGuard.canActivate sha256 store request

end

end NexusComms.Http
