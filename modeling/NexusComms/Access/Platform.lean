import NexusComms.Sessions.Isolation
import NexusComms.Signaling.Handshake
import NexusComms.Signaling.Origins

/-! The way of an access token through the application: the requests on the session store sign
it, the guard of the HTTP routes and the gateway verify it, and all of them read one clock.
-/

namespace NexusComms.Access

open Concurrency Sessions Signaling

/-- The clock of `jsonwebtoken`, in seconds. -/
def seconds (now : Time) : Time := now / 1000000

/-- What stands behind `JwtAuthGuard`. The handlers of all other routes leave the session store
alone. -/
inductive Route where
  | logout
  | logoutAll
  | other
deriving DecidableEq, Repr

/-- What the handler of a route does to the session store, for the user of the token. -/
def Route.handler (user : JwtPayload) : Route → Option Request
  | .logout => some (.logout user.sid .revoke)
  | .logoutAll => some (.logoutAll user.sub .revokeAllForUser)
  | .other => none

/-- An access token that was handed out, and the second in which it was signed. -/
structure Signature where
  payload : JwtPayload
  signedAt : Time
deriving DecidableEq, Repr

/-- A request to a route with a token that was verified. `validator` is the request on the store
that looks up its session. -/
structure Bearer where
  validator : Nat
  payload : JwtPayload
  route : Route
  presentedAt : Time
deriving DecidableEq, Repr

/-- A new socket, with what the gateway found in its token. -/
structure Handshake where
  socketId : SocketId
  payload : Option JwtPayload
  anonymousId : Uuid
  connectedAt : Time
deriving DecidableEq, Repr

def Handshake.connection (handshake : Handshake) : Connection :=
  ⟨handshake.socketId, handshake.payload.map JwtPayload.sub, handshake.anonymousId⟩

/-- The session store and the gateway at the application's clock. The other fields are history,
but for `handled`, by which no request is handled twice: the tokens handed out, the requests
that came with one, those whose handler has begun, with its request on the store if it makes
one, and all handshakes.
-/
structure Platform where
  clock : Time
  sessions : Pool Store Request
  world : World
  signatures : List Signature
  bearers : List Bearer
  handled : List (Option Nat × Bearer)
  handshakes : List Handshake

/-- What can happen: a request to a public route, one to a guarded route, a guarded request
that goes on to its handler, the next statement of a request, a new socket, and any other event
of the gateway.
-/
inductive Act (Token : Type) where
  | login (userId : Uuid)
  | refresh (rawToken : RawToken)
  | guarded (route : Route) (token : Token)
  | handle (validator : Nat)
  | statement (index : Nat) (input : Input)
  | connect (socketId : SocketId) (token : Option Token) (anonymousId : Uuid)
  | event (event : Event)
deriving DecidableEq

structure Occasion (Token : Type) where
  now : Time
  act : Act Token
deriving DecidableEq

namespace Platform

def start : Platform := ⟨0, ⟨.empty, []⟩, .start, [], [], [], []⟩

/-- A user who is registered. -/
def registered (platform : Platform) (userId : Uuid) : Bool :=
  platform.world.gateway.db.references (some userId)

section

variable {Token : Type} [DecidableEq Token] (jwt : JwtService Token)
  (sha256 : RawToken → Digest) (runtime : Runtime)

/-- Nobody else can sign: a token that would be verified is one that was handed out. -/
def possible (platform : Platform) (options : VerifyOptions) (now : Time) (token : Token)
    : Bool :=
  (jwt.verify options token (seconds now)).all
    (fun payload =>
      platform.signatures.any
        (fun signature =>
          signature.payload = payload && jwt.sign payload signature.signedAt = token))

/-- A request on the session store begins. -/
def arrive (platform : Platform) (request : Request) : Option Platform :=
  ((program sha256).move platform.sessions (.start request)).map
    (fun sessions => { platform with sessions := sessions })

/-- The request that a finished guard has let through, if it has not gone on yet. -/
def admitted (platform : Platform) (validator : Nat) : Option Bearer :=
  platform.bearers.find?
    (fun bearer =>
      bearer.validator = validator
        && platform.sessions.threads[validator]? = some (.validate bearer.payload .accepted)
        && platform.handled.all (fun entry => entry.2.validator ≠ validator))

/-- What happens at a time that is not before the clock. -/
def act (platform : Platform) (now : Time) : Act Token → Option Platform
  | .login userId =>
      if platform.registered userId then
        platform.arrive sha256 (.login userId .createSession)
      else
        none
  | .refresh rawToken => platform.arrive sha256 (.refresh rawToken (.rotating .begin))
  | .guarded route token =>
      if platform.possible jwt strategyOptions now token then
        match jwt.verify strategyOptions token (seconds now) with
        | none => some platform
        | some payload =>
            (platform.arrive sha256 (.validate payload .findActiveSession)).map
              (fun arrived =>
                {
                  arrived with
                  bearers :=
                    platform.bearers
                      ++ [⟨platform.sessions.threads.length, payload, route, seconds now⟩]
                })
      else
        none
  | .handle validator =>
      (platform.admitted validator).bind
        (fun bearer =>
          match bearer.route.handler bearer.payload with
          | none => some { platform with handled := platform.handled ++ [(none, bearer)] }
          | some request =>
              (platform.arrive sha256 request).map
                (fun arrived =>
                  {
                    arrived with
                    handled :=
                      platform.handled ++ [(some platform.sessions.threads.length, bearer)]
                  }))
  | .statement index input =>
      ((program sha256).move platform.sessions (.step index { input with appNow := now })).map
        (fun sessions =>
          {
            platform with
            sessions := sessions
            -- the token is signed after the last statement, and nothing is awaited in between
            signatures :=
              platform.signatures
                ++ ((sessions.threads[index]?.bind Request.returned).map
                    (fun tokens => ⟨tokens.accessToken, seconds now⟩)).toList
          })
  | .connect socketId token anonymousId =>
      if token.all (platform.possible jwt gatewayOptions now)
          ∧ anonymousId ∉ platform.world.drawn
          ∧ socketId ∉ platform.world.opened then
        let userId := SignalingGateway.authenticate jwt (seconds now) token
        let payload := token.bind (fun token => jwt.verify gatewayOptions token (seconds now))
        some {
          platform with
          world := platform.world.after runtime ⟨now, .connect socketId userId anonymousId⟩
          handshakes :=
            platform.handshakes ++ [⟨socketId, payload, anonymousId, seconds now⟩]
        }
      else
        none
  | .event event =>
      if event.connection = none then
        (World.step runtime platform.world ⟨now, event⟩).map
          (fun world => { platform with world := world })
      else
        none

def step (platform : Platform) (occasion : Occasion Token) : Option Platform :=
  if platform.clock ≤ occasion.now then
    act jwt sha256 runtime { platform with clock := occasion.now } occasion.now occasion.act
  else
    none

/-- Every run of the application. -/
abbrev machine : Machine Platform (Occasion Token) where
  init := start
  step := step jwt sha256 runtime

end

/-- A token with this payload was handed out, and had not expired at a time. -/
def Vouched {Token : Type} (jwt : JwtService Token) (platform : Platform) (payload : JwtPayload)
    (shownAt : Time)
    : Prop :=
  ∃ signature ∈ platform.signatures,
    signature.payload = payload
    ∧ signature.signedAt ≤ shownAt
    ∧ shownAt < signature.signedAt + jwt.expiresIn

/-- Where a request on the store comes from: a login from a user who is registered, a lookup of
a session from the guard, and a logout from a request that the guard has let through.
-/
def Grounded (platform : Platform) (index : Nat) : Request → Prop
  | .login userId _ => platform.registered userId = true
  | .refresh _ _ => True
  | .logout sessionId _ =>
      ∃ bearer, (some index, bearer) ∈ platform.handled ∧ bearer.payload.sid = sessionId
  | .logoutAll userId _ =>
      ∃ bearer, (some index, bearer) ∈ platform.handled ∧ bearer.payload.sub = userId
  | .validate payload _ =>
      ∃ bearer ∈ platform.bearers, bearer.validator = index ∧ bearer.payload = payload

/-- The platform after a run with tokens in plain text, where the digest of a token is the
token. -/
def runAfter (occasions : List (Occasion (JwtPayload × Time))) : Platform :=
  ((machine plainJwt id plainRuntime).exec .start occasions).getD .start

/-- User 1 registers and logs in, which opens session 2. -/
def loginAlone : List (Occasion (JwtPayload × Time)) := [
  ⟨0, .event (.register 1 "caller@example.org")⟩,
  ⟨1000000, .login 1⟩,
  ⟨1000000, .statement 0 { now := 1, uuid := 2 }⟩,
  ⟨1000000, .statement 0 { now := 1, uuid := 3, familyId := 4, rawToken := 10 }⟩,
  ⟨1000000, .statement 0 { now := 1, rawToken := 11 }⟩
]

/-- A socket of theirs connects and asks for the queue, and they log out. -/
def visit : List (Occasion (JwtPayload × Time)) :=
  loginAlone
    ++ [
      ⟨2000000, .connect 11 (some (⟨1, 2⟩, 1)) 101⟩,
      ⟨2000000, .event (.queueStatusRequest 11)⟩,
      ⟨3000000, .guarded .logout (⟨1, 2⟩, 1)⟩,
      ⟨3000000, .statement 1 { now := 2 }⟩,
      ⟨3000000, .handle 1⟩,
      ⟨3000000, .statement 2 { now := 3 }⟩
    ]

/-- Another socket connects with the token of the session that was logged out. -/
def revisit : List (Occasion (JwtPayload × Time)) :=
  [⟨4000000, .connect 12 (some (⟨1, 2⟩, 1)) 102⟩]

end Platform

end NexusComms.Access
