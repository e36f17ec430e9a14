import NexusComms.Sessions.Revocation
import NexusComms.Signaling.Updates

/-! Who a new socket belongs to. A request over HTTP goes through `JwtStrategy`, which looks up
the session of its token; the gateway verifies the token of a handshake and looks no further.
-/

namespace NexusComms.Signaling

open Concurrency Sessions

inductive JwtAlgorithm where
  | hs256
  | hs384
  | hs512
deriving DecidableEq, Repr

/-- The algorithms that a verification allows. For a secret these are all of HMAC's, where the
caller names none. -/
structure VerifyOptions where
  algorithms : List JwtAlgorithm := [.hs256, .hs384, .hs512]
deriving DecidableEq, Repr

/-- The JWT library under `JWT_SECRET`, at the application's clock in seconds. Tokens are signed
by HS256 and expire, and nobody else can make one that is verified. -/
structure JwtService (Token : Type) where
  expiresIn : Time
  sign : JwtPayload → Time → Token
  verify : VerifyOptions → Token → Time → Option JwtPayload
  verify_sign (options : VerifyOptions) (payload : JwtPayload) (issuedAt now : Time)
    (allowed : .hs256 ∈ options.algorithms)
    : verify options (sign payload issuedAt) now
      = if now < issuedAt + expiresIn then some payload else none
  genuine {options : VerifyOptions} {token : Token} {now : Time} {payload : JwtPayload}
    (verified : verify options token now = some payload)
    : ∃ issuedAt, token = sign payload issuedAt

/-- `JwtModule` of the gateway is given a secret and no options for verification. -/
def gatewayOptions : VerifyOptions := {}

/-- `algorithms: [JwtAlgorithm.HS256]`. -/
def strategyOptions : VerifyOptions := { algorithms := [.hs256] }

section

variable {Token : Type} (jwt : JwtService Token)

/-- The user of a handshake. A `sub` is the id of a user, so it is neither empty nor changed by
`trim`. -/
def SignalingGateway.authenticate (appNow : Time) (token : Option Token) : Option Uuid :=
  match token with
  | none => none
  | some token => (jwt.verify gatewayOptions token appNow).map JwtPayload.sub

/-- `handleConnection` from the handshake on. -/
def SignalingGateway.connect (appNow : Time) (gateway : Gateway) (socketId : SocketId)
    (token : Option Token) (anonymousId : Uuid)
    : Outcome :=
  handleConnection gateway socketId (authenticate jwt appNow token) anonymousId

/-- The passport strategy: what it verifies by itself, and then `validate`. -/
def JwtStrategy.authenticate (appNow : Time) (store : Store) (token : Token)
    : Option JwtPayload :=
  (jwt.verify strategyOptions token appNow).bind
    (fun payload =>
      match Sessions.JwtStrategy.validate { now := store.clock } store payload
          .findActiveSession with
      | some (_, .accepted) => some payload
      | _ => none)

variable {jwt} {appNow : Time} {store : Store} {gateway : Gateway} {socketId : SocketId}
  {anonymousId : Uuid} {token : Token}

/-- The gateway and the strategy verify the same tokens. -/
theorem verify_agrees
    : jwt.verify strategyOptions token appNow = jwt.verify gatewayOptions token appNow := by
  have transfer {options others : VerifyOptions} {payload : JwtPayload}
      (allows : .hs256 ∈ options.algorithms) (allowed : .hs256 ∈ others.algorithms)
      (verified : jwt.verify options token appNow = some payload)
      : jwt.verify others token appNow = some payload := by
    obtain ⟨issuedAt, rfl⟩ := jwt.genuine verified
    rw [jwt.verify_sign options payload issuedAt appNow allows] at verified
    rw [jwt.verify_sign others payload issuedAt appNow allowed, verified]
  refine Option.ext (fun payload => ⟨?_, ?_⟩)
  · exact transfer (by decide) (by decide)
  · exact transfer (by decide) (by decide)

/-- A new socket belongs to the user of its handshake. -/
theorem connect_userOf (token : Option Token)
    : (SignalingGateway.connect jwt appNow gateway socketId token anonymousId).gateway.userOf
        socketId
      = SignalingGateway.authenticate jwt appNow token := by
  simp only [SignalingGateway.connect, SignalingGateway.handleConnection, Gateway.userOf,
    AList.lookup_insert, Option.bind_some]

/-- The strategy accepts a verified token whose session is active. -/
theorem strategy_authenticate
    : JwtStrategy.authenticate jwt appNow store token
      = (jwt.verify gatewayOptions token appNow).filter
          (fun payload => (store.findActiveById payload.sid).isSome) := by
  unfold JwtStrategy.authenticate
  rw [verify_agrees]
  cases jwt.verify gatewayOptions token appNow with
  | none => rfl
  | some payload =>
      simp only [Option.bind_some, Sessions.JwtStrategy.validate, Option.filter_some]
      cases store.findActiveById payload.sid with
      | none => rfl
      | some session => rfl

/-- Both ways of authentication treat a token alike if and only if it is not verified at all or
its session is active. Once a session has ended, in every run and for good, the strategy rejects
its tokens, and a new socket is still treated as the user of each one that has not expired. -/
theorem handshake_agrees (jwt : JwtService Token)
    : (∀ (store : Store) (gateway : Gateway) (socketId : SocketId) (anonymousId : Uuid)
          (token : Token) (appNow : Time),
        (∀ userId,
          (SignalingGateway.connect jwt appNow gateway socketId token anonymousId).gateway.userOf
              socketId
            = some userId
          ↔ (JwtStrategy.authenticate jwt appNow store token).map JwtPayload.sub = some userId)
        ↔ ∀ payload,
            jwt.verify gatewayOptions token appNow = some payload →
              (store.findActiveById payload.sid).isSome)
      ∧ ∀ (sha256 : RawToken → Digest) (first second : List (Move Request Input))
          (middle final : Pool Store Request) (payload : JwtPayload),
          (machine sha256).Reaches first middle →
            (machine sha256).exec middle second = some final →
              Ended middle.shared payload.sid →
                ∀ (gateway : Gateway) (socketId : SocketId) (anonymousId : Uuid)
                  (issuedAt appNow : Time),
                  JwtStrategy.authenticate jwt appNow final.shared (jwt.sign payload issuedAt)
                    = none
                  ∧ ((SignalingGateway.connect jwt appNow gateway socketId
                        (some (jwt.sign payload issuedAt)) anonymousId).gateway.userOf socketId
                      ≠ some payload.sub
                    ↔ issuedAt + jwt.expiresIn ≤ appNow) := by
  constructor
  · intro store gateway socketId anonymousId token appNow
    rw [connect_userOf, strategy_authenticate]
    simp only [SignalingGateway.authenticate]
    cases verified : jwt.verify gatewayOptions token appNow with
    | none => simp
    | some payload =>
        cases active : (store.findActiveById payload.sid).isSome with
        | false =>
            simp only [Option.filter_some, active, Option.map_some]
            simp [active]
        | true =>
            simp only [Option.filter_some, active, if_true, Option.map_some]
            simp [active]
  · intro sha256 first second middle final payload reached later ended gateway socketId
      anonymousId issuedAt appNow
    have gone := (revocation_final reached later ended).2.1
    have signed := jwt.verify_sign gatewayOptions payload issuedAt appNow (by decide)
    rw [connect_userOf, strategy_authenticate]
    simp only [SignalingGateway.authenticate, signed]
    by_cases current : appNow < issuedAt + jwt.expiresIn
    · simp [current, gone]
    · simp only [current, if_false]
      simpa using current

end

/-- Tokens in plain text that only the server knows how to write. -/
def plainJwt : JwtService (JwtPayload × Time) where
  expiresIn := 900
  sign payload issuedAt := (payload, issuedAt)
  verify options token now :=
    if .hs256 ∈ options.algorithms ∧ now < token.2 + 900 then some token.1 else none
  verify_sign options payload issuedAt now allowed := by simp [allowed]
  genuine {options token now payload} verified := by
    split at verified
    · cases verified
      exact ⟨token.2, rfl⟩
    · cases verified

/-- After a logout the two ways agree about a token that has expired. -/
theorem handshake_agrees_expired
    : (SignalingGateway.connect plainJwt 1000 .empty 11 (some (⟨100, 1⟩, 5)) 101).gateway.userOf
        11
      ≠ some 100 := by
  have reached
      : (machine id).Reaches (firstRefresh ++ logoutAlone)
          (stateAfter (firstRefresh ++ logoutAlone)) := rfl
  have ended : Ended (stateAfter (firstRefresh ++ logoutAlone)).shared 1 :=
    ⟨⟨1, 100, true, 1, 1 + sevenDays⟩, by decide, rfl, .inl rfl⟩
  have revoked :=
    (handshake_agrees plainJwt).2 id _ [] _ _ ⟨100, 1⟩ reached rfl ended .empty 11 101 5 1000
  exact revoked.2.mpr (by decide)

/-- The user logs out, and a new socket with the access token of that session is still
theirs. -/
theorem revoked_token_connects
    : (machine id).Reaches (firstRefresh ++ logoutAlone)
        (stateAfter (firstRefresh ++ logoutAlone))
      ∧ JwtStrategy.authenticate plainJwt 10 (stateAfter (firstRefresh ++ logoutAlone)).shared
          (⟨100, 1⟩, 5)
        = none
      ∧ (SignalingGateway.connect plainJwt 10 .empty 11 (some (⟨100, 1⟩, 5)) 101).gateway.userOf
          11
        = some 100 := by
  exact ⟨rfl, by decide, by decide⟩

end NexusComms.Signaling
