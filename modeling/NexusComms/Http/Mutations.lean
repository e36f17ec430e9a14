import NexusComms.Contacts.Service
import NexusComms.Http.Guards
import NexusComms.Sessions.Ownership

/-! Requests that change something, from their arrival through the guards to the statements of
their handlers. They interleave with the logins and refreshes that issue CSRF tokens, and with
the gateway, which inserts the requests to save a contact.
-/

namespace NexusComms.Http

open Concurrency Program Storage LockedTable
open Contacts (AcceptStage RejectStage Tables)
open Sessions (Digest JwtPayload LogoutAllStage LogoutStage RawToken Request SessionRow Store)

/-- A CSRF token that a login or a refresh has issued. -/
structure Issue where
  sessionId : Uuid
  token : RawToken
  issuedAt : Time
deriving DecidableEq, Repr

/-- The database. The last field is history: the CSRF tokens issued, the latest one first. -/
structure Site where
  store : Store
  tables : Tables
  issued : List Issue

/-- The migrated database. -/
def Site.empty : Site := ⟨.empty, .empty, []⟩

/-- The committed rows that the handlers write. -/
def Site.data (site : Site) : List SessionRow × Tables := (site.store.sessions.rows, site.tables)

/-- The token most recently issued for a session. -/
def Site.latest (site : Site) (sessionId : Uuid) : Option Issue :=
  site.issued.find? (fun issue => issue.sessionId = sessionId)

/-- The request carries the token most recently issued for its own session, and that is less
than 24 hours ago. -/
def HttpRequest.Carries (site : Site) (request : HttpRequest) : Prop :=
  ∃ payload ∈ request.bearer, ∃ issue ∈ site.latest payload.sid,
    request.csrfToken = some issue.token
    ∧ site.store.clock < issue.issuedAt + Sessions.oneDay

instance (site : Site) (request : HttpRequest) : Decidable (request.Carries site) :=
  inferInstanceAs
    (Decidable
      (∃ payload ∈ request.bearer, ∃ issue ∈ site.latest payload.sid,
        request.csrfToken = some issue.token
        ∧ site.store.clock < issue.issuedAt + Sessions.oneDay))

/-- What a handler has still to do. -/
inductive Handler where
  | logout (sessionId : Uuid) (stage : LogoutStage)
  | logoutAll (userId : Uuid) (stage : LogoutAllStage)
  | accept (requestId acceptorId : Uuid) (stage : AcceptStage)
  | reject (requestId userId : Uuid) (stage : RejectStage)
  | updateNickname (ownerId contactId : Uuid) (nickname : String)
  | remove (ownerId contactId : Uuid)
  | finished
deriving DecidableEq, Repr

/-- What the handler of a route calls for the user of the access token. The public routes are
the requests of the session store, and registrations. -/
def Route.handler (user : JwtPayload) : Route → Handler
  | .register => .finished
  | .login => .finished
  | .refresh => .finished
  | .logout => .logout user.sid .revoke
  | .logoutAll => .logoutAll user.sub .revokeAllForUser
  | .accept requestId => .accept requestId user.sub .update
  | .reject requestId => .reject requestId user.sub .update
  | .updateNickname contactId nickname => .updateNickname user.sub contactId nickname
  | .remove contactId => .remove user.sub contactId

inductive MutationStage where
  | guards (todo : List Guard)
  | handling (handler : Handler)
  | refused (refusal : Refusal)
deriving DecidableEq, Repr

/-- A request in progress. The last two fields are history: whether it carried the right token
when the guards let it through, and whether its handler has changed anything.
-/
structure Mutation where
  request : HttpRequest
  stage : MutationStage
  carried : Bool
  changed : Bool
deriving DecidableEq, Repr

/-- Whatever uses the database: a login, a refresh or another request that only reads its
session; a call of the gateway; or a request that changes something. -/
inductive Exchange where
  | session (request : Request)
  | signaling (call : Contacts.Call)
  | mutation (mutation : Mutation)
deriving DecidableEq, Repr

/-- The ids and the time for a statement on the contacts. -/
def Input.drawn (input : Input) : Contacts.Drawn := ⟨input.now, input.uuid, input.secondUuid⟩

section

variable (sha256 : RawToken → Digest)

/-- The session for which the next statement of a request issues a CSRF token. -/
def issues : Request → Option Uuid
  | .login _ (.upsertCsrf sessionId _) => some sessionId
  | .refresh _ (.upsertCsrf _ sessionId) => some sessionId
  | _ => none

/-- The next statement of a handler. One on the contacts that fails ends it; if that is the
INSERT into `audit_logs`, the handler has returned all the same. -/
def Handler.step (owner : Nat) (input : Input) (site : Site)
    : Handler → Option (Site × Handler)
  | .logout sessionId stage =>
      (Sessions.AuthService.logout owner input.toInput site.store sessionId stage).map
        (fun result => ({ site with store := result.1 }, .logout sessionId result.2))
  | .logoutAll userId stage =>
      (Sessions.AuthService.logoutAll owner input.toInput site.store userId stage).map
        (fun result => ({ site with store := result.1 }, .logoutAll userId result.2))
  | .accept requestId acceptorId stage =>
      if input.fails then
        some (site, .finished)
      else
        (Contacts.ContactsService.acceptContactSave input.drawn site.tables requestId acceptorId
          stage).map
          (fun result => ({ site with tables := result.1 }, .accept requestId acceptorId result.2))
  | .reject requestId userId stage =>
      if input.fails then
        some (site, .finished)
      else
        (Contacts.ContactsService.rejectContactSave input.drawn site.tables requestId userId
          stage).map
          (fun result => ({ site with tables := result.1 }, .reject requestId userId result.2))
  | .updateNickname ownerId contactId nickname =>
      if input.fails then
        some (site, .finished)
      else
        let tables' :=
          Contacts.ContactsService.updateNickname site.tables ownerId contactId nickname
        some ({ site with tables := tables' }, .finished)
  | .remove ownerId contactId =>
      if input.fails then
        some (site, .finished)
      else
        let tables' := Contacts.ContactsService.removeContact site.tables ownerId contactId
        some ({ site with tables := tables' }, .finished)
  | .finished => none

/-- A guard has let a request pass. After the last one its handler runs, which needs a user. -/
def Mutation.pass (site : Site) (mutation : Mutation) (later : List Guard) : Mutation :=
  if later = [] then
    {
      mutation with
      stage :=
        .handling ((mutation.request.bearer.map mutation.request.route.handler).getD .finished)
      carried := decide (mutation.request.Carries site)
    }
  else
    { mutation with stage := .guards later }

/-- The next statement of a request that changes something. -/
def Mutation.step (owner : Nat) (input : Input) (site : Site) (mutation : Mutation)
    : Option (Site × Mutation) :=
  match mutation.stage with
  | .guards [] => none
  | .guards (guard :: later) =>
      match guard.canActivate sha256 input site.store mutation.request with
      | .error refusal => some (site, { mutation with stage := .refused refusal })
      | .ok () => some (site, mutation.pass site later)
  | .handling handler =>
      (handler.step owner input site).map
        (fun result =>
          (result.1,
            {
              mutation with
              stage := .handling result.2
              changed := mutation.changed || decide (result.1.data ≠ site.data)
            }))
  | .refused _ => none

/-- The next statement of an exchange. -/
def Exchange.step (owner : Nat) (input : Input) (site : Site)
    : Exchange → Option (Site × Exchange)
  | .session request =>
      (request.step sha256 owner input.toInput site.store).map
        (fun result =>
          let issue := (issues request).map (⟨·, input.rawToken, site.store.clock⟩)
          (
            {
              site with
              store := result.1
              issued := if input.fails then site.issued else issue.toList ++ site.issued
            },
            .session result.2))
  | .signaling call =>
      (call.step input.drawn site.tables).map
        (fun result => ({ site with tables := result.1 }, .signaling result.2))
  | .mutation own =>
      (own.step sha256 owner input site).map
        (fun result => (result.1, .mutation result.2))

/-- An exchange arrives. Sessions are revoked, and requests to save a contact answered, through
routes only. -/
def Exchange.start (site : Site) : Exchange → Option Site
  | .session (.logout _ _) => none
  | .session (.logoutAll _ _) => none
  | .session request =>
      (request.start sha256 site.store).map (fun store => { site with store := store })
  | .signaling (.requestContactSave _ _ _ .insert) => some site
  | .signaling _ => none
  | .mutation own =>
      if own.request.route.isPublic = false
          ∧ own.stage = .guards own.request.route.guards
          ∧ own.carried = false ∧ own.changed = false then
        some site
      else
        none

/-- All exchanges with the database. Its clock never runs backwards. -/
def siteProgram : Program Site Exchange Input where
  start _ site exchange := exchange.start sha256 site
  step owner input site exchange :=
    if site.store.clock ≤ input.now then
      exchange.step sha256 owner input
        { site with store := { site.store with clock := input.now } }
    else
      none

/-- Every interleaving of exchanges from the migrated database. -/
abbrev siteMachine : Machine (Pool Site Exchange) (Move Exchange Input) :=
  (siteProgram sha256).machine Site.empty

end

/-- The next statement of a handler finds something to change: a session that is not revoked,
one that the UPDATE of all sessions has rewritten, a pending request, a pair that is no
contact yet, another nickname, or a contact. Whatever is accepted or rejected is logged.
-/
def Handler.writes (owner : Nat) (input : Input) (site : Site) : Handler → Bool
  | .logout sessionId .revoke =>
      !input.fails
        && site.store.sessions.rows.any (fun row => row.id = sessionId && !row.isRevoked)
  | .logoutAll _ (.updating []) =>
      !input.fails
        && site.store.sessions.rows.any
          (fun row =>
            site.store.sessions.holder row.id = some owner
              && (site.store.sessions.dirty row.id).isSome && !row.isRevoked)
  | .accept requestId acceptorId .update =>
      !input.fails && site.tables.requests.any (·.isPendingFor requestId acceptorId)
  | .accept _ _ (.insert fromUserId toUserId) =>
      !input.fails
        && !((fromUserId, toUserId) ∈ site.tables.contacts.map Contacts.ContactRecord.pair
          && (toUserId, fromUserId) ∈ site.tables.contacts.map Contacts.ContactRecord.pair)
  | .accept _ _ (.audit _ _) => !input.fails
  | .reject requestId userId .update =>
      !input.fails && site.tables.requests.any (·.isPendingFor requestId userId)
  | .reject _ _ .audit => !input.fails
  | .updateNickname ownerId contactId nickname =>
      !input.fails
        && site.tables.contacts.any
          (fun row =>
            row.id = contactId && row.ownerId = ownerId && row.nickname ≠ some nickname)
  | .remove ownerId contactId =>
      !input.fails
        && site.tables.contacts.any (fun row => row.id = contactId && row.ownerId = ownerId)
  | _ => false

end NexusComms.Http
