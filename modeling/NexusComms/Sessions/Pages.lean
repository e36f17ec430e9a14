import NexusComms.Sessions.Ownership
import NexusComms.Storage.Ledger
import NexusComms.Storage.Sweeps

/-! The committed rows of the session store as a ledger. Sessions are its accounts, refresh
tokens go by their digests, and every change of the rows is an act on the ledger.
-/

namespace NexusComms.Sessions

open Storage Concurrency LockedTable

/-- Acts of the requests on sessions, families and digests. -/
abbrev SessionAct := Act Uuid Uuid Uuid Digest

/-- The ledger of sessions, in which requests go by their numbers. -/
abbrev SessionLedger := Ledger Nat Uuid Uuid Uuid Digest

def SessionRow.account (row : SessionRow) : Account Uuid := ⟨row.userId, row.isRevoked⟩

def RefreshTokenRow.page (row : RefreshTokenRow) : Page Uuid Uuid :=
  ⟨row.sessionId, row.familyId, row.isUsed⟩

/-- What the committed rows say of a session. -/
def Store.account (store : Store) (sessionId : Uuid) : Option (Account Uuid) :=
  (store.sessions.rows.find? (fun row => row.id = sessionId)).map SessionRow.account

/-- What they say of a token. -/
def Store.page (store : Store) (tokenHash : Digest) : Option (Page Uuid Uuid) :=
  (store.refreshTokens.rows.find? (fun row => row.tokenHash = tokenHash)).map
    RefreshTokenRow.page

/-- The ledger says the same as the committed rows. -/
structure Shows (store : Store) (ledger : SessionLedger) : Prop where
  accounts : ledger.accounts = store.account
  tokens : ledger.tokens = store.page

section

variable {sha256 : RawToken → Digest} {store after : Store} {ledger : SessionLedger}
  {owner : Nat}

theorem Shows.empty : Shows Store.empty Ledger.empty := ⟨rfl, rfl⟩

/-- The ledger shows rows only. -/
theorem Shows.of_rows_eq (shown : Shows store ledger)
    (sessions : after.sessions.rows = store.sessions.rows)
    (tokens : after.refreshTokens.rows = store.refreshTokens.rows)
    : Shows after ledger where
  accounts := by
    funext name
    rw [shown.accounts, Store.account, Store.account, sessions]
  tokens := by
    funext digest
    rw [shown.tokens, Store.page, Store.page, tokens]

/-- A digest belongs to at most one committed row. -/
theorem Valid.hash_unique (valid : Valid sha256 store) {left right : RefreshTokenRow}
    (inLeft : left ∈ store.refreshTokens.rows) (inRight : right ∈ store.refreshTokens.rows)
    (same : left.tokenHash = right.tokenHash)
    : left = right := by
  have hashes := valid.hashes
  rw [LockedTable.all, List.map_append] at hashes
  exact List.inj_on_of_nodup_map (List.nodup_append.mp hashes).1 inLeft inRight same

theorem Valid.find_hash (valid : Valid sha256 store) {row : RefreshTokenRow}
    (member : row ∈ store.refreshTokens.rows)
    : store.refreshTokens.rows.find? (fun other => other.tokenHash = row.tokenHash)
      = some row := by
  cases found
    : store.refreshTokens.rows.find? (fun other => other.tokenHash = row.tokenHash) with
  | none => simpa using List.find?_eq_none.mp found row member
  | some other =>
      have same : other.tokenHash = row.tokenHash := by simpa using List.find?_some found
      rw [valid.hash_unique (List.mem_of_find?_eq_some found) member same]

/-- Every committed row has its page in the ledger. -/
theorem Shows.page (shown : Shows store ledger) (valid : Valid sha256 store)
    {row : RefreshTokenRow} (member : row ∈ store.refreshTokens.rows)
    : ledger.tokens row.tokenHash = some row.page := by
  rw [shown.tokens, Store.page, valid.find_hash member]
  rfl

/-- Every page in the ledger is that of a committed row. -/
theorem Shows.row (shown : Shows store ledger) {digest : Digest} {page : Page Uuid Uuid}
    (found : ledger.tokens digest = some page)
    : ∃ row ∈ store.refreshTokens.rows, row.tokenHash = digest ∧ row.page = page := by
  rw [shown.tokens] at found
  obtain ⟨row, first, same⟩ := Option.map_eq_some_iff.mp found
  exact ⟨row, List.mem_of_find?_eq_some first, by simpa using List.find?_some first, same⟩

theorem Shows.account (shown : Shows store ledger) (valid : Valid sha256 store)
    {row : SessionRow} (member : row ∈ store.sessions.rows)
    : ledger.accounts row.id = some row.account := by
  rw [shown.accounts, Store.account, valid.sessions.find_row member]
  rfl

theorem Shows.session (shown : Shows store ledger) {name : Uuid} {account : Account Uuid}
    (found : ledger.accounts name = some account)
    : ∃ row ∈ store.sessions.rows, row.id = name ∧ row.account = account := by
  rw [shown.accounts] at found
  obtain ⟨row, first, same⟩ := Option.map_eq_some_iff.mp found
  exact ⟨row, List.mem_of_find?_eq_some first, by simpa using List.find?_some first, same⟩

/-- A digest never seen before has no page. -/
theorem Shows.no_page (shown : Shows store ledger) (valid : Valid sha256 store)
    {digest : Digest} (unseen : digest ∉ store.digests)
    : ledger.tokens digest = none := by
  rcases found : ledger.tokens digest with - | page
  · rfl
  · obtain ⟨row, member, rfl, _⟩ := shown.row found
    exact absurd (valid.knownTokens row (List.mem_append_left _ member)).2.2.1 unseen

-----------------------------------------------------------------------------------------
-- Rows that are added
-----------------------------------------------------------------------------------------

/-- A new session row opens an account. -/
theorem Shows.opens (shown : Shows store ledger) (valid : Valid sha256 store)
    {row : SessionRow} (newId : row.id ∉ store.uuids) (active : row.isRevoked = false)
    (sessions : after.sessions.rows = store.sessions.rows ++ [row])
    (tokens : after.refreshTokens.rows = store.refreshTokens.rows)
    : ledger.Admits owner (.opens row.id row.userId)
      ∧ Shows after (ledger.perform owner (.opens row.id row.userId)) := by
  have absent : ledger.accounts row.id = none := by
    rcases found : ledger.accounts row.id with - | account
    · rfl
    · obtain ⟨old, member, same, _⟩ := shown.session found
      exact absurd (same ▸ valid.knownSessions old (List.mem_append_left _ member)) newId
  refine ⟨absent, ?_, ?_⟩
  · funext name
    rw [Store.account, sessions, List.find?_append, Option.map_or]
    by_cases same : name = row.id
    · subst same
      rw [shown.accounts, Store.account] at absent
      simp [Ledger.perform, absent, SessionRow.account, active]
    · simp [Ledger.perform, same, Ne.symm same, shown.accounts, Store.account]
  · funext digest
    rw [Store.page, tokens]
    exact congrFun shown.tokens digest

/-- A new row in a new family is issued. -/
theorem Shows.issues (shown : Shows store ledger) (valid : Valid sha256 store)
    (row : RefreshTokenRow) {userId : Uuid} (newHash : row.tokenHash ∉ store.digests)
    (newFamily : row.familyId ∉ store.uuids) (unused : row.isUsed = false)
    (owned : OwnedBy store userId row.sessionId)
    (sessions : after.sessions.rows = store.sessions.rows)
    (tokens : after.refreshTokens.rows = store.refreshTokens.rows ++ [row])
    : ledger.Admits owner (.issues row.sessionId row.familyId row.tokenHash)
      ∧ Shows after
          (ledger.perform owner (.issues row.sessionId row.familyId row.tokenHash)) := by
  have absent := shown.no_page valid newHash
  obtain ⟨session, inSessions, named, _⟩ := owned
  refine ⟨⟨?_, absent, fun other page found => ?_⟩, ?_, ?_⟩
  · rw [← named, shown.account valid inSessions]
    rfl
  · obtain ⟨old, member, _, rfl⟩ := shown.row found
    have known := (valid.knownTokens old (List.mem_append_left _ member)).2.1
    exact fun same => newFamily (same ▸ known)
  · funext name
    rw [Store.account, sessions]
    exact congrFun shown.accounts name
  · funext digest
    rw [Store.page, tokens, List.find?_append, Option.map_or]
    by_cases same : digest = row.tokenHash
    · subst same
      rw [shown.tokens, Store.page] at absent
      simp [Ledger.perform, Ledger.write, absent, RefreshTokenRow.page, unused]
    · simp [Ledger.perform, Ledger.write, same, Ne.symm same, shown.tokens, Store.page]

-----------------------------------------------------------------------------------------
-- Rows that are published
-----------------------------------------------------------------------------------------

/-- A change that keeps a column can be made after looking a row up by it. -/
theorem find_map_keeping {κ ρ : Type} [DecidableEq κ] {key : ρ → κ} {change : ρ → ρ}
    (keeps : ∀ row, key (change row) = key row) (rows : List ρ) (k : κ)
    : (rows.map change).find? (fun row => key row = k)
      = (rows.find? (fun row => key row = k)).map change := by
  have same
      : (fun row => decide (key row = k)) ∘ change = fun row => decide (key row = k) := by
    funext row
    rw [Function.comp_apply, keeps]
  rw [List.find?_map, same]

/-- Marking the rows of a set of digests spends these tokens. -/
theorem Shows.spend (shown : Shows store ledger) {part : Set Digest}
    {change : RefreshTokenRow → RefreshTokenRow} (marks : Marks change)
    (within
      : ∀ row ∈ store.refreshTokens.rows,
          (row.tokenHash ∈ part → change row = row.markUsed)
          ∧ (row.tokenHash ∉ part → change row = row))
    (digest : Digest)
    : (ledger.spend part).tokens digest
      = ((store.refreshTokens.rows.map change).find?
          (fun row => row.tokenHash = digest)).map RefreshTokenRow.page := by
  rw [find_map_keeping (fun row => (marks.sameToken row).tokenHash)]
  simp only [Ledger.spend, shown.tokens, Store.page]
  cases found : store.refreshTokens.rows.find? (fun row => row.tokenHash = digest) with
  | none => simp
  | some row =>
      have same : row.tokenHash = digest := by simpa using List.find?_some found
      obtain ⟨marked, kept⟩ := within row (List.mem_of_find?_eq_some found)
      subst same
      by_cases inPart : row.tokenHash ∈ part
      · rw [if_pos inPart, Option.map_some, Option.map_some, Option.map_some,
          Option.map_some, marked inPart]
        rfl
      · rw [if_neg inPart, Option.map_some, Option.map_some, Option.map_some,
          kept inPart]

theorem revoke_id (row : SessionRow) : row.revoke.id = row.id := rfl

theorem published_session_id (table : LockedTable Uuid SessionRow) (owner : Nat)
    (row : SessionRow)
    : (table.published SessionRow.id SessionRow.revoke owner row).id = row.id :=
  published_key revoke_id table owner row

/-- Revoking the rows of a set of sessions closes these accounts. -/
theorem Shows.close (shown : Shows store ledger) {part : Set Uuid}
    {change : SessionRow → SessionRow} (keeps : ∀ row, (change row).id = row.id)
    (within
      : ∀ row ∈ store.sessions.rows,
          (row.id ∈ part → change row = row.revoke)
          ∧ (row.id ∉ part → change row = row))
    (name : Uuid)
    : (ledger.close part).accounts name
      = ((store.sessions.rows.map change).find? (fun row => row.id = name)).map
          SessionRow.account := by
  rw [find_map_keeping keeps]
  simp only [Ledger.close, shown.accounts, Store.account]
  cases found : store.sessions.rows.find? (fun row => row.id = name) with
  | none => simp
  | some row =>
      have same : row.id = name := by simpa using List.find?_some found
      obtain ⟨revoked, kept⟩ := within row (List.mem_of_find?_eq_some found)
      subst same
      by_cases inPart : row.id ∈ part
      · rw [if_pos inPart, Option.map_some, Option.map_some, Option.map_some,
          Option.map_some, revoked inPart]
        rfl
      · rw [if_neg inPart, Option.map_some, Option.map_some, Option.map_some,
          kept inPart]

/-- The COMMIT of a rotation exchanges the presented token. -/
theorem Shows.exchanges (shown : Shows store ledger) (valid : Valid sha256 store)
    {token successor : RefreshTokenRow} {change : RefreshTokenRow → RefreshTokenRow}
    (marks : Marks change) (member : token ∈ store.refreshTokens.rows)
    (unused : token.isUsed = false)
    (within
      : ∀ row ∈ store.refreshTokens.rows,
          (row.id = token.id → change row = row.markUsed)
          ∧ (row.id ≠ token.id → change row = row))
    (newHash : ∀ row ∈ store.refreshTokens.rows, row.tokenHash ≠ successor.tokenHash)
    (family : successor.familyId = token.familyId)
    (session : successor.sessionId = token.sessionId) (fresh : successor.isUsed = false)
    (sessions : after.sessions.rows = store.sessions.rows)
    (tokens
      : after.refreshTokens.rows = store.refreshTokens.rows.map change ++ [successor])
    : ledger.Admits owner (.exchanges token.tokenHash successor.tokenHash)
      ∧ Shows after
          (ledger.perform owner (.exchanges token.tokenHash successor.tokenHash)) := by
  have page := shown.page valid member
  have absent : ledger.tokens successor.tokenHash = none := by
    rcases found : ledger.tokens successor.tokenHash with - | page
    · rfl
    · obtain ⟨old, inRows, same, _⟩ := shown.row found
      exact absurd same (newHash old inRows)
  have byHash (row : RefreshTokenRow) (inRows : row ∈ store.refreshTokens.rows)
      : (row.tokenHash ∈ ({token.tokenHash} : Set Digest) → change row = row.markUsed)
        ∧ (row.tokenHash ∉ ({token.tokenHash} : Set Digest) → change row = row) := by
    have iff : row.tokenHash = token.tokenHash ↔ row.id = token.id := by
      constructor
      · exact fun same => congrArg RefreshTokenRow.id (valid.hash_unique inRows member same)
      · intro same
        rw [valid.tokens.row_unique inRows member same]
    rw [Set.mem_singleton_iff, iff]
    exact within row inRows
  have spends := shown.spend marks byHash
  refine ⟨⟨⟨token.page, page, unused⟩, absent⟩, ?_, ?_⟩
  · funext name
    rw [Store.account, sessions]
    exact congrFun shown.accounts name
  · funext digest
    rw [Store.page, tokens, List.find?_append, Option.map_or, ← spends digest]
    by_cases same : digest = successor.tokenHash
    · subst same
      have gone : (ledger.spend {token.tokenHash}).tokens successor.tokenHash = none := by
        rw [spends, find_map_keeping (fun row => (marks.sameToken row).tokenHash),
          List.find?_eq_none.mpr (fun row inRows => by simpa using newHash row inRows)]
        rfl
      have equal : successor.page = token.page := by
        rw [RefreshTokenRow.page, RefreshTokenRow.page, family, session, fresh, unused]
      rw [gone, Option.none_or]
      simp [Ledger.perform, Ledger.write, page, equal]
    · simp [Ledger.perform, Ledger.write, same, Ne.symm same]

end

end NexusComms.Sessions
