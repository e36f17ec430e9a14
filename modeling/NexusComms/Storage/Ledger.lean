import Mathlib.Data.List.Induction
import Mathlib.Data.Set.Insert
import Mathlib.Logic.Function.Basic
import NexusComms.Concurrency.Runs

/-! A ledger of one-time tokens. Accounts are opened once and may be closed. Tokens come in
families: the first one is issued to an account, and exchanging an unspent token spends it and
makes another one of the same family. Whoever finds a spent token may accuse its family, and
the tokens that the family has at this moment are spent when the family is condemned.
-/

namespace NexusComms.Storage

open Concurrency

structure Account (υ : Type) where
  owner : υ
  closed : Bool
deriving DecidableEq, Repr

def Account.close {υ : Type} (account : Account υ) : Account υ :=
  { account with closed := true }

structure Page (α φ : Type) where
  account : α
  family : φ
  spent : Bool
deriving DecidableEq, Repr

def Page.spend {α φ : Type} (page : Page α φ) : Page α φ := { page with spent := true }

/-- The ledger. `accused` and `noticed` are what each party has collected: the tokens of the
family that it accused, and the accounts of the owner to whom it gave notice.
-/
structure Ledger (κ α υ φ τ : Type) where
  accounts : α → Option (Account υ)
  tokens : τ → Option (Page α φ)
  accused : κ → Set τ
  noticed : κ → Set α

/-- What one party does to the ledger at one moment. -/
inductive Act (α υ φ τ : Type) where
  | opens (account : α) (owner : υ)
  | issues (account : α) (family : φ) (token : τ)
  | exchanges (token successor : τ)
  | accuses (token : τ)
  | condemns (token : τ)
  | closes (account : α)
  | notifies (owner : υ)
  | closesNoticed
deriving DecidableEq, Repr

namespace Ledger

variable {κ α υ φ τ : Type}

def empty : Ledger κ α υ φ τ := ⟨fun _ => none, fun _ => none, fun _ => ∅, fun _ => ∅⟩

/-- The tokens in the family of this one. -/
def familyOf (ledger : Ledger κ α υ φ τ) (token : τ) : Set τ :=
  { other |
    ∃ page otherPage,
      ledger.tokens token = some page
      ∧ ledger.tokens other = some otherPage
      ∧ otherPage.family = page.family }

/-- The accounts of one owner. -/
def accountsOf (ledger : Ledger κ α υ φ τ) (owner : υ) : Set α :=
  { name | ∃ account, ledger.accounts name = some account ∧ account.owner = owner }

/-- When a party may act. Nothing asks whether an account is closed. -/
def Admits (ledger : Ledger κ α υ φ τ) (party : κ) : Act α υ φ τ → Prop
  | .opens account _ => ledger.accounts account = none
  | .issues account family token =>
      (ledger.accounts account).isSome
      ∧ ledger.tokens token = none
      ∧ ∀ other page, ledger.tokens other = some page → page.family ≠ family
  | .exchanges token successor =>
      (∃ page, ledger.tokens token = some page ∧ page.spent = false)
      ∧ ledger.tokens successor = none
  | .accuses token => ∃ page, ledger.tokens token = some page ∧ page.spent = true
  | .condemns token => token ∈ ledger.accused party
  | .closes _ => True
  | .notifies _ => True
  | .closesNoticed => True

open Classical in
/-- Spend the tokens of a set. -/
noncomputable def spend (ledger : Ledger κ α υ φ τ) (part : Set τ) : Ledger κ α υ φ τ :=
  {
    ledger with
    tokens :=
      fun token =>
        if token ∈ part then (ledger.tokens token).map Page.spend else ledger.tokens token
  }

open Classical in
/-- Close the accounts of a set. -/
noncomputable def close (ledger : Ledger κ α υ φ τ) (part : Set α) : Ledger κ α υ φ τ :=
  {
    ledger with
    accounts :=
      fun name =>
        if name ∈ part then (ledger.accounts name).map Account.close
        else ledger.accounts name
  }

open Classical in
/-- Write the page of a token that has none. -/
noncomputable def write (ledger : Ledger κ α υ φ τ) (token : τ) (page : Option (Page α φ))
    : Ledger κ α υ φ τ :=
  { ledger with tokens := Function.update ledger.tokens token page }

open Classical in
/-- What the ledger becomes by an act. -/
noncomputable def perform (ledger : Ledger κ α υ φ τ) (party : κ)
    : Act α υ φ τ → Ledger κ α υ φ τ
  | .opens account owner =>
      {
        ledger with
        accounts := Function.update ledger.accounts account (some ⟨owner, false⟩)
      }
  | .issues account family token => ledger.write token (some ⟨account, family, false⟩)
  | .exchanges token successor =>
      (ledger.spend {token}).write successor (ledger.tokens token)
  | .accuses token =>
      {
        ledger with
        accused := Function.update ledger.accused party (ledger.familyOf token)
      }
  | .condemns token =>
      (ledger.spend (ledger.accused party)).close
        { name | ∃ page, ledger.tokens token = some page ∧ page.account = name }
  | .closes account => ledger.close {account}
  | .notifies owner =>
      {
        ledger with
        noticed := Function.update ledger.noticed party (ledger.accountsOf owner)
      }
  | .closesNoticed => ledger.close (ledger.noticed party)

open Classical in
/-- The ledger under the acts of all parties. -/
noncomputable def machine : Machine (Ledger κ α υ φ τ) (κ × Act α υ φ τ) where
  init := .empty
  step ledger entry :=
    if ledger.Admits entry.1 entry.2 then some (ledger.perform entry.1 entry.2) else none

variable {ledger next : Ledger κ α υ φ τ} {party : κ} {act : Act α υ φ τ}

theorem machine_step_iff
    : machine.step ledger (party, act) = some next
      ↔ ledger.Admits party act ∧ ledger.perform party act = next := by
  simp only [machine]
  split
  · rename_i admitted
    simp [admitted]
  · rename_i refused
    simp [refused]

/-- One act that is admitted. -/
theorem exec_single (admits : ledger.Admits party act)
    : machine.exec ledger [(party, act)] = some (ledger.perform party act) := by
  rw [Machine.exec_cons, machine_step_iff.mpr ⟨admits, rfl⟩]
  rfl

open Classical in
/-- What the other parties have collected stays. -/
theorem perform_collected {other : κ} (different : other ≠ party)
    : (ledger.perform party act).accused other = ledger.accused other
      ∧ (ledger.perform party act).noticed other = ledger.noticed other := by
  cases act with
  | opens account owner => exact ⟨rfl, rfl⟩
  | issues account family token => exact ⟨rfl, rfl⟩
  | exchanges token successor => exact ⟨rfl, rfl⟩
  | accuses token => exact ⟨Function.update_of_ne different _ _, rfl⟩
  | condemns token => exact ⟨rfl, rfl⟩
  | closes account => exact ⟨rfl, rfl⟩
  | notifies owner => exact ⟨rfl, Function.update_of_ne different _ _⟩
  | closesNoticed => exact ⟨rfl, rfl⟩

-----------------------------------------------------------------------------------------
-- What stays
-----------------------------------------------------------------------------------------

/-- Accounts keep their owner and tokens their account and family. -/
structure Later (ledger next : Ledger κ α υ φ τ) : Prop where
  accounts
    : ∀ name account,
        ledger.accounts name = some account →
          ∃ account', next.accounts name = some account' ∧ account'.owner = account.owner
  tokens
    : ∀ token page,
        ledger.tokens token = some page →
          ∃ page',
            next.tokens token = some page'
            ∧ page'.account = page.account
            ∧ page'.family = page.family

theorem Later.of_eq (accounts : next.accounts = ledger.accounts)
    (tokens : next.tokens = ledger.tokens)
    : Later ledger next :=
  ⟨fun _ account found => ⟨account, accounts ▸ found, rfl⟩,
    fun _ page found => ⟨page, tokens ▸ found, rfl, rfl⟩⟩

/-- An account after some have been closed. -/
theorem close_accounts {part : Set α} {name : α} {account : Account υ}
    (found : (ledger.close part).accounts name = some account)
    : ∃ old,
        ledger.accounts name = some old
        ∧ old.owner = account.owner
        ∧ (account.closed = true → old.closed = true ∨ name ∈ part) := by
  by_cases inPart : name ∈ part
  · simp only [close, if_pos inPart] at found
    obtain ⟨old, before, rfl⟩ := Option.map_eq_some_iff.mp found
    exact ⟨old, before, rfl, fun _ => Or.inr inPart⟩
  · simp only [close, if_neg inPart] at found
    exact ⟨account, found, rfl, Or.inl⟩

/-- A token after some have been spent. -/
theorem spend_tokens {part : Set τ} {token : τ} {page : Page α φ}
    (found : (ledger.spend part).tokens token = some page)
    : ∃ old,
        ledger.tokens token = some old
        ∧ old.account = page.account
        ∧ old.family = page.family
        ∧ (page.spent = true → old.spent = true ∨ token ∈ part) := by
  by_cases inPart : token ∈ part
  · simp only [spend, if_pos inPart] at found
    obtain ⟨old, before, rfl⟩ := Option.map_eq_some_iff.mp found
    exact ⟨old, before, rfl, rfl, fun _ => Or.inr inPart⟩
  · simp only [spend, if_neg inPart] at found
    exact ⟨page, found, rfl, rfl, Or.inl⟩

theorem later_close (ledger : Ledger κ α υ φ τ) (part : Set α)
    : Later ledger (ledger.close part) where
  accounts := by
    intro name account found
    by_cases inPart : name ∈ part
    · exact ⟨account.close, by simp [close, inPart, found], rfl⟩
    · exact ⟨account, by simp [close, inPart, found], rfl⟩
  tokens := fun _ page found => ⟨page, found, rfl, rfl⟩

theorem later_spend (ledger : Ledger κ α υ φ τ) (part : Set τ)
    : Later ledger (ledger.spend part) where
  accounts := fun _ account found => ⟨account, found, rfl⟩
  tokens := by
    intro token page found
    by_cases inPart : token ∈ part
    · exact ⟨page.spend, by simp [spend, inPart, found], rfl, rfl⟩
    · exact ⟨page, by simp [spend, inPart, found], rfl, rfl⟩

theorem Later.trans {last : Ledger κ α υ φ τ} (first : Later ledger next)
    (second : Later next last)
    : Later ledger last where
  accounts := by
    intro name account found
    obtain ⟨middle, there, owner⟩ := first.accounts name account found
    obtain ⟨account', last, owner'⟩ := second.accounts name middle there
    exact ⟨account', last, owner'.trans owner⟩
  tokens := by
    intro token page found
    obtain ⟨middle, there, account, family⟩ := first.tokens token page found
    obtain ⟨page', last, account', family'⟩ := second.tokens token middle there
    exact ⟨page', last, account'.trans account, family'.trans family⟩

/-- Writing the page of a token that has none leaves the others. -/
theorem later_write {token : τ} (absent : ledger.tokens token = none)
    (page : Option (Page α φ))
    : Later ledger (ledger.write token page) where
  accounts := fun _ account found => ⟨account, found, rfl⟩
  tokens := by
    intro other page' found
    have different : other ≠ token := by
      rintro rfl
      rw [absent] at found
      cases found
    exact ⟨page', by simp [write, different, found], rfl, rfl⟩

/-- No act takes back what the ledger says of owners, accounts and families. -/
theorem later_perform (admits : ledger.Admits party act)
    : Later ledger (ledger.perform party act) := by
  cases act with
  | opens account owner =>
      refine ⟨fun name old found => ⟨old, ?_, rfl⟩, fun _ page found => ⟨page, found, rfl, rfl⟩⟩
      have different : name ≠ account := by
        rintro rfl
        rw [show ledger.accounts name = none from admits] at found
        cases found
      simp [perform, different, found]
  | issues account family token => exact later_write admits.2.1 _
  | exchanges token successor =>
      refine (later_spend ledger {token}).trans (later_write ?_ _)
      simp [spend, admits.2]
  | accuses token => exact .of_eq rfl rfl
  | condemns token => exact (later_spend ledger _).trans (later_close _ _)
  | closes account => exact later_close ledger _
  | notifies owner => exact .of_eq rfl rfl
  | closesNoticed => exact later_close ledger _

-----------------------------------------------------------------------------------------
-- Nothing without a cause
-----------------------------------------------------------------------------------------

/-- Someone has condemned a token of this family. -/
def Condemned (log : List (κ × Act α υ φ τ)) (ledger : Ledger κ α υ φ τ) (family : φ) : Prop :=
  ∃ party token page,
    (party, .condemns token) ∈ log
    ∧ ledger.tokens token = some page
    ∧ page.family = family

/-- Why an account is closed: by its name, after a notice to its owner, or because a token of
it was condemned. -/
def ClosedBy (log : List (κ × Act α υ φ τ)) (ledger : Ledger κ α υ φ τ) (name : α)
    (owner : υ)
    : Prop :=
  (∃ party, (party, .closes name) ∈ log)
  ∨ (∃ party, (party, .notifies owner) ∈ log ∧ (party, .closesNoticed) ∈ log)
  ∨ ∃ party token page,
      (party, .condemns token) ∈ log
      ∧ ledger.tokens token = some page
      ∧ page.account = name

/-- The log accounts for everything that the ledger says. -/
structure Caused (log : List (κ × Act α υ φ τ)) (ledger : Ledger κ α υ φ τ) : Prop where
  opened
    : ∀ name account,
        ledger.accounts name = some account → ∃ party, (party, .opens name account.owner) ∈ log
  closed
    : ∀ name account,
        ledger.accounts name = some account → account.closed = true →
          ClosedBy log ledger name account.owner
  spent
    : ∀ token page,
        ledger.tokens token = some page → page.spent = true →
          (∃ party successor, (party, .exchanges token successor) ∈ log)
          ∨ Condemned log ledger page.family
  noticed
    : ∀ party name,
        name ∈ ledger.noticed party →
          ∃ account,
            ledger.accounts name = some account ∧ (party, .notifies account.owner) ∈ log
  accused
    : ∀ party token other,
        token ∈ ledger.accused party → other ∈ ledger.accused party →
          ∃ page otherPage,
            ledger.tokens token = some page
            ∧ ledger.tokens other = some otherPage
            ∧ otherPage.family = page.family

theorem Caused.empty : Caused [] (empty : Ledger κ α υ φ τ) where
  opened := by
    intro name account found
    cases found
  closed := by
    intro name account found
    cases found
  spent := by
    intro token page found
    cases found
  noticed := fun _ _ member => False.elim member
  accused := fun _ _ _ member => False.elim member

/-- Causes stay causes as the log grows. -/
theorem ClosedBy.mono {log more : List (κ × Act α υ φ τ)} {name : α} {owner : υ}
    (closed : ClosedBy log ledger name owner) (later : Later ledger next)
    : ClosedBy (log ++ more) next name owner := by
  rcases closed with ⟨party, byName⟩ | ⟨party, notified, byNotice⟩
    | ⟨party, token, page, condemned, found, rfl⟩
  · exact Or.inl ⟨party, List.mem_append_left _ byName⟩
  · exact Or.inr (Or.inl ⟨party, List.mem_append_left _ notified,
      List.mem_append_left _ byNotice⟩)
  · obtain ⟨page', there, account, _⟩ := later.tokens token page found
    exact Or.inr (Or.inr ⟨party, token, page', List.mem_append_left _ condemned, there, account⟩)

theorem Condemned.mono {log more : List (κ × Act α υ φ τ)} {family : φ}
    (condemned : Condemned log ledger family) (later : Later ledger next)
    : Condemned (log ++ more) next family := by
  obtain ⟨party, token, page, inLog, found, rfl⟩ := condemned
  obtain ⟨page', there, _, family⟩ := later.tokens token page found
  exact ⟨party, token, page', List.mem_append_left _ inLog, there, family⟩

/-- The accounts that an act closes. -/
def closing (ledger : Ledger κ α υ φ τ) (party : κ) : Act α υ φ τ → Set α
  | .condemns token => { name | ∃ page, ledger.tokens token = some page ∧ page.account = name }
  | .closes account => {account}
  | .closesNoticed => ledger.noticed party
  | _ => ∅

/-- The tokens that an act spends. -/
def spending (ledger : Ledger κ α υ φ τ) (party : κ) : Act α υ φ τ → Set τ
  | .exchanges token _ => {token}
  | .condemns _ => ledger.accused party
  | _ => ∅

/-- Where an account comes from: it was there before, or it has just been opened. -/
theorem perform_account {name : α} {account : Account υ}
    (found : (ledger.perform party act).accounts name = some account)
    : (∃ old,
        ledger.accounts name = some old
        ∧ old.owner = account.owner
        ∧ (account.closed = true → old.closed = true ∨ name ∈ ledger.closing party act))
      ∨ act = .opens name account.owner ∧ account.closed = false := by
  have kept (same : ledger.accounts name = some account)
      : ∃ old,
          ledger.accounts name = some old
          ∧ old.owner = account.owner
          ∧ (account.closed = true → old.closed = true ∨ name ∈ ledger.closing party act) :=
    ⟨account, same, rfl, Or.inl⟩
  cases act with
  | opens opened owner =>
      by_cases same : name = opened
      · subst same
        simp only [perform, Function.update_self, Option.some.injEq] at found
        subst found
        exact Or.inr ⟨rfl, rfl⟩
      · refine Or.inl (kept ?_)
        simpa [perform, same] using found
  | issues issued family token => exact Or.inl (kept found)
  | exchanges token successor => exact Or.inl (kept found)
  | accuses token => exact Or.inl (kept found)
  | condemns token => exact Or.inl (close_accounts found)
  | closes closed => exact Or.inl (close_accounts found)
  | notifies owner => exact Or.inl (kept found)
  | closesNoticed => exact Or.inl (close_accounts found)

/-- Where a token comes from: it was there before, or it is new and unspent. -/
theorem perform_token {token : τ} {page : Page α φ} (admits : ledger.Admits party act)
    (found : (ledger.perform party act).tokens token = some page)
    : (∃ old,
        ledger.tokens token = some old
        ∧ old.account = page.account
        ∧ old.family = page.family
        ∧ (page.spent = true → old.spent = true ∨ token ∈ ledger.spending party act))
      ∨ page.spent = false := by
  have kept (same : ledger.tokens token = some page)
      : ∃ old,
          ledger.tokens token = some old
          ∧ old.account = page.account
          ∧ old.family = page.family
          ∧ (page.spent = true → old.spent = true ∨ token ∈ ledger.spending party act) :=
    ⟨page, same, rfl, rfl, Or.inl⟩
  cases act with
  | opens opened owner => exact Or.inl (kept found)
  | issues issued family new =>
      by_cases same : token = new
      · subst same
        simp only [perform, write, Function.update_self, Option.some.injEq] at found
        subst found
        exact Or.inr rfl
      · refine Or.inl (kept ?_)
        simpa [perform, write, same] using found
  | exchanges spent successor =>
      obtain ⟨⟨old, there, unspent⟩, _⟩ := admits
      by_cases same : token = successor
      · subst same
        simp only [perform, write, Function.update_self, there, Option.some.injEq] at found
        subst found
        exact Or.inr unspent
      · have there' : (ledger.spend {spent}).tokens token = some page := by
          simpa [perform, write, same] using found
        exact Or.inl (spend_tokens there')
  | accuses accused => exact Or.inl (kept found)
  | condemns condemned => exact Or.inl (spend_tokens found)
  | closes closed => exact Or.inl (kept found)
  | notifies owner => exact Or.inl (kept found)
  | closesNoticed => exact Or.inl (kept found)

/-- The accounts that a party has noticed are those of its last notice. -/
theorem perform_noticed (ledger : Ledger κ α υ φ τ) (party : κ) (act : Act α υ φ τ) (other : κ)
    : (ledger.perform party act).noticed other = ledger.noticed other
      ∨ ∃ owner,
          act = .notifies owner
          ∧ other = party
          ∧ (ledger.perform party act).noticed other = ledger.accountsOf owner := by
  cases act with
  | notifies owner =>
      by_cases same : other = party
      · subst same
        exact Or.inr ⟨owner, rfl, rfl, by simp [perform]⟩
      · exact Or.inl (perform_collected same).2
  | opens account owner => exact Or.inl rfl
  | issues account family token => exact Or.inl rfl
  | exchanges token successor => exact Or.inl rfl
  | accuses token => exact Or.inl rfl
  | condemns token => exact Or.inl rfl
  | closes account => exact Or.inl rfl
  | closesNoticed => exact Or.inl rfl

/-- The tokens that a party has accused are those of one family. -/
theorem perform_accused (ledger : Ledger κ α υ φ τ) (party : κ) (act : Act α υ φ τ) (other : κ)
    : (ledger.perform party act).accused other = ledger.accused other
      ∨ ∃ token, (ledger.perform party act).accused other = ledger.familyOf token := by
  cases act with
  | accuses token =>
      by_cases same : other = party
      · subst same
        exact Or.inr ⟨token, by simp [perform]⟩
      · exact Or.inl (perform_collected same).1
  | opens account owner => exact Or.inl rfl
  | issues account family token => exact Or.inl rfl
  | exchanges token successor => exact Or.inl rfl
  | condemns token => exact Or.inl rfl
  | closes account => exact Or.inl rfl
  | notifies owner => exact Or.inl rfl
  | closesNoticed => exact Or.inl rfl

/-- Every act is the cause of what it changes. -/
theorem Caused.perform {log : List (κ × Act α υ φ τ)} (caused : Caused log ledger)
    (admits : ledger.Admits party act)
    : Caused (log ++ [(party, act)]) (ledger.perform party act) := by
  have later := later_perform admits
  have now : (party, act) ∈ log ++ [(party, act)] :=
    List.mem_append_right _ (List.mem_singleton.mpr rfl)
  refine ⟨fun name account found => ?_, fun name account found closed => ?_,
    fun token page found spent => ?_, fun other name noticed => ?_,
    fun other token second inFirst inSecond => ?_⟩
  · rcases perform_account found with ⟨old, before, owner, _⟩ | ⟨rfl, _⟩
    · obtain ⟨opener, inLog⟩ := caused.opened name old before
      exact ⟨opener, List.mem_append_left _ (owner ▸ inLog)⟩
    · exact ⟨party, now⟩
  · rcases perform_account found with ⟨old, before, owner, closes⟩ | ⟨_, open'⟩
    · rcases closes closed with already | closing
      · exact owner ▸ (caused.closed name old before already).mono later
      · cases act with
        | condemns token =>
            obtain ⟨page, there, rfl⟩ := closing
            obtain ⟨page', here, account', _⟩ := later.tokens token page there
            exact Or.inr (Or.inr ⟨party, token, page', now, here, account'⟩)
        | closes account =>
            cases closing
            exact Or.inl ⟨party, now⟩
        | closesNoticed =>
            obtain ⟨noted, there, notified⟩ := caused.noticed party name closing
            cases there.symm.trans before
            exact Or.inr (Or.inl ⟨party, List.mem_append_left _ (owner ▸ notified), now⟩)
        | opens opened holder => exact False.elim closing
        | issues issued family token => exact False.elim closing
        | exchanges token successor => exact False.elim closing
        | accuses token => exact False.elim closing
        | notifies holder => exact False.elim closing
    · rw [open'] at closed
      cases closed
  · rcases perform_token admits found with ⟨old, before, _, family, spends⟩ | unspent
    · rcases spends spent with already | spending
      · rcases caused.spent token old before already with ⟨other, successor, inLog⟩ | condemned
        · exact Or.inl ⟨other, successor, List.mem_append_left _ inLog⟩
        · exact Or.inr (family ▸ condemned.mono later)
      · cases act with
        | exchanges exchanged successor =>
            cases spending
            exact Or.inl ⟨party, successor, now⟩
        | condemns condemned =>
            obtain ⟨first, second, there, also, same⟩ :=
              caused.accused party condemned token admits spending
            cases also.symm.trans before
            obtain ⟨page', here, _, family'⟩ := later.tokens condemned first there
            exact Or.inr ⟨party, condemned, page', now, here,
              family'.trans (same.symm.trans family)⟩
        | opens opened holder => exact False.elim spending
        | issues issued fresh new => exact False.elim spending
        | accuses accused => exact False.elim spending
        | closes account => exact False.elim spending
        | notifies holder => exact False.elim spending
        | closesNoticed => exact False.elim spending
    · rw [unspent] at spent
      cases spent
  · have inNext {account : Account υ} (found : ledger.accounts name = some account)
        (notified : (other, Act.notifies account.owner) ∈ log ++ [(party, act)])
        : ∃ account',
            (ledger.perform party act).accounts name = some account'
            ∧ (other, Act.notifies account'.owner) ∈ log ++ [(party, act)] := by
      obtain ⟨account', there, owner⟩ := later.accounts name account found
      exact ⟨account', there, owner ▸ notified⟩
    rcases perform_noticed ledger party act other with same | ⟨owner, rfl, rfl, same⟩
    · rw [same] at noticed
      obtain ⟨account, found, inLog⟩ := caused.noticed other name noticed
      exact inNext found (List.mem_append_left _ inLog)
    · rw [same] at noticed
      obtain ⟨account, found, rfl⟩ := noticed
      exact inNext found now
  · have inNext {page secondPage : Page α φ} (found : ledger.tokens token = some page)
        (also : ledger.tokens second = some secondPage)
        (family : secondPage.family = page.family)
        : ∃ page' secondPage',
            (ledger.perform party act).tokens token = some page'
            ∧ (ledger.perform party act).tokens second = some secondPage'
            ∧ secondPage'.family = page'.family := by
      obtain ⟨page', there, _, kept⟩ := later.tokens token page found
      obtain ⟨secondPage', here, _, kept'⟩ := later.tokens second secondPage also
      exact ⟨page', secondPage', there, here, kept'.trans (family.trans kept.symm)⟩
    rcases perform_accused ledger party act other with same | ⟨first, same⟩
    · rw [same] at inFirst inSecond
      obtain ⟨page, secondPage, found, also, family⟩ :=
        caused.accused other token second inFirst inSecond
      exact inNext found also family
    · rw [same] at inFirst inSecond
      obtain ⟨firstPage, page, there, found, family⟩ := inFirst
      obtain ⟨firstPage', secondPage, there', also, family'⟩ := inSecond
      cases there.symm.trans there'
      exact inNext found also (family'.trans family.symm)

/-- Everything that a reachable ledger says has its cause in the log, by induction on the
log. -/
theorem reaches_caused {log : List (κ × Act α υ φ τ)}
    (performed : machine.Reaches log ledger)
    : Caused log ledger := by
  induction log using List.reverseRecOn generalizing ledger with
  | nil =>
      cases Option.some.inj performed
      exact .empty
  | append_singleton front entry ih =>
      obtain ⟨middle, reached, last⟩ := Machine.exec_append_some _ performed
      obtain ⟨next, step, done⟩ := Option.bind_eq_some_iff.mp last
      cases Option.some.inj done
      obtain ⟨admits, rfl⟩ := machine_step_iff.mp step
      exact (ih reached).perform admits

end Ledger

end NexusComms.Storage
