import NexusComms.Concurrency.Script

/-! A client of a connection pool: the committed state of the database, the transaction that
the client has open, and how often it has been given back. A failing statement aborts the
transaction, an aborted transaction accepts nothing until it ends, and a COMMIT of one is a
ROLLBACK. A COMMIT whose answer is lost has committed all the same.
-/

namespace NexusComms.Storage

open Concurrency Concurrency.Script

/-- A transaction sees what it has written itself, unless a statement of it has failed. -/
inductive Transaction (τ : Type) where
  | running (tables : τ)
  | aborted
deriving DecidableEq, Repr

structure PooledClient (τ : Type) where
  committed : τ
  transaction : Option (Transaction τ)
  released : Nat
deriving DecidableEq, Repr

namespace PooledClient

variable {τ ν ε α : Type}

/-- Before a client is taken from the pool. -/
def idle (tables : τ) : PooledClient τ := ⟨tables, none, 0⟩

/-- A failed statement aborts the transaction. -/
def abort (client : PooledClient τ) : PooledClient τ :=
  { client with transaction := client.transaction.map (fun _ => .aborted) }

/-- `pool.connect()`. -/
def connect (name : ν) (error : ε) : Script (ν × Moment) (PooledClient τ) ε Unit :=
  .awaited name error (fun client => (.ok (), client))

/-- A statement of the client. When it fails, before it takes effect or after, the transaction
that is open then is aborted. -/
def command (name : ν) (error : ε) (effect : PooledClient τ → Except ε α × PooledClient τ)
    : Script (ν × Moment) (PooledClient τ) ε α := do
  let value ← .spoiling (name, .before) error abort effect
  .spoiling (name, .after) error abort (fun client => (.ok value, client))

/-- BEGIN; inside a transaction it only warns. -/
def begin (name : ν) (error : ε) : Script (ν × Moment) (PooledClient τ) ε Unit :=
  command name error (fun client =>
    match client.transaction with
    | none => (.ok (), { client with transaction := some (.running client.committed) })
    | some _ => (.ok (), client))

/-- Any other statement. Without a transaction it commits by itself. -/
def query (name : ν) (error : ε) (effect : τ → α × τ)
    : Script (ν × Moment) (PooledClient τ) ε α :=
  command name error (fun client =>
    match client.transaction with
    | none =>
        let (value, tables) := effect client.committed
        (.ok value, { client with committed := tables })
    | some (.running tables) =>
        let (value, tables') := effect tables
        (.ok value, { client with transaction := some (.running tables') })
    | some .aborted => (.error error, client))

/-- COMMIT; without a transaction it only warns. -/
def commit (name : ν) (error : ε) : Script (ν × Moment) (PooledClient τ) ε Unit :=
  command name error (fun client =>
    match client.transaction with
    | none => (.ok (), client)
    | some (.running tables) => (.ok (), { client with committed := tables, transaction := none })
    | some .aborted => (.ok (), { client with transaction := none }))

/-- ROLLBACK; without a transaction it only warns. -/
def rollback (name : ν) (error : ε) : Script (ν × Moment) (PooledClient τ) ε Unit :=
  command name error (fun client => (.ok (), { client with transaction := none }))

/-- `client.release()`. -/
def release : Script (ν × Moment) (PooledClient τ) ε Unit :=
  .modify (fun client => { client with released := client.released + 1 })

/-- A statement of the pool, which runs on another client and commits by itself. -/
def poolQuery (name : ν) (error : ε) (effect : τ → α × τ)
    : Script (ν × Moment) (PooledClient τ) ε α :=
  .awaited name error (fun client =>
    let (value, tables) := effect client.committed
    (.ok value, { client with committed := tables }))

section

variable {fails : ν × Moment → Bool} {post : Except ε Unit → PooledClient τ → Prop}
  {result : Except ε α → PooledClient τ → Prop} {client : PooledClient τ}
  {committed tables : τ} {released : Nat} {name : ν} {error : ε}

/-- The committed state survives whatever the transaction has done. -/
@[simp]
theorem abort_committed : client.abort.committed = client.committed := rfl

@[simp]
theorem abort_released : client.abort.released = client.released := rfl

@[simp]
theorem abort_running
    : abort ⟨committed, some (.running tables), released⟩
      = ⟨committed, some .aborted, released⟩ :=
  rfl

@[simp]
theorem abort_none : abort ⟨committed, none, released⟩ = ⟨committed, none, released⟩ := rfl

theorem settles_connect
    : (connect name error).Settles fails client post
      ↔ (breaks fails name = true → post (.error error) client)
        ∧ (breaks fails name = false → post (.ok ()) client) := by
  unfold connect breaks
  rw [settles_awaited]
  cases fails (name, .before) with
  | true => simp
  | false => simp

/-- A statement fails before it takes effect, or is refused, or its answer is lost, or it
returns. -/
theorem settles_command (effect : PooledClient τ → Except ε α × PooledClient τ)
    : (command name error effect).Settles fails client result
      ↔ (fails (name, .before) = true → result (.error error) client.abort)
        ∧ (fails (name, .before) = false →
            match (effect client).1 with
            | .error thrown => result (.error thrown) (effect client).2
            | .ok value =>
                (fails (name, .after) = true → result (.error error) (effect client).2.abort)
                ∧ (fails (name, .after) = false → result (.ok value) (effect client).2)) := by
  unfold command
  rw [settles_bind, settles_spoiling]
  cases (effect client).1 with
  | error thrown => exact Iff.rfl
  | ok value =>
      dsimp only
      rw [settles_spoiling]

/-- BEGIN opens a transaction on the committed state. -/
theorem settles_begin
    : (begin name error).Settles fails ⟨committed, none, released⟩ post
      ↔ (fails (name, .before) = true → post (.error error) ⟨committed, none, released⟩)
        ∧ (fails (name, .before) = false →
            (fails (name, .after) = true →
              post (.error error) ⟨committed, some .aborted, released⟩)
            ∧ (fails (name, .after) = false →
              post (.ok ()) ⟨committed, some (.running committed), released⟩)) :=
  settles_command ..

/-- A statement of a transaction that fails has not come to anything. -/
theorem settles_query (effect : τ → α × τ)
    : (query name error effect).Settles fails ⟨committed, some (.running tables), released⟩
        result
      ↔ (breaks fails name = true →
          result (.error error) ⟨committed, some .aborted, released⟩)
        ∧ (breaks fails name = false →
            result (.ok (effect tables).1)
              ⟨committed, some (.running (effect tables).2), released⟩) := by
  unfold query breaks
  rw [settles_command]
  cases fails (name, .before) with
  | true => simp
  | false => simp

/-- COMMIT publishes what the transaction has written, unless it fails before. -/
theorem settles_commit
    : (commit name error).Settles fails ⟨committed, some (.running tables), released⟩ post
      ↔ (fails (name, .before) = true →
          post (.error error) ⟨committed, some .aborted, released⟩)
        ∧ (fails (name, .before) = false →
            (fails (name, .after) = true → post (.error error) ⟨tables, none, released⟩)
            ∧ (fails (name, .after) = false → post (.ok ()) ⟨tables, none, released⟩)) :=
  settles_command ..

/-- ROLLBACK ends whatever transaction there is, unless it fails before. -/
theorem settles_rollback
    : (rollback name error).Settles fails client post
      ↔ (fails (name, .before) = true → post (.error error) client.abort)
        ∧ (fails (name, .before) = false →
            (fails (name, .after) = true →
              post (.error error) { client with transaction := none })
            ∧ (fails (name, .after) = false →
              post (.ok ()) { client with transaction := none })) :=
  settles_command ..

theorem settles_release
    : release.Settles fails client post
      ↔ post (.ok ()) { client with released := client.released + 1 } :=
  Iff.rfl

/-- What the ROLLBACK of a handler leaves of the transaction. -/
def compensated (fails : ν × Moment → Bool) (compensate : ν) (client : PooledClient τ)
    : PooledClient τ :=
  if fails (compensate, .before) then client.abort else { client with transaction := none }

@[simp]
theorem compensated_committed {compensate : ν}
    : (client.compensated fails compensate).committed = client.committed := by
  unfold compensated
  split
  · rfl
  · rfl

/-- A transaction whose handler rolls back, and which gives the client back in any case. -/
theorem settles_compensated {body : Script (ν × Moment) (PooledClient τ) ε α} {compensate : ν}
    : (tryFinally
          (tryCatch body
            (fun thrown => do
              tryCatch (rollback compensate error) (fun _ => pure ())
              throw thrown))
          release).Settles fails client result
      ↔ body.Settles fails client
          (fun ended after =>
            match ended with
            | .ok value => result (.ok value) { after with released := after.released + 1 }
            | .error thrown =>
                result (.error thrown)
                  { after.compensated fails compensate with released := after.released + 1 }) := by
  simp only [settles_tryFinally, settles_tryCatch]
  refine iff_of_eq (congrArg (body.Settles fails client) ?_)
  funext ended after
  cases ended with
  | ok value => rfl
  | error thrown =>
      unfold compensated
      simp only [settles_bind, settles_tryCatch, settles_rollback, settles_release,
        settles_pure, settles_throw]
      cases fails (compensate, .before) with
      | true => simp
      | false =>
          cases fails (compensate, .after) with
          | true => simp
          | false => simp

/-- A statement of the pool takes effect, unless it fails before. -/
theorem settles_poolQuery (effect : τ → α × τ)
    : (poolQuery name error effect).Settles fails client result
      ↔ (fails (name, .before) = true → result (.error error) client)
        ∧ (fails (name, .before) = false →
            (fails (name, .after) = true →
              result (.error error)
                { client with committed := (effect client.committed).2 })
            ∧ (fails (name, .after) = false →
              result (.ok (effect client.committed).1)
                { client with committed := (effect client.committed).2 })) :=
  settles_awaited ..

end

end PooledClient

end NexusComms.Storage
