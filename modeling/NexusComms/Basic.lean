/-! Identifiers, times and the kinds of calls. -/

namespace NexusComms

/-- Values of `gen_random_uuid()` and `uuidv4()`. -/
abbrev Uuid := Nat

/-- Pairs of ids are compared by their components. -/
instance : LawfulBEq (Uuid × Uuid) := inferInstance

/-- A point in time, in the unit of the clock that is read. -/
abbrev Time := Nat

/-- `socket.id`, unique for each connection. -/
abbrev SocketId := Nat

inductive CallType where
  | voice
  | video
deriving DecidableEq, Repr

end NexusComms
