import Mathlib.Logic.Function.Basic
import NexusComms.Basic

/-! `MatchmakingService` on its two Redis keys, suspended at every command. A stage is named
after the command that its next step runs; what the code computes between two commands
belongs to the second one.
-/

namespace NexusComms.Matchmaking

structure QueueEntry where
  anonymousId : Uuid
  userId : Option Uuid
  socketId : SocketId
  preferredType : CallType
  isAnonymous : Bool
deriving DecidableEq, Repr

/-- An anonymous visitor who waits for a video call. -/
def visitor (socketId : SocketId) : QueueEntry :=
  ⟨1000 + socketId, none, socketId, .video, true⟩

/-- `{ ...entry, enqueuedAt: Date.now() }`. -/
structure TimedEntry extends QueueEntry where
  enqueuedAt : Time
deriving DecidableEq, Repr

/-- The JSON text of an entry, from which the entry can be read back. -/
structure Serialized where
  stringify ::
  parse : TimedEntry
deriving DecidableEq, Repr

/-- One element of the list `matchmaking:queue`. The tag names the `enqueue` call that has
pushed it, so that equal texts pushed twice stay apart. -/
structure Item where
  raw : Serialized
  tag : Nat
deriving DecidableEq, Repr

def Item.socketId (item : Item) : SocketId := item.raw.parse.socketId

/-- The rows that the service writes through `AuditService.log`. -/
inductive AuditRow where
  | matchQueued (userId : Option Uuid) (anonymousId : Uuid) (socketId : SocketId)
    (preferredType : CallType)
  | matchFound (user1 user2 : Uuid)
  | matchCancelled (userId : Option Uuid) (anonymousId : Uuid) (socketId : SocketId)
deriving DecidableEq, Repr

/-- A pair returned by a `tryMatch` whose `Date.now()` was `now`. -/
structure Match where
  first : Item
  second : Item
  now : Time
deriving DecidableEq, Repr

/-- An entry discarded as stale by a `tryMatch` whose `Date.now()` was `now`. -/
structure Discard where
  item : Item
  now : Time
deriving DecidableEq, Repr

/-- `matchmaking:queue`, `matchmaking:sockets` and the audit rows written. The last fields are
history: every entry pushed, matched, discarded and removed by LREM, and how many scripts
have found fewer than two entries.
-/
structure QueueStore where
  queue : List Item
  sockets : SocketId → Option Serialized
  audits : List AuditRow
  pushed : List Item
  matched : List Match
  discarded : List Discard
  removed : List Item
  misses : Nat

def QueueStore.empty : QueueStore := ⟨[], fun _ => none, [], [], [], [], [], 0⟩

/-- HDEL of one field of `matchmaking:sockets`. -/
def QueueStore.hdel (store : QueueStore) (socketId : SocketId) : QueueStore :=
  { store with sockets := Function.update store.sockets socketId none }

/-- `QUEUE_TTL`, in seconds. -/
def queueTtl : Nat := 300

def ttlMs : Nat := queueTtl * 1000

/-- `!parsed.enqueuedAt || now - parsed.enqueuedAt < ttlMs`. -/
def Item.fresh (item : Item) (now : Time) : Bool :=
  item.raw.parse.enqueuedAt = 0 || decide (now - item.raw.parse.enqueuedAt < ttlMs)

inductive EnqueueStage where
  | rpush
  | hset (raw : Serialized)
  | audit
  | llen
  | returned (position : Nat)
deriving DecidableEq, Repr

/-- Where `tryMatch` stands. `popped` remembers how many scripts had missed by then. -/
inductive TryMatchStage where
  | eval
  | popped (first second : Item) (misses : Nat)
  | hdelStale (stale : Item) (now : Time)
  | audit (first second : Item) (now : Time)
  | returned (pair : Option (Item × Item))
deriving DecidableEq, Repr

inductive DequeueStage where
  | hget
  | lrem (raw : Serialized)
  | hdel (raw : Serialized)
  | audit (raw : Serialized)
  | returned
deriving DecidableEq, Repr

/-- The next command of `MatchmakingService.enqueue`. -/
def MatchmakingService.enqueue (tag : Nat) (now : Time) (store : QueueStore)
    (entry : QueueEntry)
    : EnqueueStage → Option (QueueStore × EnqueueStage)
  | .rpush =>
      let raw : Serialized := .stringify { entry with enqueuedAt := now }
      some (
        {
          store with
          queue := store.queue ++ [⟨raw, tag⟩]
          pushed := store.pushed ++ [⟨raw, tag⟩]
        },
        .hset raw)
  | .hset raw =>
      some ({ store with sockets := Function.update store.sockets entry.socketId (some raw) },
        .audit)
  | .audit =>
      some (
        {
          store with
          audits :=
            store.audits
              ++ [.matchQueued entry.userId entry.anonymousId entry.socketId
                    entry.preferredType]
        },
        .llen)
  | .llen => some (store, .returned store.queue.length)
  | .returned _ => none

/-- The next command of `MatchmakingService.tryMatch`. The first one is the Lua script; the
command after it depends on the age of the two entries at `Date.now()`. -/
def MatchmakingService.tryMatch (now : Time) (store : QueueStore)
    : TryMatchStage → Option (QueueStore × TryMatchStage)
  | .eval =>
      match store.queue with
      | first :: second :: rest =>
          some ({ store with queue := rest }, .popped first second store.misses)
      | _ => some ({ store with misses := store.misses + 1 }, .returned none)
  | .popped first second _ =>
      if first.fresh now = false ∧ second.fresh now = false then
        some (
          {
            (store.hdel first.socketId).hdel second.socketId with
            discarded := store.discarded ++ [⟨first, now⟩, ⟨second, now⟩]
          },
          .returned none)
      else if first.fresh now = false then
        -- entry1 stale, put entry2 back
        some ({ store with queue := second :: store.queue }, .hdelStale first now)
      else if second.fresh now = false then
        -- entry2 stale, put entry1 back
        some ({ store with queue := first :: store.queue }, .hdelStale second now)
      else
        some ((store.hdel first.socketId).hdel second.socketId, .audit first second now)
  | .hdelStale stale now =>
      some (
        { store.hdel stale.socketId with discarded := store.discarded ++ [⟨stale, now⟩] },
        .returned none)
  | .audit first second now =>
      some (
        {
          store with
          audits :=
            store.audits
              ++ [.matchFound
                    (first.raw.parse.userId.getD first.raw.parse.anonymousId)
                    (second.raw.parse.userId.getD second.raw.parse.anonymousId)]
          matched := store.matched ++ [⟨first, second, now⟩]
        },
        .returned (some (first, second)))
  | .returned _ => none

/-- The next command of `MatchmakingService.dequeue`. LREM removes the first element with
this text. -/
def MatchmakingService.dequeue (store : QueueStore) (socketId : SocketId)
    : DequeueStage → Option (QueueStore × DequeueStage)
  | .hget =>
      match store.sockets socketId with
      | none => some (store, .returned)
      | some raw => some (store, .lrem raw)
  | .lrem raw =>
      some (
        {
          store with
          queue := store.queue.eraseP (fun item => item.raw = raw)
          removed :=
            store.removed ++ (store.queue.find? (fun item => item.raw = raw)).toList
        },
        .hdel raw)
  | .hdel raw => some (store.hdel socketId, .audit raw)
  | .audit raw =>
      some (
        {
          store with
          audits :=
            store.audits ++ [.matchCancelled raw.parse.userId raw.parse.anonymousId socketId]
        },
        .returned)
  | .returned => none

end NexusComms.Matchmaking
