import NexusComms.Audit.Addresses

/-! The address of an audit entry. `AuditService.log` passes an address on to the INSERT when
one of two regular expressions matches it, and swallows the error of an INSERT that fails, so
an address that passes the filter and is none to PostgreSQL loses the entry.
-/

namespace NexusComms.Audit

open Strings RegularExpression

/-- `(?:\d{1,3}\.){3}\d{1,3}`. -/
def dottedQuad : RegularExpression Char :=
  (between (oneOf digits) 1 3 * char '.') ^ 3 * between (oneOf digits) 1 3

/-- `[0-9a-fA-F:]+`. -/
def hexOrColon : RegularExpression Char := many (oneOf (hexDigits ++ [':']))

def isValidIp (ip : List Char) : Bool := dottedQuad.rmatch ip || hexOrColon.rmatch ip

/-- `ipAddress` of the socket: a string that the client writes, where it sends the header
`x-forwarded-for`. -/
def SignalingGateway.ipAddress (forwarded address : Option (List Char)) : List Char :=
  (forwarded <|> address).getD "unknown".toList

--------------------------------------------------------------------------------
-- The service
--------------------------------------------------------------------------------

variable {EventType Payload : Type} [EmptyCollection Payload]

structure AuditEntry (EventType Payload : Type) where
  userId : Option String
  anonymousId : Option String
  eventType : EventType
  payload : Option Payload
  ipAddress : Option (List Char)
  userAgent : Option String

/-- The columns of `audit_logs` beside the address. -/
structure Columns (EventType Payload : Type) where
  userId : Option String
  anonymousId : Option String
  eventType : EventType
  payload : Payload
  userAgent : Option String

structure AuditRow (EventType Payload : Type) extends Columns EventType Payload where
  ipAddress : Option (List Char)

/-- `audit_logs`, with what decides an INSERT: the cast of the address, and the foreign key,
the types and the lengths of the other columns. -/
structure AuditLogs (EventType Payload : Type) where
  inet : List Char → Bool
  admits : Columns EventType Payload → Bool
  rows : List (AuditRow EventType Payload)

inductive Refusal where
  | invalidInet
  | invalidColumn
deriving DecidableEq, Repr

/-- NULL is cast to NULL. -/
def AuditLogs.insert (table : AuditLogs EventType Payload) (row : AuditRow EventType Payload)
    : Except Refusal (AuditLogs EventType Payload) :=
  if row.ipAddress.all table.inet then
    if table.admits row.toColumns then
      .ok { table with rows := table.rows ++ [row] }
    else
      .error .invalidColumn
  else
    .error .invalidInet

/-- `audit.write_failed` on the console. -/
structure WriteFailed (EventType : Type) where
  message : Refusal
  eventType : EventType
  userId : Option String

def AuditEntry.columns (entry : AuditEntry EventType Payload) : Columns EventType Payload where
  userId := entry.userId
  anonymousId := entry.anonymousId
  eventType := entry.eventType
  payload := entry.payload.getD ∅
  userAgent := entry.userAgent

/-- `entry.ipAddress && isValidIp(entry.ipAddress) ? entry.ipAddress : null`. -/
def AuditEntry.ip (entry : AuditEntry EventType Payload) : Option (List Char) :=
  entry.ipAddress.filter fun ip => !ip.isEmpty && isValidIp ip

def AuditEntry.row (entry : AuditEntry EventType Payload) : AuditRow EventType Payload where
  toColumns := entry.columns
  ipAddress := entry.ip

/-- The table afterwards, and what is written on the console. -/
def AuditService.log (table : AuditLogs EventType Payload) (entry : AuditEntry EventType Payload)
    : AuditLogs EventType Payload × Option (WriteFailed EventType) :=
  match table.insert entry.row with
  | .ok table => (table, none)
  | .error message => (table, some ⟨message, entry.eventType, entry.userId⟩)

--------------------------------------------------------------------------------
-- The cast
--------------------------------------------------------------------------------

/-- What PostgreSQL documents of `::inet` on the strings that pass the filter: of four decimal
octets each is at most 255, and a string of hexadecimal digits and colons is an address when
it is one of IPv6. -/
structure Documented (inet : List Char → Bool) : Prop where
  dotted : ∀ {octets : List (List Char)}, octets.length = 4 → (∀ octet ∈ octets, Octet octet)
    → (inet (joined '.' octets) = true ↔ ∀ octet ∈ octets, numeral octet ≤ 255)
  colons : ∀ {s : List Char}, (∀ c ∈ s, c ∈ hexDigits ∨ c = ':')
    → (inet s = true ↔ WellFormedIPv6 s)

/-- The strings for which the filter keeps its promise: the octets are in range, the groups
and colons are those of an address. -/
structure Sound (s : List Char) : Prop where
  octets : dottedQuad.rmatch s = true → ∀ octet ∈ s.splitOn '.', numeral octet ≤ 255
  groups : hexOrColon.rmatch s = true → IPv6Shape s

/-- `::inet` on the strings that pass the filter. -/
def inetInput (s : List Char) : Bool :=
  if dottedQuad.rmatch s then decide (∀ octet ∈ s.splitOn '.', numeral octet ≤ 255)
  else hexOrColon.rmatch s && decide (IPv6Shape s)

theorem octet_iff {octet : List Char}
    : octet ∈ (between (oneOf digits) 1 3).matches' ↔ Octet octet := by
  rw [mem_oneOf_between (by decide)]
  constructor
  · rintro ⟨⟨low, high⟩, decimal⟩
    exact ⟨List.ne_nil_of_length_pos low, high, decimal⟩
  · rintro ⟨nonempty, short, decimal⟩
    exact ⟨⟨List.length_pos_of_ne_nil nonempty, short⟩, decimal⟩

theorem dottedQuad_iff {s : List Char}
    : dottedQuad.rmatch s = true
      ↔ ∃ octets : List (List Char), octets.length = 4 ∧ (∀ octet ∈ octets, Octet octet)
        ∧ s = joined '.' octets := by
  rw [rmatch_iff_matches', dottedQuad, mem_separated]
  simp only [octet_iff]

theorem hexOrColon_iff {s : List Char}
    : hexOrColon.rmatch s = true ↔ s ≠ [] ∧ ∀ c ∈ s, c ∈ hexDigits ∨ c = ':' := by
  rw [rmatch_iff_matches', hexOrColon, mem_oneOf_many]
  simp only [List.mem_append, List.mem_singleton]

/-- The octets are found again between the dots. -/
theorem splitOn_octets {octets : List (List Char)} (four : octets.length = 4)
    (each : ∀ octet ∈ octets, Octet octet)
    : (joined '.' octets).splitOn '.' = octets := by
  refine List.splitOn_intercalate '.' (fun octet hmem dot => ?_) ?_
  · exact absurd ((each octet hmem).decimal '.' dot) (by decide)
  · exact List.ne_nil_of_length_eq_add_one four

/-- The two expressions match different strings. -/
theorem dottedQuad_not_hex {s : List Char} (quad : dottedQuad.rmatch s = true)
    : '.' ∈ s := by
  obtain ⟨octets, four, each, rfl⟩ := dottedQuad_iff.mp quad
  obtain ⟨first, rest, rfl⟩ := List.exists_cons_of_length_eq_add_one four
  rw [joined_cons (List.ne_nil_of_length_eq_add_one (by simpa using four))]
  simp

theorem inetInput_documented : Documented inetInput := by
  constructor
  case dotted =>
    intro octets four each
    have quad : dottedQuad.rmatch (joined '.' octets) = true :=
      dottedQuad_iff.mpr ⟨octets, four, each, rfl⟩
    rw [inetInput, if_pos quad, splitOn_octets four each, decide_eq_true_iff]
  case colons =>
    intro s chars
    have apart : ¬ dottedQuad.rmatch s = true := fun quad =>
      absurd (chars '.' (dottedQuad_not_hex quad)) (by decide)
    rw [inetInput, if_neg apart, wellFormedIPv6_iff chars, Bool.and_eq_true, decide_eq_true_iff]
    refine ⟨And.right, fun shape => ⟨hexOrColon_iff.mpr ⟨?_, chars⟩, shape⟩⟩
    rintro rfl
    exact absurd shape.count (by decide)

/-- The cast accepts what the filter lets through exactly on the sound strings. -/
theorem filter_sound_iff {inet : List Char → Bool} (documented : Documented inet) {s : List Char}
    : (isValidIp s = true → inet s = true) ↔ Sound s := by
  rw [isValidIp, Bool.or_eq_true]
  constructor
  · intro kept
    constructor
    case octets =>
      intro quad
      have accepted := kept (Or.inl quad)
      obtain ⟨octets, four, each, rfl⟩ := dottedQuad_iff.mp quad
      rw [splitOn_octets four each]
      exact (documented.dotted four each).mp accepted
    case groups =>
      intro hex
      have chars := (hexOrColon_iff.mp hex).2
      exact (wellFormedIPv6_iff chars).mp ((documented.colons chars).mp (kept (Or.inr hex)))
  · rintro sound (quad | hex)
    · have range := sound.octets quad
      obtain ⟨octets, four, each, rfl⟩ := dottedQuad_iff.mp quad
      rw [splitOn_octets four each] at range
      exact (documented.dotted four each).mpr range
    · have chars := (hexOrColon_iff.mp hex).2
      exact (documented.colons chars).mpr ((wellFormedIPv6_iff chars).mpr (sound.groups hex))

/-- An entry whose other columns are admitted is kept when the cast accepts what is left of
its address. -/
theorem log_keeps {table : AuditLogs EventType Payload} {entry : AuditEntry EventType Payload}
    (admitted : table.admits entry.columns = true) (cast : entry.ip.all table.inet = true)
    : AuditService.log table entry = ({ table with rows := table.rows ++ [entry.row] }, none) := by
  have inserted : table.insert entry.row = .ok { table with rows := table.rows ++ [entry.row] } := by
    rw [AuditLogs.insert, if_pos (show entry.row.ipAddress.all table.inet from cast),
      if_pos (show table.admits entry.row.toColumns from admitted)]
  rw [AuditService.log, inserted]

/-- No entry is lost for its address exactly when the address is sound. -/
theorem ip_filter_protects_iff {inet : List Char → Bool} (documented : Documented inet)
    (s : List Char)
    : ((isValidIp s = true → inet s = true)
        ∧ ∀ (table : AuditLogs EventType Payload) (entry : AuditEntry EventType Payload),
          table.inet = inet → entry.ipAddress = some s → table.admits entry.columns = true
            → (AuditService.log table entry).1.rows = table.rows ++ [entry.row])
      ↔ Sound s := by
  rw [← filter_sound_iff documented]
  refine ⟨And.left, fun kept => ⟨kept, fun table entry same hs admitted => ?_⟩⟩
  have cast : entry.ip.all table.inet = true := by
    rw [AuditEntry.ip, hs, Option.filter_some]
    split
    · next passed =>
        rw [Option.all_some, same]
        exact kept (Bool.and_eq_true_iff.mp passed).2
    · rfl
  rw [log_keeps admitted cast]

theorem ip_filter_protects_loopback
    : isValidIp "::1".toList = true
      ∧ ∀ table : AuditLogs String (List String), table.inet = inetInput → ∀ entry,
        entry.ipAddress = some "::1".toList → table.admits entry.columns = true
          → (AuditService.log table entry).1.rows = table.rows ++ [entry.row] := by
  have sound : Sound "::1".toList := ⟨by decide, fun _ => by decide⟩
  exact ⟨by decide, fun table same entry =>
    ((ip_filter_protects_iff inetInput_documented "::1".toList).mpr sound).2 table entry same⟩

/-- A client that sends such a header is not in the audit log. -/
theorem spoofed_address_lost
    : Documented inetInput
      ∧ SignalingGateway.ipAddress (some "999.1.1.1".toList) none = "999.1.1.1".toList
      ∧ isValidIp "999.1.1.1".toList = true ∧ inetInput "999.1.1.1".toList = false
      ∧ (AuditService.log
          (⟨inetInput, fun _ => true, []⟩ : AuditLogs String (List String))
          ⟨some "alice", none, "call.initiated", none, some "999.1.1.1".toList, none⟩).1.rows
        = [] :=
  ⟨inetInput_documented, rfl, by decide, by decide, by decide⟩

end NexusComms.Audit
