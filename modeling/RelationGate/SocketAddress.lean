import RelationGate.Text.Scan
import RelationGate.Number.Digits

/-!
# Socket addresses

A socket address is an IP address and a port with a colon between them. An address of version 4 is
four numbers without leading zeros, one of version 6 stands in brackets: eight groups of hexadecimal
digits, of which a run of zeros may be left out once and the last two may be written as an address
of version 4; a zone may follow.
-/

namespace RelationGate

open Text Scan Number

/-- An IP address. -/
inductive IpAddress where
  | v4 (bytes : List Nat)
  /-- The zone is 0 if there is none. -/
  | v6 (groups : List Nat) (zone : Nat)
  deriving DecidableEq, Repr

/-- A socket address. -/
structure SocketAddress where
  address : IpAddress
  port : Nat
  deriving DecidableEq, Repr

namespace SocketAddress

/-- A number below a bound in digits of a base, of which there are at most so many. -/
def number (base most bound : Nat) (leadingZeros : Bool) : Scan Nat := do
  let digits ← someRun (isDigitIn base)
  let n := numberIn base digits
  if most < digits.length ∨ bound ≤ n then failure
  if !leadingZeros && digits.head? == some '0' && 1 < digits.length then failure
  return n

/-- The four numbers of an address of version 4. -/
def v4Bytes : Scan (List Nat) := do
  let part := number 10 3 256 false
  let first ← part
  return first :: (← (List.replicate 3 ()).mapM fun _ => char '.' *> part)

/-- Two groups written as an address of version 4. -/
def v4Groups : Scan (List Nat) := do
  match ← v4Bytes with
  | [a, b, c, d] => return [a * 256 + b, c * 256 + d]
  | _ => failure

/-- A colon in front of every group but the first. -/
def colonUnless (first : Bool) : Scan Unit := if first then pure () else char ':'

/-- At most so many groups, and whether an address of version 4 ends them. -/
def groups : Nat → Bool → Scan (List Nat × Bool)
  | 0, _ => return ([], false)
  | most + 1, first => do
    match ← maybe (if most = 0 then failure else colonUnless first *> v4Groups) with
    | some pair => return (pair, true)
    | none =>
      match ← maybe (colonUnless first *> number 16 4 65536 true) with
      | none => return ([], false)
      | some g =>
        let (rest, endsInV4) ← groups most false
        return (g :: rest, endsInV4)

/-- The eight groups of an address of version 6. -/
def v6Groups : Scan (List Nat) := do
  let (head, endsInV4) ← groups 8 true
  if head.length = 8 then return head
  if endsInV4 then failure
  literal "::"
  let (tail, _) ← groups (7 - head.length) true
  return head ++ List.replicate (8 - head.length - tail.length) 0 ++ tail

/-- A colon and a port. -/
def portNumber : Scan Nat := do
  char ':'
  let digits ← someRun isDecimal
  let n := numberIn 10 digits
  if n < 65536 then return n else failure

/-- The zone of an address of version 6. -/
def zone : Scan Nat := do
  char '%'
  let digits ← someRun isDecimal
  let n := numberIn 10 digits
  if n < UInt32.size then return n else failure

/-- A socket address. -/
def scanner : Scan SocketAddress :=
  (do return ⟨.v4 (← v4Bytes), ← portNumber⟩) <|> do
    char '['
    let groups ← v6Groups
    let zone := (← maybe zone).getD 0
    char ']'
    return ⟨.v6 groups zone, ← portNumber⟩

/-- The socket address that a text writes. -/
def ofText? (s : String) : Option SocketAddress := Scan.whole scanner s

/-- The address is one of this machine, or stands for all of them. -/
def isOwn (s : SocketAddress) : Bool :=
  let ofBytes (bytes : List Nat) : Bool := bytes.head? == some 127 || bytes.all (· == 0)
  match s.address with
  | .v4 bytes => ofBytes bytes
  | .v6 [0, 0, 0, 0, 0, 0xffff, a, b] _ => ofBytes [a / 256, a % 256, b / 256, b % 256]
  | .v6 groups _ => groups.dropLast.all (· == 0) && groups.getLastD 0 < 2

/-! ## Text -/

/-- The number of zeros that a list begins with. -/
def leadingZeros (groups : List Nat) : Nat := (groups.takeWhile (· == 0)).length

/-- Where the first of the longest runs of zeros begins, and its length. -/
def longestZeros (groups : List Nat) : Nat × Nat :=
  (List.range groups.length).foldl (fun best start =>
    let length := leadingZeros (groups.drop start)
    if best.2 < length then (start, length) else best) (0, 0)

/-- Numbers with dots between them. -/
def dotted (bytes : List Nat) : String := String.intercalate "." (bytes.map toString)

/-- Groups with colons between them. -/
def coloned (groups : List Nat) : String :=
  String.intercalate ":" (groups.map fun g => String.ofList (Nat.toDigits 16 g))

/-- The text of an address of version 6. The first of the longest runs of at least two zeros is left
out, and an address of version 4 in the form of version 6 is written as such. -/
def v6Text (groups : List Nat) : String :=
  match groups with
  | [0, 0, 0, 0, 0, 0xffff, a, b] => "::ffff:" ++ dotted [a / 256, a % 256, b / 256, b % 256]
  | _ =>
    let (start, length) := longestZeros groups
    if length < 2 then coloned groups
    else coloned (groups.take start) ++ "::" ++ coloned (groups.drop (start + length))

/-- The text of a socket address. -/
def text (s : SocketAddress) : String :=
  let host :=
    match s.address with
    | .v4 bytes => dotted bytes
    | .v6 groups zone =>
      "[" ++ v6Text groups ++ (if zone = 0 then "" else "%" ++ toString zone) ++ "]"
  host ++ ":" ++ toString s.port

end SocketAddress

/-- Why a server cannot listen. -/
inductive ListenFault where
  /-- The host and the port make no socket address. -/
  | address
  /-- The address is not one of this machine. -/
  | unavailable (address : SocketAddress)
  deriving DecidableEq, Repr

namespace ListenFault

/-- The words of a fault. -/
def describe : ListenFault → String
  | address => "invalid socket address syntax"
  | unavailable _ => "transport error"

end ListenFault

end RelationGate
