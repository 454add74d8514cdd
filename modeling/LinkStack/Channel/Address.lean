import LinkStack.Text.Hex

/-!
Internet socket addresses and their texts.

An IPv4 address is four decimal numbers without leading zeros. An IPv6 address
is eight groups of at most four hexadecimal digits; `::` stands once for the
groups that are missing, at least one, and the last two groups may be written
as an IPv4 address. A port follows a colon, and an IPv6 address with a port
stands in brackets, with its scope after a percent sign. In the text that is
written, groups have no leading zeros and the first of the longest runs of two
or more zero groups is left out, save that an IPv4 address mapped into IPv6
shows as one.
-/

namespace LinkStack.Channel

structure IPv4 where
  a : UInt8
  b : UInt8
  c : UInt8
  d : UInt8
  deriving DecidableEq, Repr

structure IPv6 where
  groups : List UInt16
  length_groups : groups.length = 8
  deriving DecidableEq, Repr

inductive SocketAddress where
  | v4 (host : IPv4) (port : UInt16)
  | v6 (host : IPv6) (scope : UInt32) (port : UInt16)
  deriving DecidableEq, Repr

/-- Takes one character off the front of a text. -/
def readChar (c : Char) : List Char → Option (List Char)
  | [] => none
  | head :: rest => if head = c then some rest else none

/-- Reads a decimal number up to a limit. -/
def readDecimal (max : Nat) (chars : List Char) : Option (Nat × List Char) :=
  let digits := chars.takeWhile Char.isDigit
  let n := digits.foldl (fun n d => 10 * n + (d.toNat - '0'.toNat)) 0
  if digits ≠ [] ∧ n ≤ max then some (n, chars.dropWhile Char.isDigit) else none

/-- Reads a part of an IPv4 address. -/
def readOctet (chars : List Char) : Option (UInt8 × List Char) :=
  let digits := chars.takeWhile Char.isDigit
  if 1 < digits.length ∧ digits.head? = some '0' then none
  else (readDecimal 255 chars).map fun (n, rest) => (UInt8.ofNat n, rest)

def readIPv4 (chars : List Char) : Option (IPv4 × List Char) := do
  let (a, rest) ← readOctet chars
  let (b, rest) ← readOctet (← readChar '.' rest)
  let (c, rest) ← readOctet (← readChar '.' rest)
  let (d, rest) ← readOctet (← readChar '.' rest)
  return (⟨a, b, c, d⟩, rest)

/-- Reads a group of one to four hexadecimal digits. -/
def readGroup (chars : List Char) : Option (UInt16 × List Char) :=
  let digits := chars.takeWhile fun c => (Text.Hex.value? c).isSome
  if digits = [] ∨ 4 < digits.length then none
  else
    let n := (digits.filterMap Text.Hex.value?).foldl (fun n d => 16 * n + d) 0
    some (UInt16.ofNat n, chars.drop digits.length)

/-- The two groups of an IPv4 address. -/
def IPv4.groups (host : IPv4) : List UInt16 :=
  [UInt16.ofNat (256 * host.a.toNat + host.b.toNat),
    UInt16.ofNat (256 * host.c.toNat + host.d.toNat)]

/-- A run of groups: the groups, whether an IPv4 address ended it, and what
follows. -/
structure Run where
  groups : List UInt16
  endsInIPv4 : Bool
  rest : List Char

/-- Reads groups up to a limit; all but the first are behind a colon. -/
def readRun : Nat → Bool → List Char → Run
  | 0, _, chars => ⟨[], false, chars⟩
  | limit + 1, first, chars =>
    match if first then some chars else readChar ':' chars with
    | none => ⟨[], false, chars⟩
    | some body =>
      match if 1 ≤ limit then readIPv4 body else none with
      | some (host, rest) => ⟨host.groups, true, rest⟩
      | none =>
        match readGroup body with
        | none => ⟨[], false, chars⟩
        | some (group, rest) =>
          let run := readRun limit false rest
          { run with groups := group :: run.groups }

/-- The address with the given groups in front and at the back and zeros
between them. -/
def IPv6.ofEnds? (front back : List UInt16) : Option IPv6 :=
  let groups := front ++ List.replicate (8 - front.length - back.length) 0 ++ back
  if h : groups.length = 8 then some ⟨groups, h⟩ else none

def readIPv6 (chars : List Char) : Option (IPv6 × List Char) := do
  let head := readRun 8 true chars
  if head.groups.length = 8 then
    return (← IPv6.ofEnds? head.groups [], head.rest)
  else if head.endsInIPv4 then none
  else
    let rest ← readChar ':' (← readChar ':' head.rest)
    let tail := readRun (7 - head.groups.length) true rest
    return (← IPv6.ofEnds? head.groups tail.groups, tail.rest)

/-- Reads a colon and a port. -/
def readPort (chars : List Char) : Option (UInt16 × List Char) := do
  let (n, rest) ← readDecimal 65535 (← readChar ':' chars)
  return (UInt16.ofNat n, rest)

/-- Reads a scope, if there is one. -/
def readScope : List Char → Option (UInt32 × List Char)
  | '%' :: rest => (readDecimal (UInt32.size - 1) rest).map fun (n, rest) => (UInt32.ofNat n, rest)
  | chars => some (0, chars)

namespace SocketAddress

def readV4 (chars : List Char) : Option (SocketAddress × List Char) := do
  let (host, rest) ← readIPv4 chars
  let (port, rest) ← readPort rest
  return (.v4 host port, rest)

def readV6 (chars : List Char) : Option (SocketAddress × List Char) := do
  let (host, rest) ← readIPv6 (← readChar '[' chars)
  let (scope, rest) ← readScope rest
  let (port, rest) ← readPort (← readChar ']' rest)
  return (.v6 host scope port, rest)

/-- Reads an address with its port. -/
def parse (text : String) : Option SocketAddress :=
  match (readV4 text.toList).or (readV6 text.toList) with
  | some (address, []) => some address
  | _ => none

/-- Reads an address without a port, and gives it one. -/
def ofHost? (host : String) (port : UInt16) : Option SocketAddress :=
  match readIPv4 host.toList with
  | some (host, []) => some (.v4 host port)
  | _ =>
    match readIPv6 host.toList with
    | some (host, []) => some (.v6 host 0 port)
    | _ => none

end SocketAddress

def decimal (n : Nat) : List Char := Nat.toDigits 10 n

def IPv4.render (host : IPv4) : List Char :=
  decimal host.a.toNat ++ '.' :: decimal host.b.toNat ++ '.' :: decimal host.c.toNat ++
    '.' :: decimal host.d.toNat

/-- Groups with colons between them. -/
def renderGroups : List UInt16 → List Char
  | [] => []
  | [group] => Text.Hex.digits group.toNat
  | group :: rest => Text.Hex.digits group.toNat ++ ':' :: renderGroups rest

/-- The number of zero groups at the front. -/
def zeroPrefix (groups : List UInt16) : Nat := (groups.takeWhile (· = 0)).length

/-- The start and the length of the first of the longest runs of zeros. -/
def longestZeros (groups : List UInt16) : Nat × Nat :=
  (List.range groups.length).foldl
    (fun best start =>
      let length := zeroPrefix (groups.drop start)
      if best.2 < length then (start, length) else best)
    (0, 0)

/-- The IPv4 address that is mapped into an IPv6 address, if one is. -/
def IPv6.mapped? (host : IPv6) : Option IPv4 :=
  match host.groups with
  | [0, 0, 0, 0, 0, 0xFFFF, x, y] =>
    some ⟨(x >>> 8).toUInt8, x.toUInt8, (y >>> 8).toUInt8, y.toUInt8⟩
  | _ => none

def IPv6.render (host : IPv6) : List Char :=
  match host.mapped? with
  | some v4 => "::ffff:".toList ++ v4.render
  | none =>
    let (start, length) := longestZeros host.groups
    if 1 < length then
      renderGroups (host.groups.take start) ++ ':' :: ':' ::
        renderGroups (host.groups.drop (start + length))
    else renderGroups host.groups

/-- The text of an address. A scope of zero is not shown. -/
def SocketAddress.render : SocketAddress → String
  | .v4 host port => String.ofList (host.render ++ ':' :: decimal port.toNat)
  | .v6 host scope port =>
    let scope := if scope = 0 then [] else '%' :: decimal scope.toNat
    String.ofList ('[' :: host.render ++ scope ++ ']' :: ':' :: decimal port.toNat)

end LinkStack.Channel
