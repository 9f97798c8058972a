import PodTelemetry.Text.Digits

namespace PodTelemetry.Network

open PodTelemetry.Text (leadingDigits numberOf)

/-! ## Addresses that a server can listen at -/

/-- An IPv4 address, four bytes. -/
structure IPv4 where
  first : UInt8
  second : UInt8
  third : UInt8
  fourth : UInt8
  deriving DecidableEq, Repr, Inhabited

/-- An IPv6 address, eight groups of sixteen bits. -/
structure IPv6 where
  groups : List UInt16
  length_eq : groups.length = 8
  deriving DecidableEq, Repr

/-- A host and a port; the scope of an IPv6 address says on which link the host
is. -/
inductive SocketAddress where
  | overIPv4 (host : IPv4) (port : UInt16)
  | overIPv6 (host : IPv6) (scope : UInt32) (port : UInt16)
  deriving DecidableEq, Repr

def SocketAddress.port : SocketAddress → UInt16
  | .overIPv4 _ port => port
  | .overIPv6 _ _ port => port

/-! ### Writing -/

def IPv4.text (address : IPv4) : String :=
  let bytes := [address.first, address.second, address.third, address.fourth]
  ".".intercalate (bytes.map fun byte => toString byte.toNat)

namespace IPv6

def groupText (group : UInt16) : String :=
  String.ofList (Nat.toDigits 16 group.toNat)

def groupsText (groups : List UInt16) : String :=
  ":".intercalate (groups.map groupText)

/-- How many zeros the groups start with. -/
def leadingZeros : List UInt16 → Nat
  | [] => 0
  | group :: rest => if group = 0 then leadingZeros rest + 1 else 0

/-- Where the longest run of zeros begins, and its length; the first of several
longest ones. -/
def longestZeros : List UInt16 → Nat × Nat
  | [] => (0, 0)
  | group :: rest =>
      let here := leadingZeros (group :: rest)
      let (start, length) := longestZeros rest
      if length ≤ here then (0, here) else (start + 1, length)

/-- The IPv4 address that an address stands for, when all before it is the mark
of such addresses. -/
def mapped? (address : IPv6) : Option IPv4 :=
  match address.groups with
  | [0, 0, 0, 0, 0, 0xFFFF, high, low] =>
      some ⟨(high >>> 8).toUInt8, high.toUInt8, (low >>> 8).toUInt8,
            low.toUInt8⟩
  | _ => none

/-- Groups in hexadecimal. Two colons stand for the longest run of zeros, if it
has two at least. -/
def text (address : IPv6) : String :=
  match address.mapped? with
  | some inner => "::ffff:" ++ inner.text
  | none =>
      let (start, length) := longestZeros address.groups
      if length < 2 then groupsText address.groups
      else
        groupsText (address.groups.take start) ++ "::" ++
          groupsText (address.groups.drop (start + length))

end IPv6

/-- An IPv6 address stands in brackets, and so does its scope, unless that is
zero. -/
def SocketAddress.text : SocketAddress → String
  | .overIPv4 host port => s!"{host.text}:{port.toNat}"
  | .overIPv6 host scope port =>
      let within := if scope = 0 then "" else s!"%{scope.toNat}"
      s!"[{host.text}{within}]:{port.toNat}"

/-! ### Reading -/

/-- What comes after a character. -/
def after? (c : Char) : List Char → Option (List Char)
  | [] => none
  | first :: rest => if first = c then some rest else none

/-- A byte has up to three decimal digits and no zero before others. -/
def byte? (text : List Char) : Option (UInt8 × List Char) :=
  let (digits, rest) := leadingDigits 10 text
  let value := numberOf 10 digits
  if digits.isEmpty ∨ 3 < digits.length ∨
    (digits.head? = some 0 ∧ 1 < digits.length) ∨ 255 < value
  then none
  else some (value.toUInt8, rest)

def IPv4.read? (text : List Char) : Option (IPv4 × List Char) := do
  let (first, rest) ← byte? text
  let (second, rest) ← byte? (← after? '.' rest)
  let (third, rest) ← byte? (← after? '.' rest)
  let (fourth, rest) ← byte? (← after? '.' rest)
  return (⟨first, second, third, fourth⟩, rest)

/-- The two groups that an IPv4 address fills at the end of an IPv6 address. -/
def IPv4.groups (address : IPv4) : List UInt16 :=
  let join (high low : UInt8) : UInt16 :=
    (high.toUInt16 <<< 8) ||| low.toUInt16
  [join address.first address.second, join address.third address.fourth]

namespace IPv6

/-- A group has up to four hexadecimal digits. -/
def group? (text : List Char) : Option (UInt16 × List Char) :=
  let (digits, rest) := leadingDigits 16 text
  if digits.isEmpty ∨ 4 < digits.length then none
  else some ((numberOf 16 digits).toUInt16, rest)

/-- Groups as they are read one after the other. -/
structure Reading where
  groups : List UInt16
  /-- Whether the last two of them were written as an IPv4 address. -/
  isDotted : Bool
  rest : List Char

/-- At most so many groups, a colon between two of them. The last two may be
written as an IPv4 address, after which no other group is read. -/
def readGroups (isFirst : Bool) : (room : Nat) → List Char → Reading
  | 0, text => ⟨[], false, text⟩
  | room + 1, text =>
      let start := if isFirst then some text else after? ':' text
      match if room = 0 then none else start.bind IPv4.read? with
      | some (address, rest) => ⟨address.groups, true, rest⟩
      | none =>
          match start.bind group? with
          | none => ⟨[], false, text⟩
          | some (group, rest) =>
              let later := readGroups false room rest
              ⟨group :: later.groups, later.isDotted, later.rest⟩

/-- The address with these groups at its two ends and zeros between them. -/
def ofEnds? (head tail : List UInt16) : Option IPv6 :=
  let zeros := List.replicate (8 - head.length - tail.length) 0
  if length_eq : (head ++ zeros ++ tail).length = 8 then some ⟨_, length_eq⟩
  else none

/-- Eight groups, or fewer with two colons where one or more zeros are left
out. -/
def read? (text : List Char) : Option (IPv6 × List Char) := do
  let head := readGroups true 8 text
  if head.groups.length = 8 then return (← ofEnds? head.groups [], head.rest)
  else if head.isDotted then none
  else
    let tail :=
      readGroups true (7 - head.groups.length)
        (← after? ':' (← after? ':' head.rest))
    return (← ofEnds? head.groups tail.groups, tail.rest)

end IPv6

/-- A number after a sign, within the limit. -/
def numberAfter? (sign : Char) (limit : Nat) (text : List Char) :
    Option (Nat × List Char) := do
  let (digits, rest) := leadingDigits 10 (← after? sign text)
  let value := numberOf 10 digits
  if digits.isEmpty ∨ limit < value then none else some (value, rest)

def readPort? (text : List Char) : Option (UInt16 × List Char) :=
  (numberAfter? ':' 65535 text).map fun found => (found.1.toUInt16, found.2)

def readScope? (text : List Char) : Option (UInt32 × List Char) :=
  (numberAfter? '%' 4294967295 text).map fun found =>
    (found.1.toUInt32, found.2)

def SocketAddress.read? (text : List Char) :
    Option (SocketAddress × List Char) :=
  match after? '[' text with
  | some inner => do
      let (host, rest) ← IPv6.read? inner
      let (scope, rest) := (readScope? rest).getD (0, rest)
      let (port, rest) ← readPort? (← after? ']' rest)
      return (.overIPv6 host scope port, rest)
  | none => do
      let (host, rest) ← IPv4.read? text
      let (port, rest) ← readPort? rest
      return (.overIPv4 host port, rest)

/-- The address that the whole text writes. -/
def SocketAddress.ofText? (text : String) : Option SocketAddress :=
  match SocketAddress.read? text.toList with
  | some (address, []) => some address
  | _ => none

end PodTelemetry.Network
