import Bacnet.Endpoint

set_option autoImplicit false

/-! # The text of addresses

An IPv4 address is four decimal numbers between points. An IPv6 address is eight groups of up to
four hexadecimal digits between colons; the longest run of two or more zero groups, the first of
them if there are several, is left out, and an address that embeds an IPv4 address shows it. A port
stands behind a colon, so an IPv6 address before a port goes in brackets. Reading takes every
spelling of an IPv6 address, but no superfluous zero in an IPv4 address. -/

namespace Bacnet

/-! ## Writing -/

/-- Hexadecimal digits without superfluous zeros. -/
def hexText (n : Nat) : String := .ofList (Nat.toDigits 16 n)

/-- Texts with a separator between them. -/
def joined (separator : String) (texts : List String) : String :=
  separator.intercalate texts

/-- The four numbers of an IPv4 address. -/
def ipv4Text (a b c d : UInt8) : String :=
  joined "." ([a, b, c, d].map fun o => toString o.toNat)

/-- The start and the length of the first longest run of zeros. -/
def longestZeroRun (segments : List UInt16) : Nat × Nat :=
  let runAt (start : Nat) := ((segments.drop start).takeWhile (· == 0)).length
  (List.range segments.length).foldl
    (fun best start => if best.2 < runAt start then (start, runAt start) else best) (0, 0)

/-- Groups of hexadecimal digits between colons. -/
def groupsText (segments : List UInt16) : String :=
  joined ":" (segments.map fun s => hexText s.toNat)

/-- The groups of an IPv6 address, or the IPv4 address that it embeds. -/
def ipv6Text (segments : List UInt16) : String :=
  match segments with
  | [0, 0, 0, 0, 0, 0xFFFF, high, low] =>
    "::ffff:" ++ ipv4Text (high >>> 8).toUInt8 high.toUInt8 (low >>> 8).toUInt8 low.toUInt8
  | _ =>
    match longestZeroRun segments with
    | (start, length) =>
      if 1 < length then
        groupsText (segments.take start) ++ "::" ++ groupsText (segments.drop (start + length))
      else groupsText segments

def IpAddress.label : IpAddress → String
  | .v4 a b c d => ipv4Text a b c d
  | .v6 segments => ipv6Text segments.toList

def Endpoint.label (e : Endpoint) : String :=
  let port := ":" ++ toString e.port.toNat
  match e.ip with
  | .v4 .. => e.ip.label ++ port
  | .v6 _ =>
    let scope := if e.scope = 0 then "" else "%" ++ toString e.scope.toNat
    "[" ++ e.ip.label ++ scope ++ "]" ++ port

/-! ## Reading -/

namespace AddressText

/-- A reading of the front of a text, with what is behind it. -/
abbrev Scan (α : Type) := List Char → Option (α × List Char)

/-- Reads a character that has to be the given one. -/
def char (expected : Char) : Scan Unit
  | c :: rest => if c = expected then some ((), rest) else none
  | [] => none

/-- The value of a digit in a base. -/
def digit? (base : Nat) (c : Char) : Option Nat :=
  let value :=
    if '0' ≤ c ∧ c ≤ '9' then c.toNat - '0'.toNat
    else if 'a' ≤ c ∧ c ≤ 'z' then c.toNat - 'a'.toNat + 10
    else if 'A' ≤ c ∧ c ≤ 'Z' then c.toNat - 'A'.toNat + 10
    else base
  if value < base then some value else none

/-- Reads all digits that follow as a number up to a bound. -/
def number (base bound : Nat) : Scan Nat := fun text =>
  let digits := text.takeWhile fun c => (digit? base c).isSome
  let n := digits.foldl (fun n c => n * base + (digit? base c).getD 0) 0
  if digits.isEmpty ∨ bound < n then none else some (n, text.drop digits.length)

/-- Reads a number of an IPv4 address: at most three digits, and no zero in front. -/
def byte : Scan UInt8 := fun text => do
  let (n, rest) ← number 10 255 text
  let count := text.length - rest.length
  if 3 < count ∨ (1 < count ∧ text.head? = some '0') then none else some (.ofNat n, rest)

/-- Reads an IPv4 address. -/
def ipv4 : Scan (UInt8 × UInt8 × UInt8 × UInt8) := fun text => do
  let (a, text) ← byte text
  let ((), text) ← char '.' text
  let (b, text) ← byte text
  let ((), text) ← char '.' text
  let (c, text) ← byte text
  let ((), text) ← char '.' text
  let (d, text) ← byte text
  return ((a, b, c, d), text)

/-- Reads a group of an IPv6 address: at most four digits. -/
def group : Scan UInt16 := fun text => do
  let (n, rest) ← number 16 0xFFFF text
  if 4 < text.length - rest.length then none else some (.ofNat n, rest)

/-- The groups that were read, whether the last two are an IPv4 address, and what is behind. -/
structure Groups where
  segments : List UInt16
  embedsIpv4 : Bool
  rest : List Char

/-- Reads groups up to a number of them; `separated` says that a colon stands before the first. -/
def groups : (limit : Nat) → (separated : Bool) → List Char → Groups
  | 0, _, text => ⟨[], false, text⟩
  | limit + 1, separated, text =>
    let inner := if separated then (char ':' text).map (·.2) else some text
    match inner with
    | none => ⟨[], false, text⟩
    | some inner =>
      match if limit = 0 then none else ipv4 inner with
      | some ((a, b, c, d), rest) =>
        ⟨[a.toUInt16 <<< 8 ||| b.toUInt16, c.toUInt16 <<< 8 ||| d.toUInt16], true, rest⟩
      | none =>
        match group inner with
        | none => ⟨[], false, text⟩
        | some (segment, rest) =>
          let more := groups limit true rest
          ⟨segment :: more.segments, more.embedsIpv4, more.rest⟩

/-- Eight groups as an address. -/
def ofSegments? (segments : List UInt16) : Option (Vector UInt16 8) :=
  if h : segments.length = 8 then some ⟨segments.toArray, by simpa using h⟩ else none

/-- Reads an IPv6 address: eight groups, or fewer with a double colon for the zeros that are left
    out. -/
def ipv6 : Scan (Vector UInt16 8) := fun text => do
  let front := groups 8 false text
  if front.segments.length = 8 then
    return (← ofSegments? front.segments, front.rest)
  if front.embedsIpv4 then none
  let ((), rest) ← char ':' front.rest
  let ((), rest) ← char ':' rest
  let back := groups (7 - front.segments.length) false rest
  let zeros := List.replicate (8 - front.segments.length - back.segments.length) 0
  return (← ofSegments? (front.segments ++ zeros ++ back.segments), back.rest)

/-- Reads an address of either kind. -/
def ip : Scan IpAddress := fun text =>
  match ipv4 text with
  | some ((a, b, c, d), rest) => some (.v4 a b c d, rest)
  | none => (ipv6 text).map fun (segments, rest) => (.v6 segments, rest)

/-- Reads the port behind an address. -/
def port : Scan UInt16 := fun text => do
  let ((), text) ← char ':' text
  let (n, text) ← number 10 0xFFFF text
  return (.ofNat n, text)

/-- Reads the number of the link behind an address. -/
def scope : Scan UInt32 := fun text => do
  let ((), text) ← char '%' text
  let (n, text) ← number 10 0xFFFFFFFF text
  return (.ofNat n, text)

/-- Reads an IPv6 address in brackets and a port. -/
def endpointV6 : Scan Endpoint := fun text => do
  let ((), text) ← char '[' text
  let (segments, text) ← ipv6 text
  let (link, text) := (scope text).getD (0, text)
  let ((), text) ← char ']' text
  let (port, text) ← port text
  return (⟨.v6 segments, port, link⟩, text)

/-- Reads an IPv4 address and a port. -/
def endpointV4 : Scan Endpoint := fun text => do
  let ((a, b, c, d), text) ← ipv4 text
  let (port, text) ← port text
  return (⟨.v4 a b c d, port, 0⟩, text)

/-- What a reading makes of a whole text. -/
def whole {α : Type} (scan : Scan α) (text : String) : Option α :=
  match scan text.toList with
  | some (a, []) => some a
  | _ => none

end AddressText

/-- The address that a text spells. -/
def IpAddress.ofText? (text : String) : Option IpAddress := AddressText.whole AddressText.ip text

def Endpoint.ofText? (text : String) : Option Endpoint :=
  (AddressText.whole AddressText.endpointV4 text).or (AddressText.whole AddressText.endpointV6 text)

end Bacnet
