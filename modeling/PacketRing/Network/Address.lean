import PacketRing.Text.Numeral

/-!
# Internet addresses

* `Address` : an IPv4 or IPv6 address as a number of 32 or 128 bits;
* `Address.takeV4`, `Address.takeV6` : reading one from the front of a text;
* `Address.ofText?` : reading a whole text.
-/

namespace PacketRing

/-- The two families of addresses. -/
inductive AddressFamily where
  | v4 | v6
  deriving DecidableEq, Repr

/-- How many bits an address has. -/
def AddressFamily.width : AddressFamily → Nat
  | v4 => 32
  | v6 => 128

/-- An address; its value has the leading bits first. -/
structure Address where
  family : AddressFamily
  value : Nat
  deriving DecidableEq, Repr

namespace Address

/-- All the digits at the front of a text, if there is one at least, at most `maxDigits`, and their
value is below `bound`. -/
def takeNumber (digit : Char → Option Nat) (base maxDigits bound : Nat) (s : List Char) :
    Option (Nat × List Char) :=
  let digits := s.takeWhile fun c => (digit c).isSome
  if digits.isEmpty ∨ maxDigits < digits.length then none
  else
    match Text.digitsFrom digit base 0 digits with
    | some n => if n < bound then some (n, s.drop digits.length) else none
    | none => none

/-- A decimal number at the front of a text. -/
def takeDecimal (maxDigits bound : Nat) (s : List Char) : Option (Nat × List Char) :=
  takeNumber Text.digit? 10 maxDigits bound s

/-- A given character at the front of a text. -/
def takeChar (c : Char) : List Char → Option (List Char)
  | d :: s => if d = c then some s else none
  | [] => none

/-- `more` further octets, each after a point. -/
def takeOctets (acc : Nat) (s : List Char) : Nat → Option (Nat × List Char)
  | 0 => some (acc, s)
  | more + 1 => do
    let s ← takeChar '.' s
    let (octet, s) ← takeDecimal 3 256 s
    takeOctets (256 * acc + octet) s more

/-- The value of an IPv4 address at the front of a text: four decimal octets. -/
def takeV4 (s : List Char) : Option (Nat × List Char) := do
  let (octet, s) ← takeDecimal 3 256 s
  takeOctets octet s 3

/-- The colon before every group but the first. -/
def takeSeparator (isFirst : Bool) (s : List Char) : Option (List Char) :=
  if isFirst then some s else takeChar ':' s

/-- Up to `limit` groups of 16 bits at the front of a text, and whether the last two were written
as an IPv4 address. -/
def takeGroups (isFirst : Bool) (s : List Char) : Nat → List Nat × Bool × List Char
  | 0 => ([], false, s)
  | limit + 1 =>
    match if 0 < limit then takeSeparator isFirst s >>= takeV4 else none with
    | some (v4, s) => ([v4 / UInt16.size, v4 % UInt16.size], true, s)
    | none =>
      match takeSeparator isFirst s >>= takeNumber Text.hexDigit? 16 4 UInt16.size with
      | some (group, s) =>
        let (groups, embedded, s) := takeGroups false s limit
        (group :: groups, embedded, s)
      | none => ([], false, s)

/-- The number with the given 16-bit groups, leading ones first. -/
def ofGroups (groups : List Nat) : Nat := groups.foldl (fun acc g => UInt16.size * acc + g) 0

/-- The value of an IPv6 address at the front of a text: eight groups, or fewer with a double colon
for the zeros in between. No IPv4 address stands before a double colon. -/
def takeV6 (s : List Char) : Option (Nat × List Char) :=
  match takeGroups true s 8 with
  | (head, embedded, s) =>
    if head.length = 8 then some (ofGroups head, s)
    else if embedded then none
    else do
      let s ← takeChar ':' s
      let s ← takeChar ':' s
      let (tail, _, s) := takeGroups true s (8 - head.length)
      some (ofGroups (head ++ List.replicate (8 - head.length - tail.length) 0 ++ tail), s)

/-- Reads an address. -/
def ofText? (s : String) : Option Address :=
  match takeV4 s.toList with
  | some (value, []) => some ⟨.v4, value⟩
  | _ =>
    match takeV6 s.toList with
    | some (value, []) => some ⟨.v6, value⟩
    | _ => none

end Address

end PacketRing
