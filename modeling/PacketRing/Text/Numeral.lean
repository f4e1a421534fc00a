/-!
# Numerals

* `digit?`, `hexDigit?` : the values of digits;
* `digitsValue` : the value of a run of digits;
* `natBelow` : a decimal numeral below a bound, with an optional plus sign.
-/

namespace PacketRing.Text

/-- The value of an ASCII decimal digit. -/
def digit? (c : Char) : Option Nat :=
  if '0' ≤ c ∧ c ≤ '9' then some (c.toNat - '0'.toNat) else none

/-- The value of an ASCII hexadecimal digit. -/
def hexDigit? (c : Char) : Option Nat :=
  if '0' ≤ c ∧ c ≤ '9' then some (c.toNat - '0'.toNat)
  else if 'a' ≤ c ∧ c ≤ 'f' then some (c.toNat - 'a'.toNat + 10)
  else if 'A' ≤ c ∧ c ≤ 'F' then some (c.toNat - 'A'.toNat + 10)
  else none

/-- The value of `s` read as digits of the given base after `acc`, most significant first. -/
def digitsFrom (digit : Char → Option Nat) (base acc : Nat) : List Char → Option Nat
  | [] => some acc
  | c :: s =>
    match digit c with
    | some d => digitsFrom digit base (base * acc + d) s
    | none => none

/-- The value of a nonempty run of decimal digits. -/
def digitsValue (s : List Char) : Option Nat :=
  if s.isEmpty then none else digitsFrom digit? 10 0 s

/-- `s` without one leading plus sign. -/
def dropPlus : List Char → List Char
  | '+' :: s => s
  | s => s

/-- A decimal numeral: an optional plus sign and one or more digits, of value below `bound`. -/
def natBelow (bound : Nat) (s : List Char) : Option Nat :=
  (digitsValue (dropPlus s)).filter (· < bound)

end PacketRing.Text
