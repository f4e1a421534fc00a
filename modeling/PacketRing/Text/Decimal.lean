/-!
# Decimal forms of floating-point numbers

* `Decimal` : a whole number times a power of ten;
* `Rounding` : the reals that round to a number;
* `Decimal.ofFloat` : the form with the fewest digits that tells a number from all others;
* `Decimal.writtenOut` : the same with the zeros that are written behind a whole number;
* `Decimal.toFloat` : the value of a form, taken digits first. It can be off in the last bit.
-/

namespace PacketRing

/-- The number `digits · 10 ^ exponent`. -/
structure Decimal where
  digits : Nat
  exponent : Int
  deriving DecidableEq, Repr

/-! ## Rounding -/

/-- The reals that round to a number: those from `low` to `high`, counted like the number itself in
parts of which `unit` make one. -/
structure Rounding where
  low : Nat
  number : Nat
  high : Nat
  unit : Nat
  /-- The two ends round to the number, too. -/
  closed : Bool
  deriving DecidableEq, Repr

namespace Rounding

/-- The reals that round to a positive number: up to half the way to its neighbours. The one below
a power of two is half as far away as the one above. Ties go to even mantissas. -/
def ofFloat (x : Float) : Rounding :=
  let hidden := 4503599627370496
  let bits := x.toBits.toNat
  let fraction := bits % hidden
  let exponent := bits / hidden % 2048
  let mantissa := if exponent = 0 then fraction else fraction + hidden
  let shift := exponent - 1
  let below := if fraction = 0 ∧ 1 < exponent then 1 else 2
  { low := (4 * mantissa - below) <<< shift
    number := (4 * mantissa) <<< shift
    high := (4 * mantissa + 2) <<< shift
    unit := 1 <<< 1076
    closed := mantissa % 2 = 0 }

/-- The same in multiples of `10 ^ k`. -/
def inTens (r : Rounding) : Int → Rounding
  | .ofNat k => { r with unit := r.unit * Nat.pow 10 k }
  | .negSucc k =>
    let scale := Nat.pow 10 (k + 1)
    { r with low := r.low * scale, number := r.number * scale, high := r.high * scale }

/-- The whole number `n` rounds to the number. -/
def contains (r : Rounding) (n : Nat) : Bool :=
  let m := n * r.unit
  if r.closed then r.low ≤ m && m ≤ r.high else r.low < m && m < r.high

/-- The nearest whole number, if it rounds to the number; of two that are as near, the even one. -/
def nearest? (r : Rounding) : Option Nat :=
  let n := r.number / r.unit
  let twice := 2 * (r.number % r.unit)
  let up := r.unit < twice ∨ (twice = r.unit ∧ n % 2 = 1)
  match r.contains n, r.contains (n + 1) with
  | true, true => some (if up then n + 1 else n)
  | true, false => some n
  | false, true => some (n + 1)
  | false, false => none

/-- The first multiple of a power of ten that rounds to the number, from the power `k` down. -/
def shortestFrom (r : Rounding) : Nat → Int → Decimal
  | 0, k => ⟨(r.inTens k).number / (r.inTens k).unit, k⟩
  | fuel + 1, k =>
    match (r.inTens k).nearest? with
    | some n => ⟨n, k⟩
    | none => shortestFrom r fuel (k - 1)

end Rounding

/-! ## Forms -/

namespace Decimal

/-- The form with the fewest digits that tells a finite number, which is not negative, from all
others; of several, the one nearest to it. No number has a digit more than 324 places behind the
point. -/
def ofFloat (x : Float) : Decimal :=
  if x == 0 then ⟨0, 0⟩
  else
    let r := Rounding.ofFloat x
    r.shortestFrom 342 (Nat.toDigits 10 (r.number / r.unit)).length

/-- How many digits there are. -/
def width (d : Decimal) : Nat := (Nat.toDigits 10 d.digits).length

/-- The form with all digits that are written down: a whole number of at most 16 digits is written
out, with a zero behind the point. -/
def writtenOut (d : Decimal) : Decimal :=
  match d.exponent with
  | .ofNat k => if d.width + k ≤ 16 then ⟨d.digits * Nat.pow 10 (k + 1), -1⟩ else d
  | .negSucc _ => d

/-- A power of ten. -/
def tens (k : Nat) : Float := Float.ofScientific 1 false k

/-- The value of a form of less than 20 digits: the digits as one number, then the power of ten.
Each of the two steps rounds. -/
def toFloat (d : Decimal) : Float :=
  let digits := (UInt64.ofNat d.digits).toFloat
  match d.exponent with
  | .ofNat k => digits * tens k
  | .negSucc k =>
    if k < 308 then digits / tens (k + 1) else digits / tens 308 / tens (k + 1 - 308)

end Decimal

end PacketRing
