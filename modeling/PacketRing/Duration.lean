/-!
# Durations

* `Duration` : a length of time in whole nanoseconds;
* `Duration.text` : its text in the largest unit that leaves a whole part.
-/

namespace PacketRing

structure Duration where
  nanos : Nat
  deriving DecidableEq, Repr

namespace Duration

def ofMillis (n : Nat) : Duration := ⟨n * 1000000⟩

def millis (d : Duration) : Nat := d.nanos / 1000000

/-- A whole number of milliseconds is read back. -/
theorem millis_ofMillis (n : Nat) : (ofMillis n).millis = n :=
  Nat.mul_div_cancel n (by decide)

/-- The decimal digits of `n` after a point, `places` of them, less the zeros at the end. -/
def fractionDigits (places n : Nat) : List Char :=
  let digits := Nat.toDigits 10 n
  let padded := List.replicate (places - digits.length) '0' ++ digits
  (padded.reverse.dropWhile (· == '0')).reverse

/-- `nanos` in a unit of `size` nanoseconds, a one and `places` zeros, with as many decimals as it
needs. -/
def inUnit (nanos size places : Nat) (unit : String) : String :=
  let whole := nanos / size
  let rest := nanos % size
  let fraction := if rest = 0 then [] else '.' :: fractionDigits places rest
  String.ofList (Nat.toDigits 10 whole ++ fraction) ++ unit

/-- The text of a duration: seconds, milliseconds, microseconds or nanoseconds, whichever is the
largest unit it reaches. -/
def text (d : Duration) : String :=
  if 1000000000 ≤ d.nanos then inUnit d.nanos 1000000000 9 "s"
  else if 1000000 ≤ d.nanos then inUnit d.nanos 1000000 6 "ms"
  else if 1000 ≤ d.nanos then inUnit d.nanos 1000 3 "µs"
  else inUnit d.nanos 1 0 "ns"

end Duration

end PacketRing
