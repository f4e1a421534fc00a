/-!
# UTF-8

* `takeScalar` : the character, or the malformed piece, at the front of a byte string;
* `decode?` : strict decoding;
* `decodeLossy` : decoding with U+FFFD for each malformed piece;
* `encode` : the bytes of a text.
-/

namespace PacketRing.Text

/-- Continuation bytes still to come: the admitted range of the next one, and how many follow it.
A piece that breaks off ends before the byte that does not fit. -/
def takeTail (acc lo hi : Nat) : Nat → List UInt8 → Option Nat × List UInt8
  | 0, rest => (some acc, rest)
  | _ + 1, [] => (none, [])
  | more + 1, b :: rest =>
    if lo ≤ b.toNat ∧ b.toNat ≤ hi then takeTail (64 * acc + b.toNat % 64) 0x80 0xBF more rest
    else (none, b :: rest)

/-- The code point that starts with byte `b`, or `none` for a malformed piece, and what follows.
The second byte's range keeps out overlong forms, surrogates and values above U+10FFFF. -/
def takeScalar (b : UInt8) (rest : List UInt8) : Option Nat × List UInt8 :=
  let n := b.toNat
  if n < 0x80 then (some n, rest)
  else if 0xC2 ≤ n ∧ n ≤ 0xDF then takeTail (n % 32) 0x80 0xBF 1 rest
  else if n = 0xE0 then takeTail (n % 16) 0xA0 0xBF 2 rest
  else if n = 0xED then takeTail (n % 16) 0x80 0x9F 2 rest
  else if 0xE1 ≤ n ∧ n ≤ 0xEF then takeTail (n % 16) 0x80 0xBF 2 rest
  else if n = 0xF0 then takeTail (n % 8) 0x90 0xBF 3 rest
  else if n = 0xF4 then takeTail (n % 8) 0x80 0x8F 3 rest
  else if 0xF1 ≤ n ∧ n ≤ 0xF3 then takeTail (n % 8) 0x80 0xBF 3 rest
  else (none, rest)

theorem length_takeTail_le (acc lo hi more : Nat) (rest : List UInt8) :
    (takeTail acc lo hi more rest).2.length ≤ rest.length := by
  induction more generalizing acc lo hi rest with
  | zero => simp [takeTail]
  | succ more ih =>
    cases rest with
    | nil => simp [takeTail]
    | cons b rest =>
      simp only [takeTail]
      split
      · exact Nat.le_succ_of_le (ih ..)
      · simp

theorem length_takeScalar_le (b : UInt8) (rest : List UInt8) :
    (takeScalar b rest).2.length ≤ rest.length := by
  unfold takeScalar
  simp only
  repeat' split
  all_goals first | exact length_takeTail_le .. | exact Nat.le_refl _

/-- The characters of `bytes`, with U+FFFD in place of each malformed piece. -/
def decodeLossy : List UInt8 → List Char
  | [] => []
  | b :: rest =>
    have := length_takeScalar_le b rest
    ((takeScalar b rest).1.elim '\uFFFD' Char.ofNat) :: decodeLossy (takeScalar b rest).2
termination_by bytes => bytes.length
decreasing_by simp only [List.length_cons]; omega

/-- The characters of `bytes`, if they are well-formed throughout. -/
def decode? : List UInt8 → Option (List Char)
  | [] => some []
  | b :: rest =>
    have := length_takeScalar_le b rest
    match (takeScalar b rest).1 with
    | none => none
    | some n => (decode? (takeScalar b rest).2).map (Char.ofNat n :: ·)
termination_by bytes => bytes.length
decreasing_by simp only [List.length_cons]; omega

/-- The bytes of `s`. -/
def encode (s : String) : List UInt8 := s.toUTF8.toList

end PacketRing.Text
