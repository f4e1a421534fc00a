/-!
# White space and lines

* `isBlank` : the White_Space property;
* `trim`, `words` : cutting a text at white space;
* `lines` : cutting a text at newlines.
-/

namespace PacketRing.Text

/-- The White_Space property, for every code point. -/
def isBlank (c : Char) : Bool :=
  let n := c.toNat
  (9 ≤ n && n ≤ 13) || n == 0x20 || n == 0x85 || n == 0xA0 || n == 0x1680 ||
    (0x2000 ≤ n && n ≤ 0x200A) || n == 0x2028 || n == 0x2029 || n == 0x202F || n == 0x205F ||
    n == 0x3000

theorem isBlank_of_isWhitespace {c : Char} (h : c.isWhitespace = true) : isBlank c = true := by
  simp only [Char.isWhitespace, Bool.or_eq_true, decide_eq_true_eq] at h
  rcases h with ((rfl | rfl) | rfl) | rfl <;> rfl

/-- `s` without the characters of class `p` at its end. -/
def dropEndWhile (p : Char → Bool) (s : List Char) : List Char :=
  s.foldr (fun c rest => if rest.isEmpty && p c then [] else c :: rest) []

/-- `s` without the white space at both ends. -/
def trim (s : List Char) : List Char :=
  dropEndWhile isBlank (s.dropWhile isBlank)

/-- The maximal pieces of `s` between characters of class `p`, empty ones included. -/
def splitAt (p : Char → Bool) (s : List Char) : List (List Char) :=
  s.foldr (fun c acc => if p c then [] :: acc else
    match acc with
    | [] => [[c]]
    | w :: ws => (c :: w) :: ws) [[]]

/-- The words of `s`: its nonempty pieces between white space. -/
def words (s : List Char) : List (List Char) :=
  (splitAt isBlank s).filter (!·.isEmpty)

/-- The lines of `s`. A newline ends a line and takes one carriage return before it along; the
piece after the last newline is a line only if it is nonempty, and keeps its carriage return. -/
def lines (s : List Char) : List (List Char) :=
  let pieces := splitAt (· == '\n') s
  let ended := pieces.dropLast.map fun l => if l.getLast? = some '\r' then l.dropLast else l
  match pieces.getLast? with
  | some (c :: l) => ended ++ [c :: l]
  | _ => ended

end PacketRing.Text
