/-!
# The characters of a YAML stream

* `Cell` : a character and where it stands;
* `cells` : the characters of a stream, with one kind of line break and an end mark;
* `ofText?` : the same, for a stream of admitted characters only;
* the character classes of the scanner.
-/

namespace PacketRing.Yaml

/-- A character with its line and column, both from zero. -/
structure Cell where
  char : Char
  line : Nat
  column : Nat
  /-- How many bytes of the stream stand before it. -/
  offset : Nat
  deriving DecidableEq, Repr

/-! ## Classes -/

/-- The character that marks the end of a stream; no stream contains it. -/
def endMark : Char := '\x00'

/-- A line break, after normalisation. -/
def isBreak (c : Char) : Bool := c == '\n' || c == '\u2028' || c == '\u2029'

def isBlank (c : Char) : Bool := c == ' ' || c == '\t'

/-- A break or the end of the stream. -/
def isBreakEnd (c : Char) : Bool := isBreak c || c == endMark

/-- A blank, a break or the end of the stream. -/
def isBlankEnd (c : Char) : Bool := isBlank c || isBreakEnd c

/-- The characters of names: ASCII letters and digits, hyphen and underscore. -/
def isWord (c : Char) : Bool := c.isAlphanum || c == '-' || c == '_'

/-- The characters that delimit flow collections. -/
def isFlowMark (c : Char) : Bool := c == ',' || c == '[' || c == ']' || c == '\x7b' || c == '\x7d'

/-- The characters that a stream may contain: no controls but tab, breaks and next-line. -/
def isAdmitted (c : Char) : Bool :=
  let n := c.toNat
  n == 0x9 || n == 0xA || n == 0xD || (0x20 ≤ n && n ≤ 0x7E) || n == 0x85 ||
    (0xA0 ≤ n && n ≤ 0xD7FF) || (0xE000 ≤ n && n ≤ 0xFFFD) || 0x10000 ≤ n

/-! ## Cells -/

/-- The byte order mark. At the start of a line it is white space, and takes up a column. -/
def byteOrderMark : Char := '\uFEFF'

/-- The characters from a place on, each with its own place, and the end mark. Carriage return,
line feed, the two together and next-line are all one line feed. -/
def cells (line column offset : Nat) : List Char → List Cell
  | [] => [⟨endMark, line, column, offset⟩]
  | '\r' :: '\n' :: s => ⟨'\n', line, column, offset⟩ :: cells (line + 1) 0 (offset + 2) s
  | c :: s =>
    let next := offset + c.utf8Size
    let c := if c == '\r' || c == '\u0085' then '\n' else c
    if isBreak c then ⟨c, line, column, offset⟩ :: cells (line + 1) 0 next s
    else ⟨c, line, column, offset⟩ :: cells line (column + 1) next s

/-- The cells of a stream. -/
def ofText? (s : List Char) : Option (List Cell) :=
  if s.all isAdmitted then some (cells 0 0 0 s) else none

/-! ## Looking ahead -/

/-- The character `n` places ahead. -/
def charAt (cs : List Cell) (n : Nat) : Char := ((cs[n]?).map (·.char)).getD endMark

/-- The line of the next character. -/
def lineOf (cs : List Cell) : Nat := (cs.head?.map (·.line)).getD 0

/-- The column of the next character. -/
def columnOf (cs : List Cell) : Nat := (cs.head?.map (·.column)).getD 0

/-- How many bytes stand before the next character. -/
def offsetOf (cs : List Cell) : Nat := (cs.head?.map (·.offset)).getD 0

/-- A line of three times `c`, alone or before a blank, begins here. -/
def isMarker (c : Char) (cs : List Cell) : Bool :=
  columnOf cs == 0 && charAt cs 0 == c && charAt cs 1 == c && charAt cs 2 == c &&
    isBlankEnd (charAt cs 3)

/-- The start or the end of a document is marked here. -/
def isDocumentMarker (cs : List Cell) : Bool := isMarker '-' cs || isMarker '.' cs

/-- The characters of class `p` at the front, and the rest. -/
def takeClass (p : Char → Bool) (cs : List Cell) : List Char × List Cell :=
  ((cs.takeWhile fun c => p c.char).map (·.char), cs.dropWhile fun c => p c.char)

/-- The rest behind the characters of class `p`. -/
def skipClass (p : Char → Bool) (cs : List Cell) : List Cell := cs.dropWhile fun c => p c.char

/-- The rest behind a comment, if one begins here; its line break stays. -/
def skipComment (cs : List Cell) : List Cell :=
  if charAt cs 0 == '#' then skipClass (fun c => !isBreakEnd c) cs else cs

end PacketRing.Yaml
