import PacketRing.Text.Numeral
import PacketRing.Yaml.Source

/-!
# Scalars

The text of a YAML scalar in each of its styles, read from the front of a stream.

* `Gap` : a run of blanks and line breaks inside a scalar, `Gap.text` what it folds to;
* `takePlain` : a plain scalar;
* `takeQuoted` : a scalar in single or double quotes, with its escapes;
* `takeBlock` : a literal or folded block.

Each loop runs on as many steps as there are characters left, and each of its steps takes one.
-/

namespace PacketRing.Yaml

/-! ## Gaps -/

/-- A run of white space inside a scalar. -/
structure Gap where
  /-- The blanks on the line where the run begins. -/
  blanks : List Char := []
  /-- A line has ended in the run. -/
  broken : Bool := false
  /-- The line break that ended it. -/
  first : List Char := []
  /-- The line breaks after that one. -/
  more : List Char := []
  deriving DecidableEq, Repr

namespace Gap

/-- What the run stands for: blanks stay, a single line break becomes a space, and of several the
first is dropped. Other separators than line feeds are kept. -/
def text (g : Gap) : List Char :=
  if !g.broken then g.blanks
  else if g.first == ['\n'] then (if g.more.isEmpty then [' '] else g.more)
  else g.first ++ g.more

/-- The run with one more blank; blanks after a line break do not count. -/
def addBlank (g : Gap) (c : Char) : Gap :=
  if g.broken then g else { g with blanks := g.blanks ++ [c] }

/-- The run with one more line break. -/
def addBreak (g : Gap) (c : Char) : Gap :=
  if g.broken then { g with more := g.more ++ [c] } else { broken := true, first := [c] }

end Gap

/-- The run of white space at the front. No tab may stand before column `indent` of a later
line. -/
def takeGap (indent : Nat) (g : Gap) : List Cell → Option (Gap × List Cell)
  | [] => some (g, [])
  | c :: rest =>
    if isBlank c.char then
      if g.broken && decide (c.column < indent) && c.char == '\t' then none
      else takeGap indent (g.addBlank c.char) rest
    else if isBreak c.char then takeGap indent (g.addBreak c.char) rest
    else some (g, c :: rest)

/-! ## Plain scalars -/

/-- The characters up to white space or to an indicator that ends a plain scalar. -/
def takePlainWord (inFlow : Bool) : List Cell → Option (List Char × List Cell)
  | [] => some ([], [])
  | c :: rest =>
    let next := charAt rest 0
    if isBlankEnd c.char then some ([], c :: rest)
    else if inFlow && c.char == ':' && (isFlowMark next || next == '?') then none
    else if (c.char == ':' && isBlankEnd next) || (inFlow && isFlowMark c.char) then
      some ([], c :: rest)
    else (takePlainWord inFlow rest).map fun (word, rest) => (c.char :: word, rest)

/-- A plain scalar after the gap `g`, and the gap that follows its last word. -/
def takePlainFrom (inFlow : Bool) (indent : Nat) (g : Gap) :
    Nat → List Cell → Option (List Char × Gap × List Cell)
  | 0, cs => some ([], g, cs)
  | fuel + 1, cs =>
    if isDocumentMarker cs || charAt cs 0 == '#' then some ([], g, cs)
    else do
      let (word, rest) ← takePlainWord inFlow cs
      if word.isEmpty then some ([], g, rest)
      else
        let (after, rest) ← takeGap indent {} rest
        if after == {} || (!inFlow && decide (columnOf rest < indent)) then
          some (g.text ++ word, after, rest)
        else
          let (more, last, rest) ← takePlainFrom inFlow indent after fuel rest
          some (g.text ++ word ++ more, last, rest)

/-- A plain scalar, its lines indented to column `indent` at least, and whether a line ended behind
it. -/
def takePlain (inFlow : Bool) (indent : Nat) (cs : List Cell) :
    Option (List Char × Bool × List Cell) :=
  (takePlainFrom inFlow indent {} cs.length cs).map fun (text, g, rest) => (text, g.broken, rest)

/-! ## Quoted scalars -/

/-- The character with the code point that the next `n` hexadecimal digits give. -/
def takeCode (n : Nat) (cs : List Cell) : Option (Char × List Cell) := do
  let value ← Text.digitsFrom Text.hexDigit? 16 0 ((cs.take n).map (·.char))
  if (0xD800 ≤ value ∧ value ≤ 0xDFFF) ∨ 0x10FFFF < value then none
  else some (Char.ofNat value, cs.drop n)

/-- The character that an escape stands for, given the one after the backslash. -/
def takeEscape (c : Char) (cs : List Cell) : Option (Char × List Cell) :=
  match c with
  | '0' => some ('\x00', cs)
  | 'a' => some ('\x07', cs)
  | 'b' => some ('\x08', cs)
  | 't' | '\t' => some ('\t', cs)
  | 'n' => some ('\n', cs)
  | 'v' => some ('\x0b', cs)
  | 'f' => some ('\x0c', cs)
  | 'r' => some ('\r', cs)
  | 'e' => some ('\x1b', cs)
  | ' ' => some (' ', cs)
  | '"' => some ('"', cs)
  | '/' => some ('/', cs)
  | '\\' => some ('\\', cs)
  | 'N' => some ('\u0085', cs)
  | '_' => some ('\u00A0', cs)
  | 'L' => some ('\u2028', cs)
  | 'P' => some ('\u2029', cs)
  | 'x' => takeCode 2 cs
  | 'u' => takeCode 4 cs
  | 'U' => takeCode 8 cs
  | _ => none

/-- The rest of a quoted scalar. In single quotes a quote is written twice; in double quotes a
backslash escapes a character or a line break. -/
def takeQuotedFrom (quote : Char) : Nat → List Cell → Option (List Char × List Cell)
  | 0, _ => none
  | fuel + 1, cs =>
    if isDocumentMarker cs then none
    else
      match cs with
      | [] => none
      | c :: rest =>
        if c.char == endMark then none
        else if c.char == quote then
          if quote == '\'' && charAt rest 0 == quote then do
            let (text, rest) ← takeQuotedFrom quote fuel (rest.drop 1)
            some (quote :: text, rest)
          else some ([], rest)
        else if quote == '"' && c.char == '\\' then
          if isBreak (charAt rest 0) then do
            let (g, rest) ← takeGap 0 { broken := true } (rest.drop 1)
            let (text, rest) ← takeQuotedFrom quote fuel rest
            some (g.text ++ text, rest)
          else do
            let (escaped, rest) ← takeEscape (charAt rest 0) (rest.drop 1)
            let (text, rest) ← takeQuotedFrom quote fuel rest
            some (escaped :: text, rest)
        else if isBlank c.char || isBreak c.char then do
          let (g, rest) ← takeGap 0 {} cs
          let (text, rest) ← takeQuotedFrom quote fuel rest
          some (g.text ++ text, rest)
        else do
          let (text, rest) ← takeQuotedFrom quote fuel rest
          some (c.char :: text, rest)

/-- A quoted scalar, behind its opening quote. -/
def takeQuoted (quote : Char) (cs : List Cell) : Option (List Char × List Cell) :=
  takeQuotedFrom quote (cs.length + 1) cs

/-! ## Blocks -/

/-- What becomes of the line breaks at the end of a block. -/
inductive Chomping where
  | strip | clip | keep
  deriving DecidableEq, Repr

/-- A chomping indicator, if there is one. -/
def takeChomping (cs : List Cell) : Option Chomping × List Cell :=
  match charAt cs 0 with
  | '+' => (some .keep, cs.drop 1)
  | '-' => (some .strip, cs.drop 1)
  | _ => (none, cs)

/-- An indentation indicator, which is not zero, or 0 if there is none. -/
def takeIndentation (cs : List Cell) : Option (Nat × List Cell) :=
  match Text.digit? (charAt cs 0) with
  | some 0 => none
  | some n => some (n, cs.drop 1)
  | none => some (0, cs)

/-- The indicators of a block, in either order, and the rest of their line. -/
def takeBlockHeader (cs : List Cell) : Option (Chomping × Nat × List Cell) := do
  let (before, cs) := takeChomping cs
  let (indentation, cs) ← takeIndentation cs
  let (after, cs) := if before.isNone && indentation ≠ 0 then takeChomping cs else (none, cs)
  let cs := skipComment (skipClass isBlank cs)
  if isBreakEnd (charAt cs 0) then
    let cs := if isBreak (charAt cs 0) then cs.drop 1 else cs
    some ((before.or after).getD .clip, indentation, cs)
  else none

/-- The empty lines at the front, and the greatest column reached there. Lines are empty up to
column `indent`, or of any length if `indent` is zero; a tab there is refused. -/
def takeEmptyLines (indent widest : Nat) : List Cell → Option (List Char × Nat × List Cell)
  | [] => some ([], widest, [])
  | c :: rest =>
    let inside := indent == 0 || c.column < indent
    if inside && c.char == ' ' then takeEmptyLines indent widest rest
    else if inside && c.char == '\t' then none
    else if isBreak c.char then
      (takeEmptyLines indent (max widest c.column) rest).map fun (breaks, widest, rest) =>
        (c.char :: breaks, widest, rest)
    else some ([], max widest c.column, c :: rest)

/-- What is known between two lines of a block. -/
structure BlockState where
  /-- The break that ended the last line. -/
  lineBreak : List Char := []
  /-- The last line began with a blank. -/
  indented : Bool := false
  /-- The breaks of the empty lines since. -/
  empties : List Char
  deriving DecidableEq, Repr

/-- What comes before a line that begins with a blank or not: in a folded block, a single break
between two lines that both begin without one is a space. -/
def BlockState.separator (s : BlockState) (literal blank : Bool) : List Char :=
  if !literal && s.lineBreak == ['\n'] && !s.indented && !blank then
    if s.empties.isEmpty then [' '] else s.empties
  else s.lineBreak ++ s.empties

/-- The lines of a block that begin at column `indent`. -/
def takeBlockLines (literal : Bool) (indent : Nat) :
    Nat → BlockState → List Cell → Option (List Char × BlockState × List Cell)
  | 0, s, cs => some ([], s, cs)
  | fuel + 1, s, cs =>
    if columnOf cs == indent && charAt cs 0 != endMark then do
      let blank := isBlank (charAt cs 0)
      let (line, rest) := takeClass (fun c => !isBreakEnd c) cs
      let (lineBreak, rest) :=
        if isBreak (charAt rest 0) then ([charAt rest 0], rest.drop 1) else ([], rest)
      let (empties, _, rest) ← takeEmptyLines indent 0 rest
      let (text, last, rest) ←
        takeBlockLines literal indent fuel { lineBreak, indented := blank, empties } rest
      some (s.separator literal blank ++ line ++ text, last, rest)
    else some ([], s, cs)

/-- A block, behind its first indicator, inside a collection that is indented to column
`parent - 1`, or at top level if that is 0. -/
def takeBlock (literal : Bool) (parent : Nat) (cs : List Cell) :
    Option (List Char × List Cell) := do
  let (chomping, indentation, cs) ← takeBlockHeader cs
  let given := if indentation = 0 then 0 else (parent - 1) + indentation
  let (empties, widest, cs) ← takeEmptyLines given 0 cs
  let indent := if given = 0 then max widest (max parent 1) else given
  let (text, s, cs) ← takeBlockLines literal indent cs.length { empties } cs
  let tail := match chomping with
    | .strip => []
    | .clip => s.lineBreak
    | .keep => s.lineBreak ++ s.empties
  some (text ++ tail, cs)

end PacketRing.Yaml
