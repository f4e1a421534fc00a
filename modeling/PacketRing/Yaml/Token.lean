import PacketRing.Text.Utf8
import PacketRing.Yaml.Scalar

/-!
# YAML tokens

* `Tag` : tags, which are octets and need not be text;
* `Token` : the tokens of a YAML stream;
* `Lexer` : a place in a stream, with what decides how the next token is read: the indentation of
  the block collections that are open, the flow collections that are open, and the token that may
  still turn out to be a key;
* `Lexer.step` : reading a token;
* `tokens?` : the tokens of a stream, if it is well-formed as far as that.

A key is known as such only at the colon behind it. Its token is remembered until the line ends,
and the colon puts the token that begins a key in front of it.
-/

namespace PacketRing.Yaml

/-- How a scalar is written. -/
inductive Style where
  | plain | singleQuoted | doubleQuoted | literal | folded
  deriving DecidableEq, Repr

/-- A tag, or a part of one: octets other than zero. -/
abbrev Tag := List UInt8

/-- The tag whose octets are the UTF-8 form of a text. -/
def Tag.ofText (s : String) : Tag := Text.encode s

/-- The octets before the first zero, which ends a tag. -/
def Tag.ofOctets (octets : List UInt8) : Tag := octets.takeWhile (· != 0)

/-- A token of a YAML stream. -/
inductive Token where
  | version (major minor : Nat)
  | tagShorthand (handle : String) (expansion : Tag)
  | documentStart
  | documentEnd
  | blockSequenceStart
  | blockMappingStart
  | blockEnd
  | flowSequenceStart
  | flowSequenceEnd
  | flowMappingStart
  | flowMappingEnd
  | blockEntry
  | flowEntry
  | key
  | value
  | alias (name : String)
  | anchor (name : String)
  | tag (handle : String) (suffix : Tag)
  | scalar (style : Style) (text : String)
  | streamEnd
  deriving DecidableEq, Repr

/-! ## Pieces of tokens -/

/-- A nonempty name behind `*` or `&`. -/
def takeName (cs : List Cell) : Option (String × List Cell) :=
  let (name, rest) := takeClass isWord cs
  let next := charAt rest 0
  let ended := isBlankEnd next || ['?', ':', ',', ']', '\x7d', '%', '@', '\x60'].contains next
  if name.isEmpty || !ended then none else some (String.ofList name, rest)

/-- A tag handle: an exclamation mark, then perhaps a name and another mark. -/
def takeHandle (cs : List Cell) : Option (List Char × List Cell) :=
  if charAt cs 0 != '!' then none
  else
    let (name, rest) := takeClass isWord (cs.drop 1)
    if charAt rest 0 == '!' then some ('!' :: name ++ ['!'], rest.drop 1)
    else some ('!' :: name, rest)

/-- The characters of a tag besides those of names. -/
def isTagMark (verbatim : Bool) (c : Char) : Bool :=
  ";/?:@&=+$.!~*'()".toList.contains c || (verbatim && (c == ',' || c == '[' || c == ']'))

/-- An octet written as a percent sign and two hexadecimal digits. -/
def takeOctet (cs : List Cell) : Option (Nat × List Cell) := do
  if charAt cs 0 != '%' then none
  let high ← Text.hexDigit? (charAt cs 1)
  let low ← Text.hexDigit? (charAt cs 2)
  some (16 * high + low, cs.drop 3)

/-- `n` octets that continue a character. -/
def takeContinuation : Nat → List Cell → Option (List UInt8 × List Cell)
  | 0, cs => some ([], cs)
  | n + 1, cs => do
    let (octet, cs) ← takeOctet cs
    if octet / 64 ≠ 2 then none
    let (octets, cs) ← takeContinuation n cs
    some (octet.toUInt8 :: octets, cs)

/-- The octets of a character: the first one tells how many continue it. Which character it is, if
any, plays no part. -/
def takeEscaped (cs : List Cell) : Option (List UInt8 × List Cell) := do
  let (octet, cs) ← takeOctet cs
  let more ←
    if octet < 0x80 then some 0
    else if octet / 32 = 6 then some 1
    else if octet / 16 = 14 then some 2
    else if octet / 8 = 30 then some 3
    else none
  let (octets, cs) ← takeContinuation more cs
  some (octet.toUInt8 :: octets, cs)

/-- The octets of a tag: its characters, which are ASCII, and the octets that it escapes. -/
def takeTagTextFrom (verbatim : Bool) : Nat → List Cell → Option (List UInt8 × List Cell)
  | 0, cs => some ([], cs)
  | fuel + 1, cs =>
    let c := charAt cs 0
    if c == '%' then do
      let (octets, rest) ← takeEscaped cs
      let (text, rest) ← takeTagTextFrom verbatim fuel rest
      some (octets ++ text, rest)
    else if isWord c || isTagMark verbatim c then do
      let (text, rest) ← takeTagTextFrom verbatim fuel (cs.drop 1)
      some (c.toNat.toUInt8 :: text, rest)
    else some ([], cs)

/-- The octets of a tag, none perhaps. -/
def takeTagText (verbatim : Bool) (cs : List Cell) : Option (List UInt8 × List Cell) :=
  takeTagTextFrom verbatim cs.length cs

/-- A tag: verbatim in angle brackets, with a named handle, or local. A lone exclamation mark has
no handle, and is itself the tag. -/
def takeTag (inFlow : Bool) (cs : List Cell) : Option (Token × List Cell) := do
  let (handle, suffix, rest) ←
    if charAt cs 1 == '<' then do
      let (text, rest) ← takeTagText true (cs.drop 2)
      if text.isEmpty || charAt rest 0 != '>' then none
      some ("", Tag.ofOctets text, rest.drop 1)
    else do
      let (handle, rest) ← takeHandle cs
      let (text, rest) ← takeTagText false rest
      if 1 < handle.length && handle.getLast? == some '!' then
        if text.isEmpty then none
        else some (String.ofList handle, Tag.ofOctets text, rest)
      else
        let suffix := Tag.ofOctets (Text.encode (String.ofList (handle.drop 1)) ++ text)
        some (if suffix.isEmpty then ("", Tag.ofText "!", rest) else ("!", suffix, rest))
  let next := charAt rest 0
  if isBlankEnd next || (inFlow && next == ',') then some (.tag handle suffix, rest) else none

/-- A run of one to nine digits. -/
def takeVersionNumber (cs : List Cell) : Option (Nat × List Cell) :=
  let (digits, rest) := takeClass Char.isDigit cs
  if 9 < digits.length then none else (Text.digitsValue digits).map (·, rest)

/-- The value of a version directive. -/
def takeVersion (cs : List Cell) : Option (Token × List Cell) := do
  let (major, cs) ← takeVersionNumber (skipClass isBlank cs)
  if charAt cs 0 != '.' then none
  let (minor, cs) ← takeVersionNumber (cs.drop 1)
  some (.version major minor, cs)

/-- The value of a tag directive: a handle and what it is short for. -/
def takeShorthand (cs : List Cell) : Option (Token × List Cell) := do
  let (handle, cs) ← takeHandle (skipClass isBlank cs)
  if handle.getLast? != some '!' || !isBlank (charAt cs 0) then none
  let (text, cs) ← takeTagText true (skipClass isBlank cs)
  if text.isEmpty || !isBlankEnd (charAt cs 0) then none
  some (.tagShorthand (String.ofList handle) (Tag.ofOctets text), cs)

/-- A directive and the rest of its line. -/
def takeDirective (cs : List Cell) : Option (Token × List Cell) := do
  let (name, rest) := takeClass isWord (cs.drop 1)
  if !isBlankEnd (charAt rest 0) then none
  let (token, rest) ←
    match String.ofList name with
    | "YAML" => takeVersion rest
    | "TAG" => takeShorthand rest
    | _ => none
  let rest := skipComment (skipClass isBlank rest)
  if !isBreakEnd (charAt rest 0) then none
  some (token, if isBreak (charAt rest 0) then rest.drop 1 else rest)

/-! ## The lexer -/

/-- A token that may turn out to be a key. -/
structure PossibleKey where
  /-- Nothing else than a key can stand there. -/
  required : Bool
  /-- How many tokens were read before it. -/
  index : Nat
  line : Nat
  column : Nat
  offset : Nat
  deriving DecidableEq, Repr

/-- A place in a stream. Indentations are one more than columns, and 0 stands for none. -/
structure Lexer where
  rest : List Cell
  /-- The tokens read so far, the last one first. -/
  read : List Token := []
  /-- The indentation of the innermost block collection. -/
  indent : Nat := 0
  /-- The indentations of the block collections around it. -/
  indents : List Nat := []
  /-- A key may begin here. -/
  keyAllowed : Bool := true
  /-- The possible key of the innermost flow collection, or of the block context. -/
  possible : Option PossibleKey := none
  /-- The possible keys of the contexts around it. -/
  outer : List (Option PossibleKey) := []
  deriving DecidableEq, Repr

namespace Lexer

/-- The place is inside a flow collection. -/
def inFlow (l : Lexer) : Bool := !l.outer.isEmpty

/-- The place after a token that ends where `rest` begins. -/
def emit (l : Lexer) (t : Token) (rest : List Cell) : Lexer :=
  { l with read := t :: l.read, rest }

/-- The place with a token put in front of the token number `index`. -/
def insert (l : Lexer) (index : Nat) (t : Token) : Lexer :=
  { l with read := l.read.insertIdx (l.read.length - index) t }

/-- White space and comments before the next token. A tab counts as white space where no key may
begin; a line break outside flow collections allows one. -/
def skipFrom (inFlow : Bool) : Nat → Bool → List Cell → Bool × List Cell
  | 0, allowed, cs => (allowed, cs)
  | fuel + 1, allowed, cs =>
    let cs := if columnOf cs == 0 && charAt cs 0 == byteOrderMark then cs.drop 1 else cs
    let cs := skipClass (fun c => c == ' ' || ((inFlow || !allowed) && c == '\t')) cs
    let cs := skipComment cs
    if isBreak (charAt cs 0) then skipFrom inFlow fuel (allowed || !inFlow) (cs.drop 1)
    else (allowed, cs)

/-- The place at the next token. -/
def skip (l : Lexer) : Lexer :=
  let (keyAllowed, rest) := skipFrom l.inFlow l.rest.length l.keyAllowed l.rest
  { l with keyAllowed, rest }

/-- A possible key that can still become one: it is on this line, at most 1024 bytes back. -/
def isFresh (cs : List Cell) (k : PossibleKey) : Bool :=
  k.line == lineOf cs && decide (offsetOf cs ≤ k.offset + 1024)

/-- The possible keys that can still become one; a required one that cannot is an error. -/
def dropStale (l : Lexer) : Option Lexer :=
  let check (k : Option PossibleKey) : Option (Option PossibleKey) :=
    match k with
    | none => some none
    | some k => if isFresh l.rest k then some (some k) else if k.required then none else some none
  do
    let possible ← check l.possible
    let outer ← l.outer.mapM check
    some { l with possible, outer }

/-- Ends block collections that are indented further than `indent`. -/
def unrollFrom (indent : Nat) : List Nat → Lexer → Lexer
  | [], l => l
  | outer :: more, l =>
    if indent < l.indent then
      unrollFrom indent more
        { l with read := .blockEnd :: l.read, indent := outer, indents := more }
    else l

/-- Ends block collections that are indented further than `indent`; in a flow collection there are
none to end. -/
def unroll (l : Lexer) (indent : Nat) : Lexer :=
  if l.inFlow then l else unrollFrom indent l.indents l

/-- Begins a block collection with a token in front of the token number `index`, if `indent` is
further in than the collection around. -/
def roll (l : Lexer) (indent index : Nat) (t : Token) : Lexer :=
  if !l.inFlow && decide (l.indent < indent) then
    { l.insert index t with indent, indents := l.indent :: l.indents }
  else l

/-- Gives up the possible key; a required one must not be given up. -/
def dropKey (l : Lexer) : Option Lexer :=
  match l.possible with
  | some k => if k.required then none else some { l with possible := none }
  | none => some l

/-- Takes the next token for a possible key, where one may begin. -/
def saveKey (l : Lexer) : Option Lexer :=
  if l.keyAllowed then do
    let l ← l.dropKey
    let column := columnOf l.rest
    some { l with
      possible := some
        { required := !l.inFlow && l.indent == column + 1
          index := l.read.length
          line := lineOf l.rest
          column
          offset := offsetOf l.rest } }
  else some l

/-- The end of the stream: all collections end. -/
def finish (l : Lexer) : Option Lexer := do
  let l ← (l.unroll 0).dropKey
  some (l.emit .streamEnd [])

/-- A token that ends all block collections, and after which no key may begin. -/
def atMargin (l : Lexer) (t : Token) (rest : List Cell) : Option Lexer := do
  let l ← (l.unroll 0).dropKey
  some { l.emit t rest with keyAllowed := false }

/-- The start of a flow collection. It may itself be a key. -/
def openFlow (l : Lexer) (t : Token) : Option Lexer := do
  let l ← l.saveKey
  some
    { l.emit t (l.rest.drop 1) with
      keyAllowed := true, possible := none, outer := l.possible :: l.outer }

/-- The end of a flow collection. -/
def closeFlow (l : Lexer) (t : Token) : Option Lexer := do
  let l ← l.dropKey
  let l := { l.emit t (l.rest.drop 1) with keyAllowed := false }
  match l.outer with
  | possible :: outer => some { l with possible, outer }
  | [] => some l

/-- A comma. -/
def flowEntry (l : Lexer) : Option Lexer := do
  let l ← l.dropKey
  some { l.emit .flowEntry (l.rest.drop 1) with keyAllowed := true }

/-- A hyphen before an entry of a block sequence. -/
def blockEntry (l : Lexer) : Option Lexer := do
  if !l.inFlow && !l.keyAllowed then none
  let l ← (l.roll (columnOf l.rest + 1) l.read.length .blockSequenceStart).dropKey
  some { l.emit .blockEntry (l.rest.drop 1) with keyAllowed := true }

/-- A question mark before a key. -/
def explicitKey (l : Lexer) : Option Lexer := do
  if !l.inFlow && !l.keyAllowed then none
  let l ← (l.roll (columnOf l.rest + 1) l.read.length .blockMappingStart).dropKey
  some { l.emit .key (l.rest.drop 1) with keyAllowed := !l.inFlow }

/-- A colon: what could be a key is one, or else a value begins without a key before it. -/
def colon (l : Lexer) : Option Lexer :=
  match l.possible with
  | some k =>
    let l := (l.insert k.index .key).roll (k.column + 1) k.index .blockMappingStart
    some { l.emit .value (l.rest.drop 1) with possible := none, keyAllowed := false }
  | none =>
    if !l.inFlow && !l.keyAllowed then none
    else
      let l := l.roll (columnOf l.rest + 1) l.read.length .blockMappingStart
      some { l.emit .value (l.rest.drop 1) with keyAllowed := !l.inFlow }

/-- A token that may be a key, or stand before one. -/
def keyLike (l : Lexer) (take : List Cell → Option (Token × List Cell)) : Option Lexer := do
  let l ← l.saveKey
  let (t, rest) ← take l.rest
  some { l.emit t rest with keyAllowed := false }

/-- A quoted scalar. -/
def quoted (l : Lexer) (style : Style) (quote : Char) : Option Lexer :=
  l.keyLike fun cs => do
    let (text, rest) ← takeQuoted quote (cs.drop 1)
    some (.scalar style (String.ofList text), rest)

/-- A block scalar. A key may begin behind it. -/
def block (l : Lexer) (style : Style) : Option Lexer := do
  let l ← l.dropKey
  let (text, rest) ← takeBlock (style == .literal) l.indent (l.rest.drop 1)
  some { l.emit (.scalar style (String.ofList text)) rest with keyAllowed := true }

/-- A plain scalar. A key may begin behind it on a new line. -/
def plain (l : Lexer) : Option Lexer := do
  let l ← l.saveKey
  let (text, broken, rest) ← takePlain l.inFlow l.indent l.rest
  some { l.emit (.scalar .plain (String.ofList text)) rest with keyAllowed := broken }

/-- A plain scalar can begin with `c` when `next` follows. -/
def beginsPlain (inFlow : Bool) (c next : Char) : Bool :=
  !(isBlankEnd c || "-?:,[]\x7b\x7d#&*!|>'\"%@\x60".toList.contains c) ||
    (c == '-' && !isBlank next) || (!inFlow && (c == '?' || c == ':') && !isBlankEnd next)

/-- Reads the token that begins at the next character. -/
def fetch (l : Lexer) : Option Lexer :=
  let c := charAt l.rest 0
  let next := charAt l.rest 1
  let indicates := l.inFlow || isBlankEnd next
  if c == endMark then l.finish
  else if columnOf l.rest == 0 && c == '%' then do
    let (t, rest) ← takeDirective l.rest
    l.atMargin t rest
  else if isMarker '-' l.rest then l.atMargin .documentStart (l.rest.drop 3)
  else if isMarker '.' l.rest then l.atMargin .documentEnd (l.rest.drop 3)
  else if c == '[' then l.openFlow .flowSequenceStart
  else if c == '\x7b' then l.openFlow .flowMappingStart
  else if c == ']' then l.closeFlow .flowSequenceEnd
  else if c == '\x7d' then l.closeFlow .flowMappingEnd
  else if c == ',' then l.flowEntry
  else if c == '-' && isBlankEnd next then l.blockEntry
  else if c == '?' && indicates then l.explicitKey
  else if c == ':' && indicates then l.colon
  else if c == '*' then
    l.keyLike fun cs => (takeName (cs.drop 1)).map fun (name, rest) => (.alias name, rest)
  else if c == '&' then
    l.keyLike fun cs => (takeName (cs.drop 1)).map fun (name, rest) => (.anchor name, rest)
  else if c == '!' then l.keyLike (takeTag l.inFlow)
  else if c == '|' && !l.inFlow then l.block .literal
  else if c == '>' && !l.inFlow then l.block .folded
  else if c == '\'' then l.quoted .singleQuoted '\''
  else if c == '"' then l.quoted .doubleQuoted '"'
  else if beginsPlain l.inFlow c next then l.plain
  else none

/-- Reads the next token, and the ends of block collections before it. -/
def step (l : Lexer) : Option Lexer := do
  let l ← l.skip.dropStale
  (l.unroll (columnOf l.rest + 1)).fetch

/-- Reads to the end of the stream. -/
def run : Nat → Lexer → Option (List Token)
  | 0, _ => none
  | fuel + 1, l => do
    let l ← l.step
    match l.read with
    | .streamEnd :: _ => some l.read.reverse
    | _ => run fuel l

end Lexer

/-- The tokens of a stream. Each of them but the end takes a character. -/
def tokens? (s : List Char) : Option (List Token) := do
  let cs ← ofText? s
  Lexer.run (cs.length + 1) { rest := cs }

end PacketRing.Yaml
