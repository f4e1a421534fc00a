import PacketRing.Yaml.Token

/-!
# YAML documents

* `Node` : scalars, sequences, mappings, and references to nodes that have a name;
* `Document` : a root node and the named nodes;
* `Parser` : reading nodes from tokens;
* `Document.ofText?` : the only document of a stream, if the stream is well-formed.

The functions of the parser call each other on a bound that exceeds twice the number of tokens: of
two nested calls, at least one takes a token.
-/

namespace PacketRing.Yaml

/-- A node of a document. -/
inductive Node where
  | scalar (tag : Option Tag) (style : Style) (text : String)
  | sequence (tag : Option Tag) (items : List Node)
  | mapping (tag : Option Tag) (entries : List (Node × Node))
  /-- The node that a number stands for. -/
  | alias (number : Nat)

/-- A document. -/
structure Document where
  /-- The root; a stream may have no document at all. -/
  root : Option Node
  /-- The numbers of the named nodes, each with how many named nodes begin before, the last one
  first. -/
  numbers : List (Nat × Nat) := []
  /-- The named nodes, each under how many named nodes begin before it. -/
  named : List (Nat × Node) := []

namespace Document

/-- The node that a reference stands for: of the nodes with its number, the one that begins last,
wherever the reference is. A named node is no reference itself. -/
def deref (d : Document) : Node → Option Node
  | .alias number => (d.numbers.lookup number).bind fun place => d.named.lookup place
  | n => some n

end Document

/-- The node that is there when nothing is written. -/
def Node.nothing : Node := .scalar none .plain ""

/-- The state of reading nodes. -/
structure Parser where
  tokens : List Token
  /-- What each tag handle is short for. -/
  handles : List (String × Tag) := []
  /-- The number that each name was given last. -/
  names : List (String × Nat) := []
  /-- As in the document that is being read. -/
  numbers : List (Nat × Nat) := []
  named : List (Nat × Node) := []

namespace Parser

/-- A step of reading, which may fail. -/
abbrev Reading := StateT Parser Option

/-- The next token. -/
def peek : Reading Token := do
  match (← get).tokens with
  | t :: _ => pure t
  | [] => pure .streamEnd

/-- Passes over the next token. -/
def advance : Reading Unit := modify fun p => { p with tokens := p.tokens.drop 1 }

/-- Gives up. -/
def malformed {α : Type} : Reading α := StateT.lift none

/-- The handles that every document knows. -/
def defaultHandles : List (String × Tag) :=
  [("!", .ofText "!"), ("!!", .ofText "tag:yaml.org,2002:")]

/-! ## Properties of nodes -/

/-- The tag that a handle and a suffix stand for. -/
def resolveTag (handle : String) (suffix : Tag) : Reading Tag := do
  if handle.isEmpty then pure suffix
  else
    match (← get).handles.lookup handle with
    | some expansion => pure (expansion ++ suffix)
    | none => malformed

/-- An anchor and a tag, in either order. -/
def properties : Reading (Option String × Option (String × Tag)) := do
  match ← peek with
  | .anchor name =>
    advance
    match ← peek with
    | .tag handle suffix =>
      advance
      pure (some name, some (handle, suffix))
    | _ => pure (some name, none)
  | .tag handle suffix =>
    advance
    match ← peek with
    | .anchor name =>
      advance
      pure (some name, some (handle, suffix))
    | _ => pure (none, some (handle, suffix))
  | _ => pure (none, none)

/-- Gives a name to the node that is read next, and answers how many named nodes begin before it.
The name's number is how many names were known before. A name that is known already gets a new
number, which the next new name then gets as well. -/
def declare : Option String → Reading (Option Nat)
  | none => pure none
  | some name => do
    let p ← get
    let number := p.names.length
    let place := p.numbers.length
    set { p with
      names := (name, number) :: p.names.filter (·.1 != name)
      numbers := (number, place) :: p.numbers }
    pure (some place)

/-- Keeps a node that was given a name. -/
def keep (place : Option Nat) (n : Node) : Reading Node := do
  match place with
  | some place => modify fun p => { p with named := (place, n) :: p.named }
  | none => pure ()
  pure n

/-- Nothing is written before one of these. -/
def endsEntry (ends : List Token) : Reading Bool := do return ends.contains (← peek)

/-! ## Nodes -/

mutual

/-- A node. In a block it may be a block collection, and as a mapping's value also a sequence that
is not indented further. -/
def node (inBlock unindented : Bool) : Nat → Reading Node
  | 0 => malformed
  | fuel + 1 => do
    match ← peek with
    | .alias name =>
      advance
      match (← get).names.lookup name with
      | some number => pure (.alias number)
      | none => malformed
    | _ =>
      let (anchor, shorthand) ← properties
      let tag ← match shorthand with
        | some (handle, suffix) => some <$> resolveTag handle suffix
        | none => pure none
      match ← peek, inBlock with
      | .blockEntry, _ =>
        if unindented then
          let place ← declare anchor
          keep place (.sequence tag (← unindentedEntries fuel))
        else if anchor.isSome || tag.isSome then keep (← declare anchor) (.scalar tag .plain "")
        else malformed
      | .scalar style text, _ =>
        advance
        keep (← declare anchor) (.scalar tag style text)
      | .flowSequenceStart, _ =>
        advance
        let place ← declare anchor
        keep place (.sequence tag (← flowEntries true fuel))
      | .flowMappingStart, _ =>
        advance
        let place ← declare anchor
        keep place (.mapping tag (← flowPairs true fuel))
      | .blockSequenceStart, true =>
        advance
        let place ← declare anchor
        keep place (.sequence tag (← blockEntries fuel))
      | .blockMappingStart, true =>
        advance
        let place ← declare anchor
        keep place (.mapping tag (← blockPairs fuel))
      | _, _ =>
        if anchor.isSome || tag.isSome then keep (← declare anchor) (.scalar tag .plain "")
        else malformed

/-- The entries of a block sequence. -/
def blockEntries : Nat → Reading (List Node)
  | 0 => malformed
  | fuel + 1 => do
    match ← peek with
    | .blockEntry =>
      advance
      let item ←
        if ← endsEntry [.blockEntry, .blockEnd] then pure Node.nothing else node true false fuel
      return item :: (← blockEntries fuel)
    | .blockEnd =>
      advance
      pure []
    | _ => malformed

/-- The entries of a sequence that is not indented further than the mapping it is in. -/
def unindentedEntries : Nat → Reading (List Node)
  | 0 => malformed
  | fuel + 1 => do
    match ← peek with
    | .blockEntry =>
      advance
      let item ←
        if ← endsEntry [.blockEntry, .key, .value, .blockEnd] then pure Node.nothing
        else node true false fuel
      return item :: (← unindentedEntries fuel)
    | _ => pure []

/-- The entries of a block mapping. -/
def blockPairs : Nat → Reading (List (Node × Node))
  | 0 => malformed
  | fuel + 1 => do
    match ← peek with
    | .key =>
      advance
      let k ←
        if ← endsEntry [.key, .value, .blockEnd] then pure Node.nothing else node true true fuel
      let v ←
        match ← peek with
        | .value =>
          advance
          if ← endsEntry [.key, .value, .blockEnd] then pure Node.nothing else node true true fuel
        | _ => pure Node.nothing
      return (k, v) :: (← blockPairs fuel)
    | .blockEnd =>
      advance
      pure []
    | _ => malformed

/-- The entries of a flow sequence; one with a key is a mapping of one entry. -/
def flowEntries (isFirst : Bool) : Nat → Reading (List Node)
  | 0 => malformed
  | fuel + 1 => do
    match ← peek with
    | .flowSequenceEnd =>
      advance
      pure []
    | t =>
      if !isFirst then
        if t == .flowEntry then advance else malformed
      match ← peek with
      | .key =>
        advance
        let k ←
          if ← endsEntry [.value, .flowEntry, .flowSequenceEnd] then
            advance
            pure Node.nothing
          else node false false fuel
        let v ←
          match ← peek with
          | .value =>
            advance
            if ← endsEntry [.flowEntry, .flowSequenceEnd] then pure Node.nothing
            else node false false fuel
          | _ => pure Node.nothing
        return .mapping none [(k, v)] :: (← flowEntries false fuel)
      | .flowSequenceEnd =>
        advance
        pure []
      | _ =>
        let item ← node false false fuel
        return item :: (← flowEntries false fuel)

/-- The entries of a flow mapping; the value of one without a colon is empty. -/
def flowPairs (isFirst : Bool) : Nat → Reading (List (Node × Node))
  | 0 => malformed
  | fuel + 1 => do
    match ← peek with
    | .flowMappingEnd =>
      advance
      pure []
    | t =>
      if !isFirst then
        if t == .flowEntry then advance else malformed
      match ← peek with
      | .key =>
        advance
        let k ←
          if ← endsEntry [.value, .flowEntry, .flowMappingEnd] then pure Node.nothing
          else node false false fuel
        let v ←
          match ← peek with
          | .value =>
            advance
            if ← endsEntry [.flowEntry, .flowMappingEnd] then pure Node.nothing
            else node false false fuel
          | _ => pure Node.nothing
        return (k, v) :: (← flowPairs false fuel)
      | .flowMappingEnd =>
        advance
        pure []
      | _ =>
        let k ← node false false fuel
        return (k, Node.nothing) :: (← flowPairs false fuel)

end

/-! ## Documents -/

/-- The directives before a document: one version at most, of the 1.1 or 1.2 kind, and no handle
twice. -/
def directives (versioned : Bool) (handles : List (String × Tag)) :
    List Token → Option (List (String × Tag) × List Token)
  | .version major minor :: rest =>
    if versioned || major ≠ 1 || (minor ≠ 1 && minor ≠ 2) then none
    else directives true handles rest
  | .tagShorthand handle expansion :: rest =>
    if (handles.lookup handle).isSome then none
    else directives versioned ((handle, expansion) :: handles) rest
  | tokens => some (handles, tokens)

/-- A token before which a document that was begun has no content. -/
def endsDocument : Token → Bool
  | .version _ _ | .tagShorthand _ _ | .documentStart | .documentEnd | .streamEnd => true
  | _ => false

/-- The root of the document whose content begins here. -/
def root (explicit : Bool) (fuel : Nat) : Reading Node := do
  if explicit && endsDocument (← peek) then pure Node.nothing else node true false fuel

/-- What may stand between the only document and the end of the stream. -/
def isEpilogue (tokens : List Token) : Bool :=
  tokens.all fun t => t == .documentEnd || t == .streamEnd

/-- The only document of a stream of tokens. -/
def document? (tokens : List Token) : Option Document :=
  if tokens == [.streamEnd] then some { root := none }
  else do
    let (handles, rest) ← directives false [] tokens
    let explicit := rest.head? == some .documentStart
    if !explicit && rest.length != tokens.length then none
    let rest := if explicit then rest.drop 1 else rest
    let (n, p) ← (root explicit (2 * tokens.length + 2)).run
      { tokens := rest, handles := handles ++ defaultHandles }
    if isEpilogue p.tokens then some { root := some n, numbers := p.numbers, named := p.named }
    else none

end Parser

/-- The only document of a stream. -/
def Document.ofText? (s : List Char) : Option Document := tokens? s >>= Parser.document?

end PacketRing.Yaml
