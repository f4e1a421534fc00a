import PacketRing.Yaml.Node

/-!
# Values in YAML documents

Reading values of a known type from nodes; `none` means that the node does not have the type.

* `text?`, `natBelow?`, `bool?`, `choice?` : scalars;
* `optional?`, `list?` : values that may be missing, and lists;
* `members?` : the entries of a mapping with text keys, `member?` one of them by name.
-/

namespace PacketRing.Yaml

/-! ## Spellings -/

/-- The ways to write that there is no value. -/
def isNull (s : String) : Bool := s == "null" || s == "Null" || s == "NULL" || s == "~"

/-- The tags of the types that are written as scalars. -/
def nullTag : Tag := .ofText "tag:yaml.org,2002:null"
def boolTag : Tag := .ofText "tag:yaml.org,2002:bool"
def intTag : Tag := .ofText "tag:yaml.org,2002:int"

/-- The value of a run of one or more digits of a base. -/
def digitsIn (base : Nat) (digit : Char → Option Nat) (s : List Char) : Option Nat :=
  if s.isEmpty then none
  else Text.digitsFrom (fun c => (digit c).filter (· < base)) base 0 s

/-- More than one digit, the first of them zero. -/
def isPadded (s : List Char) : Bool :=
  match s with
  | '0' :: rest => !rest.isEmpty && rest.all fun c => (Text.digit? c).isSome
  | _ => false

/-- A number: decimal, or in base 16, 8 or 2 with a mark in front, and with an optional plus. A
decimal number has no zero in front. -/
def natOf? (s : String) : Option Nat :=
  match Text.dropPlus s.toList with
  | '0' :: 'x' :: digits => digitsIn 16 Text.hexDigit? digits
  | '0' :: 'o' :: digits => digitsIn 8 Text.digit? digits
  | '0' :: 'b' :: digits => digitsIn 2 Text.digit? digits
  | digits => if isPadded digits then none else digitsIn 10 Text.digit? digits

/-- The spellings of truth values. -/
def boolOf? (s : String) : Option Bool :=
  if s == "true" || s == "True" || s == "TRUE" then some true
  else if s == "false" || s == "False" || s == "FALSE" then some false
  else none

/-! ## Scalars -/

/-- A scalar of any kind as text. -/
def text? (d : Document) (n : Node) : Option String :=
  match d.deref n with
  | some (.scalar _ _ text) => some text
  | _ => none

/-- The text of a scalar that may be more than text: a plain one, or a literal block with the tag
of its type. -/
def typedText? (d : Document) (tag : Tag) (n : Node) : Option String :=
  match d.deref n with
  | some (.scalar _ .plain text) => some text
  | some (.scalar (some t) .literal text) => if t == tag then some text else none
  | _ => none

/-- A number below a bound. -/
def natBelow? (bound : Nat) (d : Document) (n : Node) : Option Nat :=
  ((typedText? d intTag n).bind natOf?).filter (· < bound)

/-- A truth value. -/
def bool? (d : Document) (n : Node) : Option Bool := (typedText? d boolTag n).bind boolOf?

/-- The name in a local tag, which begins with an exclamation mark: what follows the mark, or the
mark if nothing does. It must be text. -/
def localName? (tag : Tag) : Option String := do
  let text ← Text.decode? tag
  match text with
  | ['!'] => some "!"
  | '!' :: name => some (String.ofList name)
  | _ => none

/-- One of several named values: by its name, or by a local tag on nothing. -/
def choice? {α : Type} (ofName? : String → Option α) (d : Document) (n : Node) : Option α :=
  match d.deref n with
  | some (.scalar tag style text) =>
    match tag.bind localName? with
    | some name => if style == .plain && (text.isEmpty || isNull text) then ofName? name else none
    | none => ofName? text
  | _ => none

/-! ## Structures -/

/-- A value that may be missing: `some none` if the node says that there is none. -/
def optional? {α : Type} (read : Document → Node → Option α) (d : Document) (n : Node) :
    Option (Option α) :=
  match d.deref n with
  | some (.scalar (some tag) .plain text) =>
    if tag == nullTag then (if isNull text then some none else none) else some <$> read d n
  | some (.scalar none .plain text) =>
    if text.isEmpty || isNull text then some none else some <$> read d n
  | _ => some <$> read d n

/-- A list; nothing written at all is an empty one. -/
def list? {α : Type} (read : Document → Node → Option α) (d : Document) (n : Node) :
    Option (List α) :=
  match d.deref n with
  | some (.sequence _ items) => items.mapM (read d)
  | some (.scalar _ .plain "") => some []
  | _ => none

/-- The entries of a mapping whose keys are text; nothing written at all has none. -/
def members? (d : Document) (n : Node) : Option (List (String × Node)) :=
  match d.deref n with
  | some (.mapping _ entries) => entries.mapM fun (k, v) => (text? d k).map (·, v)
  | some (.scalar _ .plain "") => some []
  | _ => none

/-- The member of a name, read by `read`; `default` if it is missing. A name given twice is an
error. -/
def member? {α : Type} (d : Document) (members : List (String × Node)) (name : String)
    (default : Option α) (read : Document → Node → Option α) : Option α :=
  match members.filter (·.1 == name) with
  | [] => default
  | [(_, n)] => read d n
  | _ => none

end PacketRing.Yaml
