import PacketRing.Settings.Basic
import PacketRing.Text.Numeral

/-!
# The command line

* `Flag` : what can be given on the command line;
* `Arguments` : the values given;
* `Arguments.parse` : reading the arguments, `UsageError` what can be wrong with them;
* `Settings.merge` : the settings of a file, with what the command line gives in their place.

A flag that waits for its value is settled when the next flag begins or the arguments end: only then
are a missing, repeated or bad value found. An argument that makes no sense at all is an error at
once, before those of a flag that still waits.
-/

namespace PacketRing

/-- What can be given on the command line. -/
inductive Flag where
  | interface | port | config | quiet | allowedIps | tpacketVersion | snapLen | addVlanHeader
  | filterFile | ebpfObject | etherTypes | fanoutGroup | fanoutType | help | version
  deriving DecidableEq, Repr

namespace Flag

/-- The name of a flag behind two hyphens. -/
def longName : Flag → String
  | interface => "interface"
  | port => "port"
  | config => "config"
  | quiet => "quiet"
  | allowedIps => "allowed-ips"
  | tpacketVersion => "tpacket-version"
  | snapLen => "snap-len"
  | addVlanHeader => "add-vlan-header"
  | filterFile => "filter-file"
  | ebpfObject => "ebpf-object"
  | etherTypes => "ether-types"
  | fanoutGroup => "fanout-group"
  | fanoutType => "fanout-type"
  | help => "help"
  | version => "version"

/-- The letter of a flag behind one hyphen. -/
def letter? : Flag → Option Char
  | interface => some 'i'
  | port => some 'p'
  | config => some 'c'
  | quiet => some 'q'
  | help => some 'h'
  | version => some 'V'
  | _ => none

def all : List Flag :=
  [interface, port, config, quiet, allowedIps, tpacketVersion, snapLen, addVlanHeader, filterFile,
    ebpfObject, etherTypes, fanoutGroup, fanoutType, help, version]

/-- The flag of a long name. -/
def ofName? (name : String) : Option Flag := all.find? (·.longName == name)

/-- The flag of a letter. -/
def ofLetter? (c : Char) : Option Flag := all.find? (·.letter? == some c)

/-- The flag is followed by a value. -/
def takesValue : Flag → Bool
  | quiet | addVlanHeader | help | version => false
  | _ => true

/-- The flag may be given several times. -/
def isRepeatable : Flag → Bool
  | allowedIps | etherTypes => true
  | _ => false

end Flag

/-- The values given on the command line. -/
structure Arguments where
  interface : Option String := none
  port : Nat := defaultPort
  config : Option String := none
  quiet : Bool := false
  allowedIps : List String := []
  tpacketVersion : Option Version := none
  snapLen : Option Nat := none
  addVlanHeader : Bool := false
  filterFile : Option String := none
  ebpfObject : Option String := none
  etherTypes : List Nat := []
  fanoutGroup : Option Nat := none
  fanoutType : Fanout := .hash
  deriving DecidableEq, Repr

/-- Why the arguments are not carried out. -/
inductive UsageError where
  /-- An argument that means nothing. -/
  | unknown
  | missingValue
  | badValue
  /-- A flag given twice. -/
  | repeated
  /-- A value for a flag that takes none. -/
  | unneededValue
  | helpWanted
  | versionWanted
  deriving DecidableEq, Repr

namespace Arguments

/-! ## Values -/

/-- A decimal number of 16 bits, with an optional plus sign, or minus zero. -/
def word? (s : String) : Option Nat :=
  match s.toList with
  | '-' :: digits => (Text.digitsValue digits).filter (· == 0)
  | s => Text.natBelow UInt16.size s

/-- A decimal number of 64 bits, with an optional plus sign. -/
def size? (s : String) : Option Nat := Text.natBelow UInt64.size s.toList

/-- The arguments with the value `s` for a flag, if it is good. -/
def set? (a : Arguments) (s : String) : Flag → Option Arguments
  | .interface => some { a with interface := some s }
  | .port => (word? s).map fun n => { a with port := n }
  | .config => some { a with config := some s }
  | .quiet => some { a with quiet := true }
  | .allowedIps => some { a with allowedIps := a.allowedIps ++ [s] }
  | .tpacketVersion => (Version.ofText? s).map fun v => { a with tpacketVersion := some v }
  | .snapLen => (size? s).map fun n => { a with snapLen := some n }
  | .addVlanHeader => some { a with addVlanHeader := true }
  | .filterFile => some { a with filterFile := some s }
  | .ebpfObject => some { a with ebpfObject := some s }
  | .etherTypes => (word? s).map fun n => { a with etherTypes := a.etherTypes ++ [n] }
  | .fanoutGroup => (word? s).map fun n => { a with fanoutGroup := some n }
  | .fanoutType => (Fanout.ofText? s).map fun f => { a with fanoutType := f }
  | .help | .version => some a

end Arguments

/-! ## Reading -/

/-- The arguments read so far. -/
structure ArgumentReader where
  arguments : Arguments := {}
  /-- The flags that were settled. -/
  settled : List Flag := []
  /-- The last flag, if it is not settled, with the value it got from its own argument. -/
  waiting : Option (Flag × Option String) := none
  /-- Two hyphens have ended the flags. -/
  ended : Bool := false
  deriving DecidableEq, Repr

namespace ArgumentReader

/-- Settles a flag with its value. -/
def accept (r : ArgumentReader) (f : Flag) (value : Option String) :
    Except UsageError ArgumentReader :=
  if f = .help then .error .helpWanted
  else if f = .version then .error .versionWanted
  else if f.takesValue ∧ value = none then .error .missingValue
  else if !f.isRepeatable ∧ f ∈ r.settled then .error .repeated
  else
    match r.arguments.set? (value.getD "") f with
    | some arguments => .ok { r with arguments, settled := f :: r.settled }
    | none => .error .badValue

/-- Settles the flag that waits. -/
def settle (r : ArgumentReader) : Except UsageError ArgumentReader :=
  match r.waiting with
  | none => .ok r
  | some (f, value) => { r with waiting := none }.accept f value

/-- Settles the flag that waits, and then another one. -/
def give (r : ArgumentReader) (f : Flag) (value : Option String) :
    Except UsageError ArgumentReader :=
  match r.settle with
  | .error e => .error e
  | .ok r => r.accept f value

/-- Settles the flag that waits, and lets another one wait for its value. -/
def await (r : ArgumentReader) (f : Flag) : Except UsageError ArgumentReader :=
  match r.settle with
  | .error e => .error e
  | .ok r => .ok { r with waiting := some (f, none) }

/-- Cuts a text at its first equals sign. -/
def splitValue (s : List Char) : String × Option String :=
  let name := String.ofList (s.takeWhile (· ≠ '='))
  match s.dropWhile (· ≠ '=') with
  | [] => (name, none)
  | _ :: value => (name, some (String.ofList value))

/-- A flag by its name, with a value behind an equals sign or in the next argument. -/
def long (r : ArgumentReader) (s : List Char) : Except UsageError ArgumentReader :=
  let (name, value) := splitValue s
  match Flag.ofName? name with
  | none => .error .unknown
  | some f =>
    match f.takesValue, value with
    | true, some v => r.give f (some v)
    | true, none => r.await f
    | false, some _ => .error .unneededValue
    | false, none => r.give f none

/-- The value attached to a letter: what follows it, without an equals sign in front. -/
def attached (s : List Char) : String :=
  String.ofList (match s with
    | '=' :: value => value
    | value => value)

/-- Flags by their letters; one that takes a value takes what follows it for that, or else the
next argument. -/
def letters (r : ArgumentReader) : List Char → Except UsageError ArgumentReader
  | [] => .ok r
  | c :: rest =>
    match Flag.ofLetter? c with
    | none => .error .unknown
    | some f =>
      if f.takesValue then
        if rest.isEmpty then r.await f else r.give f (some (attached rest))
      else
        match r.give f none with
        | .error e => .error e
        | .ok r => letters r rest

/-- Reads one argument. -/
def step (r : ArgumentReader) (argument : String) : Except UsageError ArgumentReader :=
  if r.ended then .error .unknown
  else
    match argument.toList with
    | ['-', '-'] => .ok { r with ended := true }
    | '-' :: '-' :: s => r.long s
    | '-' :: c :: s => r.letters (c :: s)
    | _ =>
      match r.waiting with
      | some (f, none) => .ok { r with waiting := some (f, some argument) }
      | _ => .error .unknown

end ArgumentReader

/-- Reads the arguments of the command line. -/
def Arguments.parse (args : List String) : Except UsageError Arguments :=
  match args.foldlM ArgumentReader.step {} with
  | .error e => .error e
  | .ok r => r.settle.map (·.arguments)

/-! ## Merging -/

namespace Settings

/-- The settings with those of the command line in their place, where it gives any. A port equal to
the default one counts as not given. -/
def merge (s : Settings) (a : Arguments) : Settings where
  interface := a.interface.or s.interface
  port := if a.port ≠ defaultPort then a.port else s.port
  quiet := a.quiet || s.quiet
  allowedIps := if a.allowedIps.isEmpty then s.allowedIps else a.allowedIps
  capture :=
    { s.capture with
      version := a.tpacketVersion.or s.capture.version
      snapLength := a.snapLen.getD s.capture.snapLength
      addVlanHeader := a.addVlanHeader || s.capture.addVlanHeader }
  filterFile := a.filterFile.or s.filterFile
  ebpfObject := a.ebpfObject.or s.ebpfObject
  etherTypes := if a.etherTypes.isEmpty then s.etherTypes else a.etherTypes
  fanout := match a.fanoutGroup with
    | some group => some { type := a.fanoutType, group }
    | none => s.fanout

end Settings

end PacketRing
