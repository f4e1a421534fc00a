import PacketRing.Network.Subnet
import PacketRing.Settings.CommandLine
import PacketRing.Settings.File

/-!
# Settings in words

* `usage` : the flags and what they are for;
* `UsageError.message`, `FileError.message` : the wording of what can be wrong;
* `Settings.summary` : the capture and the API that the settings ask for, or what is wrong with
  their options.
-/

namespace PacketRing

/-! ## Flags -/

/-- What a flag is for. -/
def Flag.purpose : Flag → String
  | .interface => "network interface to capture on; all of them unless given"
  | .port => "port to serve the API on"
  | .config => "path of a YAML settings file"
  | .quiet => "print errors only"
  | .allowedIps => "subnet whose clients may use the API; may be repeated"
  | .tpacketVersion => "ring version to require: v1, v2 or v3; the highest one unless given"
  | .snapLen => "bytes to return of a packet; 0 for all of them"
  | .addVlanHeader => "put stripped VLAN tags back into copied packets"
  | .filterFile => "listing of a classic filter program"
  | .ebpfObject => "compiled filter program"
  | .etherTypes => "EtherType that the compiled filter lets through; may be repeated"
  | .fanoutGroup => "fanout group to join"
  | .fanoutType => "how the fanout group spreads packets"
  | .help => "print this list"
  | .version => "print the version"

/-- A flag as it is typed, with its purpose. -/
def Flag.usage (f : Flag) : String :=
  let letter := match f.letter? with
    | some c => "-" ++ String.ofList [c] ++ ", "
    | none => "    "
  let value := if f.takesValue then " <value>" else ""
  "  " ++ letter ++ "--" ++ f.longName ++ value ++ ": " ++ f.purpose

/-- The flags and what they are for. -/
def usage : String := "\n".intercalate ("Flags:" :: Flag.all.map Flag.usage)

/-! ## Errors -/

/-- The wording of what is wrong with the arguments. -/
def UsageError.message : UsageError → String
  | unknown => "unexpected argument"
  | missingValue => "a flag lacks its value"
  | badValue => "a flag has a value that it cannot have"
  | repeated => "a flag is given more than once"
  | unneededValue => "a flag that takes no value is given one"
  | helpWanted => usage
  | versionWanted => "0.1.0"

/-- The arguments ask for nothing but a text. -/
def UsageError.isRequest (e : UsageError) : Bool := e == helpWanted || e == versionWanted

/-- The wording of what is wrong with a settings file. -/
def FileError.message : FileError → String
  | missing => "the settings file cannot be read"
  | notText => "the settings file is not UTF-8 text"
  | notSettings => "the settings file does not hold settings"

/-! ## Summary -/

namespace Settings

/-- The ring that is asked for. -/
def ringLine (s : Settings) : String :=
  let g := s.captureOptions.geometry
  let names := ", ".intercalate (s.captureOptions.version.candidates.map Version.name)
  let on := s.interface.getD "all interfaces"
  s!"ring on {on}: {g.mappingSize} bytes in {g.numBlocks} blocks, as " ++ names

/-- The API that is asked for. -/
def apiLine (s : Settings) : String :=
  s!"API on port {s.port} for " ++
    match Allowlist.ofEntries s.allowedIps with
    | .everyone => "everyone"
    | .only subnets => s!"clients in {subnets.length} subnets"

/-- The group that is asked for. -/
def fanoutLine (f : FanoutSettings) : String := s!"fanout group {f.group} by {f.type.name}"

/-- What the settings ask for, a line each, on a machine with pages of `pageSize` bytes. -/
def summary (s : Settings) (pageSize : Nat) : Except CaptureError (List String) :=
  match s.captureOptions.check pageSize with
  | .error e => .error e
  | .ok () => .ok ([s.ringLine, s.apiLine] ++ (s.fanout.map fanoutLine).toList)

end Settings

end PacketRing
