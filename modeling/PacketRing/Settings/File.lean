import PacketRing.Settings.Basic
import PacketRing.Text.Utf8
import PacketRing.Yaml.Decode

/-!
# The settings file

* `Settings.ofYaml?` : reading the settings from a YAML text. Unknown members are passed over, but
  a known one must not come twice;
* `Settings.ofFile` : the same from the bytes of a file.
-/

namespace PacketRing

/-- Why a settings file cannot be used. -/
inductive FileError where
  /-- There is no such file. -/
  | missing
  /-- Its bytes are not a text. -/
  | notText
  /-- Its text is no YAML, or does not say settings. -/
  | notSettings
  deriving DecidableEq, Repr

/-- The spelling of a version in a settings file. -/
def Version.ofSetting? : String → Option Version
  | "v1" => some .v1
  | "v2" => some .v2
  | "v3" => some .v3
  | _ => none

open Yaml

/-- Reads the capture section. -/
def CaptureSettings.ofNode? (d : Document) (n : Node) : Option CaptureSettings := do
  let ms ← members? d n
  let size := natBelow? UInt64.size
  let base : CaptureSettings := {}
  let version ← member? d ms "version" (some base.version) (optional? (choice? Version.ofSetting?))
  let frameSize ← member? d ms "frame_size" (some base.frameSize) size
  let blockSize ← member? d ms "block_size" (some base.blockSize) size
  let numBlocks ← member? d ms "num_blocks" (some base.numBlocks) size
  let blockTimeout ← member? d ms "block_timeout_ms" (some base.blockTimeout) size
  let pollTimeout ← member? d ms "poll_timeout_ms" (some base.pollTimeout) size
  let snapLength ← member? d ms "snap_len" (some base.snapLength) size
  let addVlanHeader ← member? d ms "add_vlan_header" (some base.addVlanHeader) bool?
  some
    { version, frameSize, blockSize, numBlocks, blockTimeout, pollTimeout, snapLength
      addVlanHeader }

/-- Reads the fanout section, whose members must all be there. -/
def FanoutSettings.ofNode? (d : Document) (n : Node) : Option FanoutSettings := do
  let ms ← members? d n
  let type ← member? d ms "type" none (choice? Fanout.ofName?)
  let group ← member? d ms "group_id" none (natBelow? UInt16.size)
  some { type, group }

namespace Settings

/-- Reads the settings from the root of a document. -/
def ofNode? (d : Document) (n : Node) : Option Settings := do
  let ms ← members? d n
  let word := natBelow? UInt16.size
  let base : Settings := {}
  let interface ← member? d ms "interface" (some base.interface) (optional? text?)
  let port ← member? d ms "port" (some base.port) word
  let quiet ← member? d ms "quiet" (some base.quiet) bool?
  let allowedIps ← member? d ms "allowed_ips" (some base.allowedIps) (list? text?)
  let capture ← member? d ms "capture" (some base.capture) CaptureSettings.ofNode?
  let filterFile ← member? d ms "filter_file" (some base.filterFile) (optional? text?)
  let ebpfObject ← member? d ms "ebpf_object" (some base.ebpfObject) (optional? text?)
  let etherTypes ← member? d ms "ether_types" (some base.etherTypes) (list? word)
  let fanout ← member? d ms "fanout" (some base.fanout) (optional? FanoutSettings.ofNode?)
  some
    { interface, port, quiet, allowedIps, capture, filterFile, ebpfObject, etherTypes, fanout }

/-- Reads the settings from a YAML text; one without a document leaves the defaults. -/
def ofYaml? (text : List Char) : Option Settings := do
  let d ← Document.ofText? text
  match d.root with
  | none => some {}
  | some n => ofNode? d n

/-- Reads the settings from a file's bytes. -/
def ofFile (bytes : List UInt8) : Except FileError Settings :=
  match Text.decode? bytes with
  | none => .error .notText
  | some text =>
    match ofYaml? text with
    | some s => .ok s
    | none => .error .notSettings

end Settings

end PacketRing
