import PacketRing.Text.Quoted

/-!
# Ring versions

* `Version` : the three layouts of a receive ring;
* `Version.ofText?` : reading one from a command line;
* `VersionChoice` : which of them may be negotiated, `VersionChoice.candidates` in which order.
-/

namespace PacketRing

/-- A layout revision of the receive ring. -/
inductive Version where
  | v1 | v2 | v3
  deriving DecidableEq, Repr

namespace Version

/-- The value by which the kernel knows a version. -/
def raw : Version → Nat
  | v1 => 0
  | v2 => 1
  | v3 => 2

def name : Version → String
  | v1 => "TPACKET_V1"
  | v2 => "TPACKET_V2"
  | v3 => "TPACKET_V3"

theorem raw_injective {a b : Version} (h : a.raw = b.raw) : a = b := by
  cases a <;> cases b <;> first | rfl | cases h

/-- `s` without the tags `tpacket_` at its front, however many there are. -/
def dropTags : List Char → List Char
  | 't' :: 'p' :: 'a' :: 'c' :: 'k' :: 'e' :: 't' :: '_' :: s => dropTags s
  | s => s

/-- Reads a version: its number, with or without a `v` in front, after any number of tags, in
any mix of ASCII cases. -/
def ofText? (s : String) : Option Version :=
  match dropTags (s.toList.map Char.toLower) with
  | ['v', '1'] | ['1'] => some v1
  | ['v', '2'] | ['2'] => some v2
  | ['v', '3'] | ['3'] => some v3
  | _ => none

/-- The message for a text that names no version. -/
def unknown (s : String) : String := "unknown tpacket version " ++ Text.quoted s

end Version

/-- Which versions an open may settle on. -/
inductive VersionChoice where
  | highest
  | exactly (version : Version)
  deriving DecidableEq, Repr

/-- The versions to try, in order. -/
def VersionChoice.candidates : VersionChoice → List Version
  | highest => [.v3, .v2, .v1]
  | exactly v => [v]

end PacketRing
