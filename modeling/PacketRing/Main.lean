import PacketRing.Settings.Summary

/-!
# The command line tool

Reads the arguments and the settings file that they name, and prints the capture that they ask for,
or nothing in quiet mode. Exits with 2 for arguments that make no sense, and with 1 for settings
that cannot be used.
-/

namespace PacketRing

/-- The settings of a file. -/
def loadSettings (path : String) : IO (Except FileError Settings) := do
  try
    let bytes ← IO.FS.readBinFile path
    return Settings.ofFile bytes.toList
  catch _ => return .error .missing

/-- Prints what is wrong, and fails with `code`. -/
def complain (code : UInt32) (message : String) : IO UInt32 := do
  IO.eprintln ("error: " ++ message)
  return code

/-- Prints what the settings ask for, or, in quiet mode, only what is wrong with them. -/
def showSettings (settings : Settings) : IO UInt32 := do
  match settings.summary defaultPageSize with
  | .error e => complain 1 e.message
  | .ok lines =>
    unless settings.quiet do
      lines.forM fun line => IO.println line
    return 0

end PacketRing

open PacketRing

def main (args : List String) : IO UInt32 := do
  match Arguments.parse args with
  | .error e =>
    if e.isRequest then
      IO.println e.message
      return 0
    complain 2 e.message
  | .ok arguments =>
    match arguments.config with
    | none => showSettings (Settings.merge {} arguments)
    | some path =>
      match ← loadSettings path with
      | .error e => complain 1 e.message
      | .ok settings => showSettings (settings.merge arguments)
