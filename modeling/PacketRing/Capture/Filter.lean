import PacketRing.Bytes
import PacketRing.Error
import PacketRing.Text.Blank
import PacketRing.Text.Numeral

/-!
# Classic filter programs

* `Instruction` : one instruction, `Instruction.bytes` its form for the kernel;
* `Program.ofText` : reading a program from its decimal listing: an instruction count on the first
  line, then four numbers a line.
-/

namespace PacketRing

/-- One instruction of a classic filter program. -/
structure Instruction where
  code : Nat
  jumpTrue : Nat
  jumpFalse : Nat
  operand : Nat
  deriving DecidableEq, Repr

/-- A classic filter program. -/
abbrev Program := List Instruction

namespace Instruction

/-- An instruction's eight bytes. -/
def bytes (i : Instruction) : Bytes :=
  toLE 2 i.code ++ toLE 1 i.jumpTrue ++ toLE 1 i.jumpFalse ++ toLE 4 i.operand

/-- Reads a line of exactly four numbers, each within the width of its field. -/
def ofLine? (line : List Char) : Option Instruction :=
  match Text.words line with
  | [code, jumpTrue, jumpFalse, operand] => do
    let code ← Text.natBelow UInt16.size code
    let jumpTrue ← Text.natBelow UInt8.size jumpTrue
    let jumpFalse ← Text.natBelow UInt8.size jumpFalse
    let operand ← Text.natBelow UInt32.size operand
    some ⟨code, jumpTrue, jumpFalse, operand⟩
  | _ => none

end Instruction

namespace Program

/-- A program's bytes. -/
def bytes (p : Program) : Bytes := p.flatMap Instruction.bytes

/-- Reads the instruction lines from number `n` on; the first bad one is the problem. -/
def ofLines (n : Nat) : List (List Char) → Except Problem Program
  | [] => .ok []
  | line :: rest =>
    match Instruction.ofLine? line with
    | none => .error (.badInstruction n (String.ofList line))
    | some i =>
      match ofLines (n + 1) rest with
      | .error p => .error p
      | .ok p => .ok (i :: p)

/-- The lines of a listing: trimmed, without the blank ones. -/
def listing (text : String) : List (List Char) :=
  ((Text.lines text.toList).map Text.trim).filter (!·.isEmpty)

/-- Reads a listing. A missing count is found before a bad instruction, and that before a count
that is wrong. -/
def ofText (text : String) : Except Problem Program :=
  match listing text with
  | [] => .error .emptyProgram
  | first :: rest =>
    match Text.natBelow UInt64.size first with
    | none => .error .noInstructionCount
    | some count =>
      match ofLines 1 rest with
      | .error p => .error p
      | .ok program =>
        if program.length = count then .ok program
        else .error (.instructionCount count program.length)

end Program

end PacketRing
