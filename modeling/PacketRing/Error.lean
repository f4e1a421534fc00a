import PacketRing.Duration
import PacketRing.Text.Quoted

/-!
# What can go wrong with a capture

* `Problem` : what is wrong with a configuration, and its text;
* `Operation` : the system operation that failed, and its name;
* `CaptureError` : every error of a capture handle, `CaptureError.message` its wording,
  `osError?`, `source?`, `isTimeout`, `isFatal` its classification.
-/

namespace PacketRing

open Text (quoted)

abbrev Errno := Int

/-- What is wrong with a configuration. -/
inductive Problem where
  | zeroSize
  | blockNotPages (blockSize pageSize : Nat)
  | blockNotFrames (blockSize frameSize : Nat)
  | noBlocks (numBlocks : Nat)
  | ringTooLarge (numBlocks blockSize : Nat)
  | blockTimeoutTooShort (timeout : Duration)
  | nameWithNul (name : String)
  | unknownInterface (name : String)
  | noVersion
  | emptyProgram
  | noInstructionCount
  | badInstruction (number : Nat) (line : String)
  | instructionCount (declared found : Nat)
  | other (reason : String)
  deriving DecidableEq, Repr

def Problem.text : Problem → String
  | zeroSize => "frame size and block size must be non-zero"
  | blockNotPages b p => s!"block size {b} must be divisible by page size {p}"
  | blockNotFrames b f => s!"block size {b} must be divisible by frame size {f}"
  | noBlocks n => s!"num blocks {n} must be >= 1"
  | ringTooLarge n b => s!"ring of {n} blocks of {b} bytes does not fit a 32-bit ring request"
  | blockTimeoutTooShort t => "block timeout " ++ t.text ++ " must be >= 1ms"
  | nameWithNul name => "interface name " ++ quoted name ++ " contains a NUL byte"
  | unknownInterface name => "interface " ++ quoted name ++ " not found"
  | noVersion => "no known tpacket versions work on this machine"
  | emptyProgram => "empty filter program"
  | noInstructionCount => "filter program must start with an instruction count"
  | badInstruction n line => s!"bad filter instruction {n}: " ++ quoted line
  | instructionCount d n => s!"filter program declares {d} instructions but has {n}"
  | other reason => reason

/-- A system operation that a capture handle performs. -/
inductive Operation where
  | socket | bind | requestRing | map | createWaker | queryStatistics
  | poll | write | attachFilter | attachCompiled | joinFanout
  deriving DecidableEq, Repr

def Operation.name : Operation → String
  | socket => "socket"
  | bind => "bind"
  | requestRing => "setsockopt(PACKET_RX_RING)"
  | map => "mmap"
  | createWaker => "eventfd"
  | queryStatistics => "getsockopt(PACKET_STATISTICS)"
  | poll => "poll"
  | write => "write"
  | attachFilter => "setsockopt(SO_ATTACH_FILTER)"
  | attachCompiled => "setsockopt(SO_ATTACH_BPF)"
  | joinFanout => "setsockopt(PACKET_FANOUT)"

/-- Why the ring could not be set up. -/
inductive SetupCause where
  | os (errno : Errno)
  | emptyRing
  | noRing
  deriving DecidableEq, Repr

/-- The errors of a capture handle. -/
inductive CaptureError where
  /-- Unusable options, interface or filter text. -/
  | configuration (problem : Problem) (os : Option Errno)
  /-- The ring could not be allocated or mapped. -/
  | setup (op : Operation) (cause : SetupCause)
  /-- Nothing arrived in time; nothing was consumed. -/
  | pollTimeout
  /-- The socket is in an error state. -/
  | pollFailure
  | syscall (op : Operation) (os : Errno)
  /-- A filter program carries its length in 16 bits. -/
  | filterTooLarge (length : Nat)
  | closed
  deriving DecidableEq, Repr

namespace CaptureError

/-- The most instructions a filter program may have. -/
def maxFilterLength : Nat := 65535

def message : CaptureError → String
  | configuration problem _ => "configuration error: " ++ problem.text
  | setup op _ => "ring setup failed during " ++ op.name
  | pollTimeout => "packet poll timeout expired"
  | pollFailure => "packet poll failed"
  | syscall op _ => op.name ++ " failed"
  | filterTooLarge n => s!"filter too large: {n} instructions (max {maxFilterLength})"
  | closed => "handle is closed"

/-- The operating system's error number behind an error. -/
def osError? : CaptureError → Option Errno
  | configuration _ os => os
  | setup _ (.os e) => some e
  | syscall _ e => some e
  | _ => none

/-- The text of a cause that is not an operating system error. -/
def source? : CaptureError → Option String
  | setup _ .emptyRing => some "empty ring"
  | setup _ .noRing => some "no ring"
  | _ => none

/-- The read may be tried again. -/
def isTimeout (e : CaptureError) : Bool := e == pollTimeout

/-- The handle is of no use any more. -/
def isFatal (e : CaptureError) : Bool := e == pollFailure || e == closed

end CaptureError

end PacketRing
