import PacketRing.Kernel.Call
import PacketRing.Ring.Layout
import PacketRing.Ring.Region

/-!
# The kernel

The operating system as a value: what it will answer, what it shares with the reader, and the log
of the calls made to it. Each call first logs itself, then acts.

* `Kernel` : the state;
* `openSocket`, `bind`, `setOption`, `queryStatistics`, `map`, `unmap`, `createWaker`, `wake`,
  `send` : the calls;
* `interfaceIndex?`, `interfaceName?`, `resolvedPageSize` : look-ups, which are not logged.
-/

namespace PacketRing

inductive FailPoint where
  | socket | bind | version (v : Version) | requestRing | fanout | filter | compiledFilter
  | statistics | map | mapNull | unmap | createWaker | wake | write
  deriving DecidableEq, Repr

structure Interface where
  index : Nat
  name : Bytes
  deriving DecidableEq, Repr

/-- The kernel's counters between two queries, 32 bits each. -/
structure Counts where
  packets : Nat
  drops : Nat
  freezes : Nat
  deriving DecidableEq, Repr

structure Store where
  offset : Nat
  bytes : Bytes
  deriving DecidableEq, Repr

inductive PollOutcome where
  | fail (errno : Errno)
  | timeout
  /-- It waits until the reader is woken. -/
  | block
  /-- The events of the socket and of the waker. -/
  | events (socket waker : Nat)
  deriving DecidableEq, Repr

/-- What happens during a poll: the kernel writes, the capture loop may be told to stop, and the
poll ends. -/
structure PollStep where
  writes : List Store := []
  stop : Bool := false
  outcome : PollOutcome := .events pollIn 0
  deriving DecidableEq, Repr

/-- What a poll finds once the script is used up. -/
inductive Idle where
  /-- Nothing, until the handle is woken. -/
  | quiet
  /-- The waker, as if the handle had been woken. -/
  | stopping
  deriving DecidableEq, Repr

/-- The state of the kernel as far as a capture handle can tell. -/
structure Kernel where
  /-- What the kernel says its page size is; negative if it does not know. -/
  pageSize : Int := 4096
  /-- The longest mapping that it grants, one gibibyte unless told otherwise. -/
  maxMapping : Nat := 1024 * 1024 * 1024
  interfaces : List Interface := []
  failures : List (FailPoint × Errno) := []
  script : List PollStep := []
  idle : Idle := .quiet
  statistics : List Counts := []
  woken : Bool := false
  mapping : Option Region := none
  socketOpen : Bool := false
  /-- The flag that keeps a capture loop going. -/
  running : Bool := false
  calls : List Call := []

namespace Kernel

/-- The mapped memory; no bytes at all while nothing is mapped. -/
def memory (k : Kernel) : Region := k.mapping.getD (.zeroed 0)

def withMemory (k : Kernel) (mem : Region) : Kernel :=
  { k with mapping := k.mapping.map fun _ => mem }

def log (k : Kernel) (c : Call) : Kernel := { k with calls := k.calls ++ [c] }

/-- The error number that a call at `p` is made to fail with. -/
def failure? (k : Kernel) (p : FailPoint) : Option Errno := k.failures.lookup p

/-- The kernel writes into the mapping; without one the bytes are lost. -/
def deliver (k : Kernel) (writes : List Store) : Kernel :=
  k.withMemory (writes.foldl (fun mem w => mem.store w.offset w.bytes) k.memory)

/-! ## Look-ups -/

/-- The page size, or the default one if the kernel does not know it. -/
def resolvedPageSize (k : Kernel) : Nat :=
  if 0 < k.pageSize then k.pageSize.toNat else defaultPageSize

def interfaceIndex? (k : Kernel) (name : Bytes) : Option Nat :=
  (k.interfaces.find? (·.name == name)).map (·.index)

def interfaceName? (k : Kernel) (index : Nat) : Option Bytes :=
  (k.interfaces.find? (·.index == index)).map (·.name)

/-! ## Calls -/

/-- Logs `c` and fails if the kernel is told to fail at `p`. -/
def attempt (k : Kernel) (c : Call) (p : FailPoint) : Except Errno Unit × Kernel :=
  (match k.failure? p with
    | some e => .error e
    | none => .ok (), k.log c)

def openSocket (k : Kernel) (type : SocketType) : Except Errno Unit × Kernel :=
  match k.attempt (.socket packetFamily (type.number + closeOnExec) allProtocols) .socket with
  | (.error e, k) => (.error e, k)
  | (.ok (), k) => (.ok (), { k with socketOpen := true })

def closeSocket (k : Kernel) : Kernel := { k with socketOpen := false }

def bind (k : Kernel) (ifindex : Int) : Except Errno Unit × Kernel :=
  k.attempt (.bind (linkAddress ifindex)) .bind

def optionFailPoint : SocketOption → FailPoint
  | .version v => .version v
  | .receiveRing _ => .requestRing
  | .fanout _ => .fanout
  | .filter _ => .filter
  | .compiledFilter _ => .compiledFilter

def setOption (k : Kernel) (o : SocketOption) : Except Errno Unit × Kernel :=
  k.attempt (.setOption o) (optionFailPoint o)

/-- How many bytes of statistics a ring version has: v3 counts freezes as well. -/
def statisticsLength : Version → Nat
  | .v1 | .v2 => abiSizes.statistics
  | .v3 => abiSizes.statistics3

/-- Asks for the counts since the last query; versions 1 and 2 get no freezes. A query that fails
leaves the counts for the next one. -/
def queryStatistics (k : Kernel) (v : Version) : Except Errno Counts × Kernel :=
  match k.attempt (.getOption packetLevel statisticsOption (statisticsLength v)) .statistics with
  | (.error e, k) => (.error e, k)
  | (.ok (), k) =>
    let c := k.statistics.headD ⟨0, 0, 0⟩
    (.ok { c with freezes := if v = .v3 then c.freezes else 0 },
      { k with statistics := k.statistics.tail })

def outOfMemory : Errno := 12

/-- Maps the ring; `false` stands for a null address. -/
def map (k : Kernel) (length : Nat) : Except Errno Bool × Kernel :=
  match k.attempt (.map length readWrite sharedMapping 0) .map with
  | (.error e, k) => (.error e, k)
  | (.ok (), k) =>
    if (k.failure? .mapNull).isSome then (.ok false, k)
    else if k.maxMapping < length then (.error outOfMemory, k)
    else (.ok true, { k with mapping := some (.zeroed length) })

/-- Unmaps the ring. That the ring is gone even if a failure is reported is a rule of this kernel, not
of kernels in general; a handle never looks again at a ring that it asked to have unmapped. -/
def unmap (k : Kernel) (length : Nat) : Except Errno Unit × Kernel :=
  let (result, k) := k.attempt (.unmap length) .unmap
  (result, { k with mapping := none })

/-- Creates the descriptor that wakes a blocked reader. -/
def createWaker (k : Kernel) : Except Errno Unit × Kernel :=
  k.attempt (.eventfd 0 eventFlags) .createWaker

/-- Wakes the reader for good. That it wakes even if a failure is reported is a rule of this kernel,
not of kernels in general: there a poll that blocks could go on for ever after such a failure. -/
def wake (k : Kernel) : Except Errno Unit × Kernel :=
  let (result, k) := k.attempt (.wake (toLE 8 1)) .wake
  (result, { k with woken := true })

def send (k : Kernel) (data : Bytes) : Except Errno Unit × Kernel :=
  k.attempt (.write data) .write

end Kernel

end PacketRing
