import PacketRing.Capture.Filter
import PacketRing.Capture.Fanout
import PacketRing.Options

/-!
# System calls

What a capture handle asks of the kernel.

* `SocketOption` : the options it sets, with their level, number and value;
* `Call` : an entry of the call log;
* the constants of packet sockets, and `linkAddress`, the address a socket is bound to.
-/

namespace PacketRing

/-! ## Constants -/

def packetFamily : Nat := 17
def closeOnExec : Nat := 524288
/-- All protocols, in network byte order. -/
def allProtocols : Nat := 768
def socketLevel : Nat := 1
def packetLevel : Nat := 263
def statisticsOption : Nat := 6
def readWrite : Nat := 3
def sharedMapping : Nat := 1
/-- Flags of the eventfd: non-blocking, closed on exec. -/
def eventFlags : Nat := 526336
def pollIn : Nat := 1
def pollErr : Nat := 8
def pollNval : Nat := 32

/-- The link-layer address that binds a socket to an interface, 20 bytes. -/
def linkAddress (ifindex : Int) : Bytes :=
  toLE 2 packetFamily ++ toLE 2 allProtocols ++ toLE 4 (ifindex % UInt32.size).toNat ++
    List.replicate 12 0

/-! ## Socket options -/

inductive SocketOption where
  | version (v : Version)
  | receiveRing (request : Bytes)
  | fanout (argument : Nat)
  | filter (program : Program)
  | compiledFilter (descriptor : Nat)
  deriving DecidableEq, Repr

namespace SocketOption

def level : SocketOption → Nat
  | version _ | receiveRing _ | fanout _ => packetLevel
  | filter _ | compiledFilter _ => socketLevel

def number : SocketOption → Nat
  | version _ => 10
  | receiveRing _ => 5
  | fanout _ => 18
  | filter _ => 26
  | compiledFilter _ => 50

def value : SocketOption → Bytes
  | version v => toLE 4 v.raw
  | receiveRing request => request
  | fanout argument => toLE 4 argument
  | filter program => program.bytes
  | compiledFilter descriptor => toLE 4 descriptor

end SocketOption

/-! ## Calls -/

/-- An entry of the call log. -/
inductive Call where
  | socket (domain type protocol : Nat)
  | bind (address : Bytes)
  | setOption (option : SocketOption)
  | getOption (level number length : Nat)
  | map (length protection flags offset : Nat)
  | unmap (length : Nat)
  | eventfd (initial flags : Nat)
  | wake (value : Bytes)
  | write (data : Bytes)
  | poll (timeout : Int) (socketEvents wakerEvents : Nat)
  deriving DecidableEq, Repr

end PacketRing
