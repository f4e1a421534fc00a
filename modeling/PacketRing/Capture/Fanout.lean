import PacketRing.Text.Quoted

/-!
# Fanout groups

How the kernel spreads packets over the sockets of a group.

* `Fanout` : the ways of spreading, `Fanout.ofText?` reading one by name;
* `Fanout.mode` : its number for the kernel;
* `Fanout.argument` : the mode above the group's number.
-/

namespace PacketRing

/-- How packets are spread over a group. -/
inductive Fanout where
  /-- By flow hash. -/
  | hash
  /-- By flow hash, after putting IP fragments together. -/
  | hashWithDefrag
  /-- Round robin. -/
  | loadBalance
  /-- By the CPU on which a packet arrived. -/
  | cpu
  /-- To the first socket with room. -/
  | rollover
  | random
  /-- By the receive queue. -/
  | queueMapping
  /-- By a classic filter program of the group. -/
  | cbpf
  /-- By a compiled program of the group. -/
  | ebpf
  deriving DecidableEq, Repr

namespace Fanout

/-- The flag that asks for defragmentation. -/
def defragFlag : Nat := 0x8000

/-- The mode bits for the kernel. -/
def mode : Fanout → Nat
  | hash => 0
  | hashWithDefrag => defragFlag
  | loadBalance => 1
  | cpu => 2
  | rollover => 3
  | random => 4
  | queueMapping => 5
  | cbpf => 6
  | ebpf => 7

/-- The full name of a fanout type. -/
def name : Fanout → String
  | hash => "hash"
  | hashWithDefrag => "hash_with_defrag"
  | loadBalance => "load_balance"
  | cpu => "cpu"
  | rollover => "rollover"
  | random => "random"
  | queueMapping => "queue_mapping"
  | cbpf => "cbpf"
  | ebpf => "ebpf"

/-- All fanout types. -/
def all : List Fanout :=
  [hash, hashWithDefrag, loadBalance, cpu, rollover, random, queueMapping, cbpf, ebpf]

/-- The fanout type of a full name. -/
def ofName? (s : String) : Option Fanout := all.find? (·.name == s)

/-- The fanout type of a full name, or of the short name `lb`. -/
def ofText? (s : String) : Option Fanout :=
  if s = "lb" then some loadBalance else ofName? s

/-- The message for a text that names no fanout type. -/
def unknown (s : String) : String := "unknown fanout type " ++ Text.quoted s

/-- The argument by which a socket joins group `group`: the mode in the upper 16 bits. -/
def argument (f : Fanout) (group : Nat) : Nat := f.mode * UInt16.size + group

theorem argument_div (f : Fanout) {group : Nat} (h : group < UInt16.size) :
    f.argument group / UInt16.size = f.mode ∧ f.argument group % UInt16.size = group := by
  unfold argument; unfold UInt16.size at *; omega

end Fanout

end PacketRing
