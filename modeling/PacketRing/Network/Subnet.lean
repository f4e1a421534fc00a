import PacketRing.Network.Address

/-!
# Subnets and allowlists

* `Subnet` : the addresses of one family that agree in their leading bits;
* `Subnet.contains` : membership;
* `Subnet.ofText?` : reading an address and the number of leading bits, with a slash between;
* `Allowlist` : the subnets of a list of texts, `Allowlist.admits` whether they let a client in.
-/

namespace PacketRing

/-- The addresses that agree with `base` in their first `bits` bits. -/
structure Subnet where
  base : Address
  bits : Nat
  deriving DecidableEq, Repr

namespace Subnet

/-- The leading `n` bits of an address. -/
def leading (a : Address) (n : Nat) : Nat := a.value >>> (a.family.width - n)

/-- `a` lies in the subnet; bits of the base past the leading ones play no role. -/
def contains (s : Subnet) (a : Address) : Bool :=
  s.base.family == a.family && leading s.base s.bits == leading a s.bits

/-- A slash and a number of leading bits that the family has. -/
def takeBits (family : AddressFamily) (s : List Char) : Option (Nat × List Char) := do
  let s ← Address.takeChar '/' s
  let maxDigits := match family with
    | .v4 => 2
    | .v6 => 3
  Address.takeDecimal maxDigits (family.width + 1) s

/-- Reads a subnet of one family. -/
def take (family : AddressFamily) (address : List Char → Option (Nat × List Char))
    (s : List Char) : Option (Subnet × List Char) := do
  let (value, s) ← address s
  let (bits, s) ← takeBits family s
  some (⟨⟨family, value⟩, bits⟩, s)

/-- Reads a subnet. -/
def ofText? (s : String) : Option Subnet :=
  match (take .v4 Address.takeV4 s.toList).or (take .v6 Address.takeV6 s.toList) with
  | some (subnet, []) => some subnet
  | _ => none

end Subnet

/-- Which clients are let in: all of them, or those in one of the subnets. -/
inductive Allowlist where
  | everyone
  | only (subnets : List Subnet)
  deriving DecidableEq, Repr

namespace Allowlist

/-- The allowlist of the given entries. Entries that cannot be read admit nobody; only an empty
list admits everyone. -/
def ofEntries (entries : List String) : Allowlist :=
  if entries.isEmpty then everyone else only (entries.filterMap Subnet.ofText?)

/-- Whether a client is let in; one without a known address always is. -/
def admits (a : Allowlist) (client : Option Address) : Bool :=
  match a, client with
  | everyone, _ => true
  | only _, none => true
  | only subnets, some address => subnets.any (·.contains address)

end Allowlist

end PacketRing
