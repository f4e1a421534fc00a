import PacketRing.Bytes
import PacketRing.Duration
import PacketRing.Ring.Version

/-!
# Ring geometry

* `Geometry` : frames per block, blocks per ring, and the sizes that follow;
* `slots`, `slotSize`, `slotOffset` : the units of ownership, frames in v1 and v2, blocks in v3;
* `request` : the ring request as the kernel takes it.
-/

namespace PacketRing

/-- The shape of a receive ring. -/
structure Geometry where
  frameSize : Nat
  framesPerBlock : Nat
  numBlocks : Nat
  blockTimeout : Duration
  deriving DecidableEq, Repr

namespace Geometry

/-- The bytes of a block. They are no more than those of the mapping if the ring has blocks at all;
otherwise nothing bounds them. -/
def blockSize (g : Geometry) : Nat := g.frameSize * g.framesPerBlock

def frameCount (g : Geometry) : Nat := g.framesPerBlock * g.numBlocks

def mappingSize (g : Geometry) : Nat := g.frameSize * g.framesPerBlock * g.numBlocks

/-- The number of slots that pass to and fro between kernel and reader. -/
def slots (g : Geometry) : Version → Nat
  | .v1 | .v2 => g.frameCount
  | .v3 => g.numBlocks

def slotSize (g : Geometry) : Version → Nat
  | .v1 | .v2 => g.frameSize
  | .v3 => g.blockSize

def slotOffset (g : Geometry) (v : Version) (i : Nat) : Nat := i * g.slotSize v

theorem slots_mul_slotSize (g : Geometry) (v : Version) :
    g.slots v * g.slotSize v = g.mappingSize := by
  cases v <;> simp only [slots, slotSize, frameCount, blockSize, mappingSize] <;> ac_rfl

/-- The words of a ring request, in order; v3 adds the retire timeout in milliseconds and two
zeros. -/
def requestWords (g : Geometry) (v : Version) : List Nat :=
  let common := [g.blockSize, g.numBlocks, g.frameSize, g.frameCount]
  match v with
  | .v1 | .v2 => common
  | .v3 => common ++ [min g.blockTimeout.millis (UInt32.size - 1), 0, 0]

/-- The bytes of a ring request: 32-bit little-endian words, cut where they do not fit. -/
def request (g : Geometry) (v : Version) : Bytes := (g.requestWords v).flatMap (toLE 4)

end Geometry

end PacketRing
