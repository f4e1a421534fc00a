import PacketRing.Ring.Layout
import PacketRing.Ring.Region

/-!
# Walking a block

A v3 block is a descriptor followed by packet records, each pointing at the next.

* `BlockPosition` : where a walk stands;
* `BlockPosition.first` : its start, at the record that the descriptor points at;
* `BlockPosition.advance?` : the next record, which always lies further on and inside the block
  (`advance?_bounds`).
-/

namespace PacketRing

/-- Where a walk through a block stands. -/
structure BlockPosition where
  block : Nat
  /-- Start of the current packet header. -/
  packet : Nat
  used : Nat
  /-- Packets that the descriptor announces. -/
  total : Nat
  deriving DecidableEq, Repr

namespace BlockPosition

abbrev headerSize : Nat := (Version.layout .v3).headerSize

/-- The start of a walk. A first record whose header does not fit leaves the block empty. -/
def first (mem : Region) (block blockSize : Nat) : BlockPosition :=
  let packet := block + mem.field (block + Block.firstPacketField) 4
  let total := mem.field (block + Block.packetCountField) 4
  { block, packet, used := 0
    total := if packet + headerSize ≤ block + blockSize then total else 0 }

/-- Where the record after the current one begins: at the distance it gives, or right behind its
bytes if it gives none. -/
def nextPacket (mem : Region) (p : BlockPosition) : Nat :=
  let distance := mem.field (p.packet + nextOffsetField) 4
  if distance ≠ 0 then p.packet + distance
  else
    let l := Version.layout .v3
    p.packet + frameAlign
      (mem.field (p.packet + l.snapLength) 4 + mem.field (p.packet + l.dataOffset) 2)

/-- One step of a walk: the position after it, and whether it stands on another record. A record
that does not lie further on, or not in the block, ends the walk. -/
def step (mem : Region) (blockSize : Nat) (p : BlockPosition) : BlockPosition × Bool :=
  if p.total ≤ p.used + 1 then ({ p with used := p.used + 1 }, false)
  else
    let next := p.nextPacket mem
    if next ≤ p.packet ∨ p.block + blockSize < next + headerSize then
      ({ p with used := p.total }, false)
    else ({ p with used := p.used + 1, packet := next }, true)

/-- The next record of a walk. -/
def advance? (mem : Region) (blockSize : Nat) (p : BlockPosition) : Option BlockPosition :=
  let (q, more) := p.step mem blockSize
  if more then some q else none

theorem advance?_bounds {mem : Region} {blockSize : Nat} {p q : BlockPosition}
    (h : p.advance? mem blockSize = some q) :
    q.block = p.block ∧ q.total = p.total ∧ q.used = p.used + 1 ∧ q.used < q.total ∧
      p.packet < q.packet ∧ q.packet + headerSize ≤ p.block + blockSize := by
  unfold advance? step at h
  simp only at h
  split at h
  · simp at h
  · split at h
    · simp at h
    · simp only [↓reduceIte, Option.some.injEq] at h
      subst h
      refine ⟨rfl, rfl, rfl, ?_, ?_, ?_⟩ <;> dsimp only <;> omega

end BlockPosition

end PacketRing
