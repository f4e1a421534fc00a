import Mathlib
import PacketRing.Proofs.EmptyRecords
import PacketRing.Proofs.WordArithmetic

/-!
# What the variables of a cursor say

The slot, the phase, the pending release and the place in a block are set at different points of a
read, and memory may be another one at each read. At the end of a read they agree.

* `Cursor.Holding.variables`, `Cursor.Free.variables` : the variables while a slot is held, and
  while none is;
* `Reader.variables_agree` : the variables after every read of every run of reads.
-/

namespace PacketRing

/-! ## Cursors -/

namespace Cursor

variable {c : Cursor}

theorem Holding.variables (h : c.Holding) :
    c.phase = .haveHeader ∧ c.pendingRelease = true ∧ (c.block.isSome = true ↔ c.version = .v3) ∧
      ∀ p, c.block = some p → p.block = c.base ∧ p.used < p.total ∧ p.block ≤ p.packet ∧
        p.packet + 48 ≤ p.block + c.geometry.blockSize := by
  refine ⟨h.phase, h.pendingRelease, ?_, fun p hp => ?_⟩
  · cases hb : c.block with
    | none => exact iff_of_false Bool.false_ne_true (h.frame hb)
    | some p => exact iff_of_true rfl (h.block p hb).1
  · obtain ⟨-, hin⟩ := h.block p hp
    rw [hin.block]
    exact ⟨rfl, hin.used, hin.low, hin.high⟩

theorem Free.variables (h : c.Free) :
    (c.phase = .needHeader ∨ c.phase = .blockExhausted) ∧ c.pendingRelease = false ∧
      c.block = none := by
  refine ⟨?_, h.pendingRelease, h.block⟩
  have hphase := h.phase
  cases hp : c.phase with
  | needHeader => exact .inl rfl
  | haveHeader => exact absurd hp hphase
  | blockExhausted => exact .inr rfl

end Cursor

/-! ## Runs of reads -/

namespace Reader

/-- **The variables of a cursor agree whenever no read goes on.** Reads have brought the reader to
where it is, whatever was in memory at each, whatever its size, and whatever the kernel did while
they waited. Before and after the next read the slot is one of the ring's. A read that returns a
packet leaves a header handed out and a release pending, and a place in a block just in v3; that
place is in the block at the cursor, on a record whose header lies in the block and which is one of
those that were announced. A read that fails leaves no header handed out, no release pending and no
place in a block. If the sizes of the ring, a block among them, stay below a quarter of a word, the
read comes to the same with every sum checked: a block is no larger than the mapping, unless the
ring has no blocks. -/
theorem variables_agree {c : Cursor} {r : Reader} (hr : Reached c r) (k : Kernel) :
    let g := c.geometry
    let after := (r.next k).2.1.cursor
    (r.cursor.index < max (g.slots c.version) 1 ∧ after.index < max (g.slots c.version) 1) ∧
    (∀ f, (r.next k).1 = .ok f →
      after.phase = .haveHeader ∧ after.pendingRelease = true ∧
      (after.block.isSome = true ↔ c.version = .v3) ∧
      ∀ p, after.block = some p →
        p.block = g.slotOffset c.version after.index ∧ p.used < p.total ∧
        p.block ≤ p.packet ∧ p.packet + 48 ≤ p.block + g.blockSize) ∧
    (∀ e, (r.next k).1 = .error e →
      (after.phase = .needHeader ∨ after.phase = .blockExhausted) ∧
      after.pendingRelease = false ∧ after.block = none) ∧
    (g.frameSize < 2 ^ 64 → g.numBlocks < 2 ^ 64 → g.blockSize < 2 ^ 62 →
      g.frameCount < 2 ^ 62 → g.mappingSize < 2 ^ 62 → Machine.next r k = some (r.next k)) := by
  intro g after
  have hnext : Reached c (r.next k).2.1 := hr.next k
  obtain ⟨hstart, hsettled⟩ := hr.settled
  have hversion : after.version = c.version := Cursor.version_of_start hnext.settled.1
  have hgeometry : after.geometry = g := Cursor.geometry_of_start hnext.settled.1
  have hbase : after.base = g.slotOffset c.version after.index := by
    rw [← hversion, ← hgeometry]
    rfl
  have hend : Settles (r.next k) := next_settles hsettled
  unfold Settles at hend
  refine ⟨⟨?_, ?_⟩, fun f hf => ?_, fun e he => ?_, fun hframe hblocks hblock hcount hmapping => ?_⟩
  · exact hr.index_lt.trans_eq (Cursor.round_of_start hstart)
  · exact hnext.index_lt.trans_eq (Cursor.round_of_start hnext.settled.1)
  · rw [hf] at hend
    have hvariables := hend.1.variables
    rwa [hversion, hgeometry, hbase] at hvariables
  · rw [he] at hend
    exact hend.variables
  · exact hr.next_eq (Geometry.small_of_lt hframe hblocks hblock hcount hmapping) k

/-! ### A block that is gone at the second read -/

/-- A kernel that mapped no more than the descriptor of a block, and wrote nothing. -/
def shrunken : Kernel where
  mapping := some (.zeroed 48)

/-- The record behind the one that was returned cannot be found there any more. -/
theorem next_shrunken : (hollowReader.next shrunken).1 = .error .pollTimeout := by
  have hw : (hollowReader.cursor.walk shrunken.memory).2 = none := by
    unfold hollowReader
    rw [next_hollow]
    decide +kernel
  have hstop := claim_of_stop (e := .pollTimeout) (k := shrunken)
    (r := { hollowReader with cursor := (hollowReader.cursor.walk shrunken.memory).1 })
    (by unfold hollowReader; rw [next_hollow]; decide +kernel)
    (by unfold hollowReader; rw [next_hollow]; decide +kernel)
  rw [next_of_walk_none hw, hstop]

/-- The first read stands on the first of two records. The second one finds all bytes gone, gives
the block up and times out at the next one. -/
theorem variables_agree_shrunken :
    let first := (hiddenReader.next hollowKernel).2.1.cursor
    let second := (hollowReader.next shrunken).2.1.cursor
    Reached hiddenReader.cursor hollowReader ∧
      (first.phase = .haveHeader ∧ first.pendingRelease = true ∧ first.block.isSome = true) ∧
      ((second.phase = .needHeader ∨ second.phase = .blockExhausted) ∧
        second.pendingRelease = false ∧ second.block = none) ∧
      Machine.next hollowReader shrunken = some (hollowReader.next shrunken) := by
  intro first second
  have hreached : Reached hiddenReader.cursor hollowReader := .next hollowKernel .start
  obtain ⟨-, hpacket, -, -⟩ := variables_agree (c := hiddenReader.cursor) .start hollowKernel
  obtain ⟨-, -, hfailed, hchecked⟩ := variables_agree hreached shrunken
  obtain ⟨hphase, hpending, hblock, -⟩ := hpacket _ (congrArg Prod.fst next_hollow)
  exact ⟨hreached, ⟨hphase, hpending, hblock.2 rfl⟩, hfailed _ next_shrunken,
    hchecked (by decide) (by decide) (by decide) (by decide) (by decide)⟩

end Reader

end PacketRing
