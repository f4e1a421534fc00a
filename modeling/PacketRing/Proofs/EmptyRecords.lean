import Mathlib
import PacketRing.Proofs.RecordsReturned

/-!
# Packets without a length

A read that comes to a slot passes over it if the header at its front tells of no length. A read
that goes on in a block does not look at the length of the next record.

* `Cursor.following?` : the record of the block at the cursor that the next read returns
  (`walk_eq_following`);
* `Reader.length_claim` : a packet from the front of a slot has a length;
* `Reader.empty_returned_iff` : when a read returns a packet without a length;
* `Reader.empty_record_returned` : a block of two records, the second without a length.
-/

namespace PacketRing

namespace Cursor

variable {c : Cursor} {mem : Region} {q : BlockPosition}

/-- The record that follows the one handed out last in the block at the cursor. -/
def following? (c : Cursor) (mem : Region) : Option BlockPosition :=
  match c.phase with
  | .haveHeader => c.block.bind fun p => p.advance? mem c.geometry.blockSize
  | _ => none

theorem walk_eq_following (c : Cursor) (mem : Region) :
    (c.walk mem).2 = (c.following? mem).map (Header.ofPosition c.geometry.blockSize) := by
  unfold walk following?
  cases hp : c.phase with
  | haveHeader =>
    cases hb : c.block with
    | none => rfl
    | some p =>
      dsimp only [Option.bind_some]
      cases p.advance? mem c.geometry.blockSize <;> rfl
  | needHeader | blockExhausted => rfl

theorem exists_of_following (h : c.following? mem = some q) :
    ∃ p, c.block = some p ∧ p.advance? mem c.geometry.blockSize = some q := by
  unfold following? at h
  split at h
  · exact Option.bind_eq_some_iff.1 h
  · cases h

/-- The length of a record that a walk comes to is the one that is stored, even zero. -/
theorem length_of_following (h : c.following? mem = some q) :
    (Header.ofPosition c.geometry.blockSize q).length mem =
      mem.field (q.packet + (Version.layout .v3).length) 4 := by
  obtain ⟨p, -, hq⟩ := exists_of_following h
  obtain ⟨-, -, -, hused, -⟩ := BlockPosition.advance?_bounds hq
  have htotal : (q.total == 0) = false := beq_false_of_ne (by omega)
  unfold Header.length Header.ofPosition
  rw [htotal]
  rfl

/-- Only blocks have records behind the first. -/
theorem following_of_version_ne (h : c.Free ∨ c.Holding) (hv : c.version ≠ .v3) :
    c.following? mem = none := by
  rcases h with h | h
  · unfold following?
    split
    · next hp => exact absurd hp h.phase
    · rfl
  · cases hb : c.block with
    | none =>
      unfold following?
      rw [hb]
      split <;> rfl
    | some p => exact absurd (h.block p hb).1 hv

end Cursor

namespace Reader

variable {r : Reader} {k : Kernel} {f : Frame} {q : BlockPosition}

/-- The packet at the front of a slot has a length. -/
theorem length_claim (r : Reader) (k : Kernel) (h : (r.claim k).1 = .ok f) :
    f.info.length ≠ 0 := by
  induction r, k using claim_induct with
  | packet r k hu hl =>
    rw [claim_of_packet hu hl] at h
    cases h
    exact hl
  | empty r k hu hl ih =>
    rw [claim_of_empty hu hl] at h
    exact ih h
  | retry r k hu hv ih =>
    rw [claim_of_retry hu hv] at h
    exact ih h
  | stop r k e hu hv =>
    rw [claim_of_stop hu hv] at h
    cases h

/-- With no record left in a block, a read returns a packet with a length. -/
theorem length_next_of_none (hq : r.cursor.following? k.memory = none)
    (h : (r.next k).1 = .ok f) : f.info.length ≠ 0 := by
  have hw := r.cursor.walk_eq_following k.memory
  rw [hq, Option.map_none] at hw
  rw [next_of_walk_none hw] at h
  exact length_claim _ k h

/-- The next record of a block is returned, whatever its length. -/
theorem next_of_following (hq : r.cursor.following? k.memory = some q) :
    ∃ f, (r.next k).1 = .ok f ∧
      f.info.length = k.memory.field (q.packet + (Version.layout .v3).length) 4 := by
  have hw := r.cursor.walk_eq_following k.memory
  rw [hq, Option.map_some] at hw
  rw [next_of_walk_some hw]
  exact ⟨_, rfl, Cursor.length_of_following hq⟩

/-- **Only a record behind another one is returned without a length.** Whatever is in memory and in
the script, a read that takes its packet from the front of a slot returns one with a length; and so
every read in versions 1 and 2. A read returns a packet without a length just if the reader is
inside a block and the next record there has none. -/
theorem empty_returned_iff {c : Cursor} (hr : Reached c r) (k : Kernel) :
    (∀ f, (r.next k).1 = .ok f → f.info.length = 0 → c.version = .v3) ∧
    (∀ f, (r.next k).1 = .ok f → r.cursor.following? k.memory = none → f.info.length ≠ 0) ∧
    ((∃ f, (r.next k).1 = .ok f ∧ f.info.length = 0) ↔
      ∃ q, r.cursor.following? k.memory = some q ∧
        k.memory.field (q.packet + (Version.layout .v3).length) 4 = 0) := by
  obtain ⟨hstart, hsettled⟩ := hr.settled
  have hfront : ∀ f, (r.next k).1 = .ok f → r.cursor.following? k.memory = none →
      f.info.length ≠ 0 := fun f hf hq => length_next_of_none hq hf
  refine ⟨fun f hf hzero => ?_, hfront, ?_, ?_⟩
  · by_contra hv
    rw [← Cursor.version_of_start hstart] at hv
    exact hfront f hf (Cursor.following_of_version_ne hsettled hv) hzero
  · rintro ⟨f, hf, hzero⟩
    cases hq : r.cursor.following? k.memory with
    | none => exact absurd hzero (hfront f hf hq)
    | some q =>
      obtain ⟨f', hf', hlength⟩ := next_of_following hq
      obtain rfl : f = f' := Except.ok.inj (hf.symm.trans hf')
      exact ⟨q, rfl, hlength.symm.trans hzero⟩
  · rintro ⟨q, hq, hzero⟩
    obtain ⟨f, hf, hlength⟩ := next_of_following hq
    exact ⟨f, hf, hlength.trans hzero⟩

/-! ### A record without a length behind one with a length -/

/-- A kernel that filled the first block with records at 48 and 128, of lengths 60 and 0. -/
def hollowKernel : Kernel where
  mapping := some <| (Region.zeroed 1024).stored
    [⟨8, [1, 0, 0, 0, 2, 0, 0, 0, 48]⟩, ⟨48, [80]⟩, ⟨60, [4, 0, 0, 0, 60]⟩, ⟨72, [80]⟩,
      ⟨128, [80]⟩, ⟨152, [80]⟩]

/-- The reader after the first record of that block. -/
def hollowReader : Reader := (hiddenReader.next hollowKernel).2.1

theorem next_hollow : hiddenReader.next hollowKernel =
    emit { hiddenReader with cursor := hiddenReader.cursor.take hollowKernel.memory } hollowKernel
      (hiddenReader.cursor.header hollowKernel.memory) :=
  next_of_packet nofun rfl (by decide +kernel) (by decide +kernel)

theorem following_hollow :
    hollowReader.cursor.following? hollowKernel.memory = some ⟨0, 128, 1, 2⟩ := by
  unfold hollowReader
  rw [next_hollow]
  decide +kernel

/-- The first read returns its packet with a length, and the second one without. -/
theorem empty_returned_iff_hollow :
    (∃ f, (hiddenReader.next hollowKernel).1 = .ok f ∧ f.info.length ≠ 0) ∧
      ∃ f, (hollowReader.next hollowKernel).1 = .ok f ∧ f.info.length = 0 := by
  have hreached : Reached hiddenReader.cursor hiddenReader := .start
  obtain ⟨-, hfront, -⟩ := empty_returned_iff hreached hollowKernel
  obtain ⟨-, -, hiff⟩ := empty_returned_iff (hreached.next hollowKernel) hollowKernel
  have hfirst : ∃ f, (hiddenReader.next hollowKernel).1 = .ok f := by
    rw [next_hollow]
    exact ⟨_, rfl⟩
  obtain ⟨f, hf⟩ := hfirst
  exact ⟨⟨f, hf, hfront f hf rfl⟩,
    hiff.2 ⟨⟨0, 128, 1, 2⟩, following_hollow, by decide +kernel⟩⟩

/-- The second read returns the bytes at 208, and a length of zero. -/
theorem empty_record_returned :
    Reached hiddenReader.cursor hollowReader ∧
      ∃ f, (hollowReader.next hollowKernel).1 = .ok f ∧ f.offset = 208 ∧ f.info.length = 0 := by
  refine ⟨.next hollowKernel .start, ?_⟩
  have hw := hollowReader.cursor.walk_eq_following hollowKernel.memory
  rw [following_hollow, Option.map_some] at hw
  rw [next_of_walk_some hw]
  exact ⟨_, rfl, by decide +kernel, by decide +kernel⟩

end Reader

end PacketRing
