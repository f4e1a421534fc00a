import Mathlib
import PacketRing.Proofs.Looks

/-!
# The records of a block that are returned

A read comes to a block of the reader's at once, or after it gave another one back, passed over
others and waited. However it got there, what becomes of the records of the block is the same.

* `Reader.Faces` : a read comes to a slot. From there on it is the read of a reader that holds
  nothing (`Reader.Faces.next_eq`, `Reader.Faces.atBlock`);
* `Reader.exists_faces` : a read comes to every slot that it looks at;
* `records_returned_iff` : when the reads have handed out every record with a length.
-/

namespace PacketRing

namespace Reader

variable {r r' : Reader} {k k' : Kernel} {l : Look} {before after : List Look}

/-- A read of `r` comes to the slot at the cursor of `r'`, which holds nothing; the kernel is `k'`
then. -/
def Faces (r : Reader) (k : Kernel) (r' : Reader) (k' : Kernel) : Prop :=
  ∃ s, Relation.ReflTransGen Turn (r, k) s ∧ (s.1.cursor.walk s.2.memory).2 = none ∧
    s.1.facing s.2 = (r', k')

theorem next_facing (hw : (r.cursor.walk k.memory).2 = none) :
    r.next k = (r.facing k).1.next (r.facing k).2 := by
  rw [next_of_walk_none hw, next_of_phase_ne (phase_facing hw)]
  exact claim_release ..

theorem atBlock_facing (hw : (r.cursor.walk k.memory).2 = none) (hv : r.cursor.version = .v3)
    (hu : (r.facing k).1.cursor.isUser (r.facing k).2.memory = true) :
    (r.facing k).1.cursor.AtBlock (r.facing k).2.memory :=
  ⟨(version_facing r k).trans hv, pendingRelease_facing r k, phase_facing hw, hu⟩

/-- What a read came by does not matter to what comes. -/
theorem Faces.next_eq (h : r.Faces k r' k') : r.next k = r'.next k' := by
  obtain ⟨s, hturns, hw, hfacing⟩ := h
  have hnext : r.next k = s.1.next s.2 := next_eq_of_turns hturns
  rw [hnext, next_facing hw, hfacing]

theorem Faces.atBlock (h : r.Faces k r' k') (hv : r.cursor.version = .v3)
    (hu : r'.cursor.isUser k'.memory = true) : r'.cursor.AtBlock k'.memory := by
  obtain ⟨s, hturns, hw, hfacing⟩ := h
  have hv' : s.1.cursor.version = .v3 :=
    (Cursor.version_of_start (start_of_turns hturns)).trans hv
  have hat := atBlock_facing hw hv'
  rw [hfacing] at hat
  exact hat hu

/-- A read comes to every slot that it looks at. -/
theorem exists_faces (h : r.looks k = before ++ l :: after) :
    ∃ r' k', r.Faces k r' k' ∧ r'.cursor.index = l.slot ∧ k'.memory = l.memory ∧
      r'.cursor.isUser k'.memory = l.answer.isNone := by
  obtain ⟨r₁, k₁, hturns, hw, rfl, -⟩ := exists_of_looks h
  refine ⟨(r₁.facing k₁).1, (r₁.facing k₁).2, ⟨(r₁, k₁), hturns, hw, rfl⟩, rfl, rfl, ?_⟩
  rw [isUser_facing, isNone_answer_look]

end Reader

/-- **Which records of a block are returned.** A read has come to a block of the reader's, whatever
it gave back, passed over or waited for before. Reads go on from there, of which all but the last
leave the block with the reader, while the kernel writes elsewhere only. Whatever the block holds,
the reads hand out the drained records one by one, and the read after these gives the block back. So
every record with a length was handed out before, in order, just when the first record has a length
or none of them has. -/
theorem records_returned_iff {r r' : Reader} {k : Kernel} (ks : Nat → Kernel) (n : Nat)
    (hf : r.Faces k r' (ks 0)) (hv : r.cursor.version = .v3)
    (hu : r'.cursor.isUser (ks 0).memory = true)
    (hsame : ∀ j ≤ n, r'.SameBlock (ks 0).memory (ks j).memory)
    (hheld : ∀ i < n, ¬ Clears (r'.after ks i).next (ks i) .v3 r'.cursor.base) :
    r.next k = r'.next (ks 0) ∧
      (Clears (r'.after ks n).next (ks n) .v3 r'.cursor.base ↔
        n = (r'.cursor.drained (ks 0).memory).length) ∧
      List.Forall₂ r'.cursor.Returns ((r'.cursor.drained (ks 0).memory).take n) (r'.log ks n) ∧
      (Clears (r'.after ks n).next (ks n) .v3 r'.cursor.base →
        (List.SublistForall₂ r'.cursor.Returns
            ((r'.cursor.visited (ks 0).memory).filter fun p =>
              r'.cursor.lengthAt (ks 0).memory p ≠ 0)
            (r'.log ks n) ↔
          r'.cursor.lengthAt (ks 0).memory
              (.first (ks 0).memory r'.cursor.base r'.cursor.geometry.blockSize) ≠ 0 ∨
            ∀ p ∈ r'.cursor.visited (ks 0).memory, r'.cursor.lengthAt (ks 0).memory p = 0)) := by
  have hat : r'.cursor.AtBlock (ks 0).memory := hf.atBlock hv hu
  exact ⟨hf.next_eq, r'.returned_iff_of_atBlock ks n hat hsame hheld⟩

/-! ### A record without a length before one with a length -/

def hiddenReader : Reader where
  cursor := { version := .v3, geometry := ⟨256, 2, 2, ⟨0⟩⟩, snapLength := 0, timeout := 0 }

/-- The first block with records at 48 and 128, of lengths 0 and 60. -/
def hiddenRecords : List Store :=
  [⟨8, [1, 0, 0, 0, 2, 0, 0, 0, 48]⟩, ⟨48, [80]⟩, ⟨72, [80]⟩, ⟨140, [4, 0, 0, 0, 60]⟩, ⟨152, [80]⟩]

/-- A kernel that filled this block. -/
def hiddenKernel : Kernel where
  mapping := some ((Region.zeroed 1024).stored hiddenRecords)

/-- A kernel that fills it during a poll. -/
def fillingKernel : Kernel where
  mapping := some (.zeroed 1024)
  script := [{ writes := hiddenRecords }]

/-- The kernel after this poll. -/
def filledKernel : Kernel := (fillingKernel.wait 0).2

theorem memory_filled : filledKernel.memory = hiddenKernel.memory := by
  have hwritten : filledKernel.memory = fillingKernel.memory.stored fillingKernel.upcoming :=
    fillingKernel.memory_wait 0
  have hmemory : fillingKernel.memory = .zeroed 1024 := rfl
  have hupcoming : fillingKernel.upcoming = hiddenRecords := rfl
  rw [hwritten, hmemory, hupcoming]
  unfold Kernel.memory hiddenKernel
  exact (Option.getD_some ..).symm

theorem visited_hidden : hiddenReader.cursor.visited hiddenKernel.memory =
    [⟨0, 48, 0, 2⟩, ⟨0, 128, 1, 2⟩] := by
  have hfirst : BlockPosition.first hiddenKernel.memory 0 512 = ⟨0, 48, 0, 2⟩ := by decide +kernel
  show (BlockPosition.first hiddenKernel.memory 0 512).trail hiddenKernel.memory 512 = _
  rw [hfirst, BlockPosition.trail_of_advance (q := ⟨0, 128, 1, 2⟩) (by decide +kernel),
    BlockPosition.trail_of_end (by decide +kernel)]

theorem atBlock_hidden : hiddenReader.cursor.AtBlock hiddenKernel.memory :=
  ⟨rfl, rfl, nofun, by decide +kernel⟩

/-- The read waits for the block, finds it filled, and gives it back. The record with a length was
not handed out then. -/
theorem records_returned_iff_filled :
    let r := hiddenReader.countPoll
    hiddenReader.Faces fillingKernel r filledKernel ∧
      hiddenReader.next fillingKernel = r.next filledKernel ∧
      ¬ List.SublistForall₂ r.cursor.Returns
        ((r.cursor.visited filledKernel.memory).filter fun p =>
          r.cursor.lengthAt filledKernel.memory p ≠ 0)
        (r.log (fun _ => filledKernel) 0) := by
  intro r
  have hfaces : hiddenReader.Faces fillingKernel r filledKernel :=
    ⟨(r, filledKernel), .single (.inr ⟨rfl, by decide +kernel, by decide +kernel, rfl, rfl⟩), rfl,
      rfl⟩
  have hat : r.cursor.AtBlock filledKernel.memory := by
    rw [memory_filled]
    exact atBlock_hidden
  obtain ⟨hnext, -, -, hiff⟩ := records_returned_iff (fun _ => filledKernel) 0 hfaces rfl hat.user
    (fun _ _ => .refl ..) nofun
  refine ⟨hfaces, hnext, ?_⟩
  rw [hiff (Reader.clears_first hat (by decide +kernel))]
  rintro (hl | hall)
  · exact hl (by decide +kernel)
  · have hvisited : r.cursor.visited filledKernel.memory = [⟨0, 48, 0, 2⟩, ⟨0, 128, 1, 2⟩] := by
      rw [memory_filled]
      exact visited_hidden
    rw [hvisited] at hall
    exact absurd (hall ⟨0, 128, 1, 2⟩ (by decide)) (by decide +kernel)

/-- The read gives the block back and waits for the next, without the packet of the second
record. -/
theorem record_lost_behind_empty :
    hiddenReader.cursor.AtBlock hiddenKernel.memory ∧
      (hiddenReader.next hiddenKernel).1 = .error .pollTimeout ∧
      isUserSlot (hiddenReader.next hiddenKernel).2.2.memory .v3 hiddenReader.cursor.base = false ∧
      ∃ p ∈ hiddenReader.cursor.visited hiddenKernel.memory,
        hiddenReader.cursor.lengthAt hiddenKernel.memory p = 60 := by
  have hu : (hiddenReader.release hiddenKernel).1.cursor.isUser
      (hiddenReader.release hiddenKernel).2.memory = true := by decide +kernel
  have hl : ((hiddenReader.release hiddenKernel).1.cursor.header
      (hiddenReader.release hiddenKernel).2.memory).length
        (hiddenReader.release hiddenKernel).2.memory = 0 := by decide +kernel
  let r : Reader := { hiddenReader with cursor := hiddenReader.cursor.take hiddenKernel.memory }
  have hu' : ¬ (r.release hiddenKernel).1.cursor.isUser
      (r.release hiddenKernel).2.memory = true := by decide +kernel
  have hv' : Reader.verdict ((r.release hiddenKernel).2.wait
      (r.release hiddenKernel).1.cursor.timeout).1 = some .pollTimeout := by decide +kernel
  have hnext := (Reader.next_of_walk_none (r := hiddenReader) (k := hiddenKernel) rfl).trans
    ((Reader.claim_of_empty hu hl).trans (Reader.claim_of_stop hu' hv'))
  rw [hnext, visited_hidden]
  exact ⟨atBlock_hidden, rfl, by decide +kernel, ⟨0, 128, 1, 2⟩, by decide, by decide +kernel⟩

end PacketRing
