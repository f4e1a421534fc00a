import PacketRing.Ring.Geometry
import PacketRing.Ring.Layout
import PacketRing.Ring.Region

/-!
# Slots and their owners

Each slot has a status word that says whose it is. A slot whose word cannot be accessed is the
kernel's.

* `slotStatus`, `isUserSlot` : the status word of a slot, and whether the slot is the reader's
  (`isUserSlot_iff`);
* `clearSlot` : handing a slot back. It writes the status word only (`byte_clearSlot`), takes the
  slot from the reader (`isUserSlot_clearSlot_self`) and gives the reader no other
  (`isUserSlot_of_clearSlot`).
-/

namespace PacketRing

/-- Where the status word of the slot at `base` lies. -/
def statusOffset (v : Version) (base : Nat) : Nat := base + v.statusWord.offset

/-- The low 32 bits of the status of the slot at `base`. -/
def slotStatus (mem : Region) (v : Version) (base : Nat) : Nat :=
  (mem.aligned? (statusOffset v base) v.statusWord.width).getD statusKernel % UInt32.size

/-- The slot at `base` is the reader's. -/
def isUserSlot (mem : Region) (v : Version) (base : Nat) : Bool :=
  hasBit (slotStatus mem v base) userBit

/-- Hands the slot at `base` back to the kernel. -/
def clearSlot (mem : Region) (v : Version) (base : Nat) : Region :=
  mem.storeAligned (statusOffset v base) v.statusWord.width statusKernel

/-! ## Laws -/

theorem Region.word_mod_two (r : Region) (i w : Nat) :
    r.word i (w + 1) % 2 = (r.byte i).toNat % 2 := by
  unfold Region.word
  rw [List.range'_succ, List.map_cons, ofLE]
  omega

theorem Region.accessible_congr {r s : Region} (h : r.size = s.size) (i w : Nat) :
    r.Accessible i w ↔ s.Accessible i w := by
  unfold Region.Accessible; rw [h]

/-- A slot is the reader's when its status word can be accessed and is odd. -/
theorem isUserSlot_iff {mem : Region} {v : Version} {base : Nat} :
    isUserSlot mem v base = true ↔
      mem.Accessible (statusOffset v base) v.statusWord.width ∧
        (mem.byte (statusOffset v base)).toNat % 2 = 1 := by
  have hw : v.statusWord.width = (v.statusWord.width - 1) + 1 := by cases v <;> rfl
  unfold isUserSlot slotStatus Region.aligned? hasBit userBit
  by_cases h : mem.Accessible (statusOffset v base) v.statusWord.width
  · have hm := mem.word_mod_two (statusOffset v base) (v.statusWord.width - 1)
    rw [← hw] at hm
    simp only [h, ↓reduceIte, Option.getD_some, Nat.div_one, beq_iff_eq, true_and, UInt32.size]
    omega
  · simp [h, statusKernel]

@[simp] theorem size_clearSlot (mem : Region) (v : Version) (base : Nat) :
    (clearSlot mem v base).size = mem.size := by
  unfold clearSlot Region.storeAligned; split <;> simp

/-- Clearing a slot writes zeros to its status word and nothing else. -/
theorem byte_clearSlot (mem : Region) (v : Version) (base i : Nat) :
    (clearSlot mem v base).byte i =
      if mem.Accessible (statusOffset v base) v.statusWord.width ∧ statusOffset v base ≤ i ∧
        i < statusOffset v base + v.statusWord.width then 0 else mem.byte i := by
  unfold clearSlot Region.storeAligned
  by_cases h : mem.Accessible (statusOffset v base) v.statusWord.width
  · have hb := h.1
    simp only [h, ↓reduceIte, true_and, statusKernel, toLE_zero, Region.byte_store,
      List.length_replicate]
    by_cases hi : statusOffset v base ≤ i ∧ i < statusOffset v base + v.statusWord.width
    · rw [if_pos ⟨hi.1, hi.2, by omega⟩, if_pos hi]
      rw [List.getD_eq_getElem?_getD, List.getElem?_replicate]
      split <;> rfl
    · rw [if_neg hi, if_neg (by omega)]
  · simp [h]

theorem isUserSlot_of_clearSlot {mem : Region} {v : Version} {base base' : Nat}
    (h : isUserSlot (clearSlot mem v base) v base' = true) : isUserSlot mem v base' = true := by
  rw [isUserSlot_iff] at h ⊢
  refine ⟨(Region.accessible_congr (size_clearSlot mem v base) _ _).1 h.1, ?_⟩
  have hb := h.2
  rw [byte_clearSlot] at hb
  split at hb
  · simp at hb
  · exact hb

theorem isUserSlot_clearSlot_self (mem : Region) (v : Version) (base : Nat) :
    isUserSlot (clearSlot mem v base) v base = false := by
  rw [Bool.eq_false_iff, Ne, isUserSlot_iff]
  rintro ⟨ha, hb⟩
  rw [Region.accessible_congr (size_clearSlot mem v base)] at ha
  have hw : 0 < v.statusWord.width := by cases v <;> decide
  rw [byte_clearSlot, if_pos ⟨ha, Nat.le_refl _, by omega⟩] at hb
  simp at hb

end PacketRing
