import PacketRing.Bytes
import Std.Data.TreeMap

/-!
# Mapped memory

A region of bytes shared with the kernel, zero until something is stored.

* `Region.byte` : the view that all laws are stated on;
* `Region.store` : writing bytes, clipped to the region (`byte_store`);
* `Region.word?`, `Region.field` : little-endian words, in bounds or not at all, and with 0 for a
  word that is out of bounds;
* `Region.aligned?` : a status word, which has to be aligned to its width as well;
* `Region.slice` : a run of bytes, cut to the region.
-/

namespace PacketRing

/-- Zero-filled memory of `size` bytes; `cells` holds what was stored. -/
structure Region where
  size : Nat
  cells : Std.TreeMap Nat UInt8

namespace Region

def zeroed (size : Nat) : Region := ⟨size, ∅⟩

/-- The byte at offset `i`; bytes never written read as zero. -/
def byte (r : Region) (i : Nat) : UInt8 := r.cells.getD i 0

/-- Writes one byte, if it lies in the region. -/
def put (r : Region) (i : Nat) (b : UInt8) : Region :=
  if i < r.size then { r with cells := r.cells.insert i b } else r

/-- Writes `bs` from offset `i` on; bytes past the end are dropped. -/
def store (r : Region) (i : Nat) : Bytes → Region
  | [] => r
  | b :: bs => (r.put i b).store (i + 1) bs

/-- The little-endian word of `w` bytes at `i`. -/
def word (r : Region) (i w : Nat) : Nat := ofLE ((List.range' i w).map r.byte)

/-- The word of `w` bytes at `i`, if all of it lies in the region. -/
def word? (r : Region) (i w : Nat) : Option Nat :=
  if i + w ≤ r.size then some (r.word i w) else none

/-- The word of `w` bytes at `i`, or 0 where the region does not reach. -/
def field (r : Region) (i w : Nat) : Nat := (r.word? i w).getD 0

/-- A status word of `w` bytes can be accessed at `i`: inside the region and aligned. -/
def Accessible (r : Region) (i w : Nat) : Prop := i + w ≤ r.size ∧ i % w = 0

instance (r : Region) (i w : Nat) : Decidable (r.Accessible i w) :=
  inferInstanceAs (Decidable (_ ∧ _))

/-- The status word of `w` bytes at `i`, if it can be accessed. -/
def aligned? (r : Region) (i w : Nat) : Option Nat :=
  if r.Accessible i w then some (r.word i w) else none

/-- Stores `v` in the status word of `w` bytes at `i`; nothing happens if there is none. -/
def storeAligned (r : Region) (i w v : Nat) : Region :=
  if r.Accessible i w then r.store i (toLE w v) else r

/-- At most `n` bytes from `i` on, cut to the region. -/
def slice (r : Region) (i n : Nat) : Bytes :=
  let start := min i r.size
  (List.range' start (min n (r.size - start))).map r.byte

/-! ## The view after a store -/

@[simp] theorem size_zeroed (n : Nat) : (zeroed n).size = n := rfl

@[simp] theorem byte_zeroed (n i : Nat) : (zeroed n).byte i = 0 := by simp [zeroed, byte]

@[simp] theorem size_put (r : Region) (i : Nat) (b : UInt8) : (r.put i b).size = r.size := by
  unfold put; split <;> rfl

@[simp] theorem size_store (r : Region) (i : Nat) (bs : Bytes) : (r.store i bs).size = r.size := by
  induction bs generalizing r i with
  | nil => rfl
  | cons b bs ih => simp [store, ih]

theorem byte_put (r : Region) (i : Nat) (b : UInt8) (j : Nat) :
    (r.put i b).byte j = if i = j ∧ i < r.size then b else r.byte j := by
  unfold put
  by_cases h : i < r.size
  · simp [h, byte, Std.TreeMap.getD_insert]
  · simp [h]

theorem byte_store (r : Region) (i : Nat) (bs : Bytes) (j : Nat) :
    (r.store i bs).byte j =
      if i ≤ j ∧ j < i + bs.length ∧ j < r.size then bs.getD (j - i) 0 else r.byte j := by
  induction bs generalizing r i with
  | nil =>
    rw [store, if_neg]
    simp only [List.length_nil]
    omega
  | cons b bs ih =>
    rw [store, ih, size_put, byte_put, List.length_cons]
    by_cases h : i = j
    · subst h
      by_cases hs : i < r.size
      · rw [if_neg (by omega), if_pos ⟨rfl, hs⟩, if_pos ⟨Nat.le_refl i, by omega, hs⟩]
        simp
      · rw [if_neg (by omega), if_neg (by omega), if_neg (by omega)]
    · by_cases hc : i + 1 ≤ j ∧ j < i + 1 + bs.length ∧ j < r.size
      · rw [if_pos hc, if_pos ⟨by omega, by omega, hc.2.2⟩,
          show j - i = (j - (i + 1)) + 1 by omega, List.getD_cons_succ]
      · rw [if_neg hc, if_neg (fun hh => h hh.1), if_neg (by omega)]

/-- A store leaves every byte outside its range alone. -/
theorem byte_store_of_disjoint {r : Region} {i : Nat} {bs : Bytes} {j : Nat}
    (h : j < i ∨ i + bs.length ≤ j) : (r.store i bs).byte j = r.byte j := by
  rw [byte_store, if_neg]; omega

/-! ## Words -/

theorem word_congr {r s : Region} {i w : Nat} (h : ∀ j, i ≤ j → j < i + w → r.byte j = s.byte j) :
    r.word i w = s.word i w := by
  unfold word
  congr 1
  refine List.map_congr_left fun j hj => h j ?_ ?_ <;>
    simp only [List.mem_range'_1] at hj <;> omega

end Region

end PacketRing
