import Mathlib
import PacketRing.Bytes.Lemmas
import PacketRing.Ring.Region

/-!
# Laws of words in memory

* `Region.word_lt` : the bound of a word;
* `Region.word_store_self` : a word that was stored is read back.
-/

namespace PacketRing.Region

theorem word_lt (r : Region) (i w : Nat) : r.word i w < 256 ^ w := by
  simpa [word] using ofLE_lt ((List.range' i w).map r.byte)

/-- Storing a word and reading it back cuts it to its width. -/
theorem word_store_self {r : Region} {i w v : Nat} (h : i + w ≤ r.size) :
    (r.store i (toLE w v)).word i w = v % 256 ^ w := by
  rw [← ofLE_toLE, word]
  congr 1
  refine List.ext_getElem (by simp) fun n h₁ h₂ => ?_
  simp only [List.length_map, List.length_range'] at h₁
  rw [List.getElem_map, List.getElem_range', byte_store, if_pos (by simp; omega)]
  simp only [Nat.one_mul, Nat.add_sub_cancel_left]
  rw [List.getD_eq_getElem?_getD, List.getElem?_eq_getElem (by simpa using h₁), Option.getD_some]

end PacketRing.Region
