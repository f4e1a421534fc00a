import Mathlib
import PacketRing.Ring.Cursor

/-!
# Memory that agrees on a range

* `Region.SameOn a b r s` : regions of one size with the same bytes from `a` up to `b`;
* `SameOn.field_eq`, `SameOn.isUserSlot_eq` : words and owners inside the range are the same;
* `SameOn.frame_eq` : so is every packet whose header and address lie there, and all but the
  interface of one whose header does (`frame_eq_of_header`);
* `sameOn_clearSlot` : a status word cleared elsewhere leaves the range alone.
-/

namespace PacketRing

namespace Region

/-- Regions of one size that hold the same bytes from `a` up to `b`. -/
structure SameOn (a b : Nat) (r s : Region) : Prop where
  size : r.size = s.size
  byte : ∀ i, a ≤ i → i < b → r.byte i = s.byte i

variable {a b i w : Nat} {r s : Region}

theorem SameOn.refl (a b : Nat) (r : Region) : SameOn a b r r := ⟨rfl, fun _ _ _ => rfl⟩

/-! ## Words -/

theorem SameOn.word_eq (h : SameOn a b r s) (ha : a ≤ i) (hb : i + w ≤ b) :
    r.word i w = s.word i w :=
  word_congr fun j hj hj' => h.byte j (by omega) (by omega)

theorem SameOn.word?_eq (h : SameOn a b r s) (ha : a ≤ i) (hb : i + w ≤ b) :
    r.word? i w = s.word? i w := by
  unfold word?
  rw [h.word_eq ha hb, h.size]

theorem SameOn.field_eq (h : SameOn a b r s) (ha : a ≤ i) (hb : i + w ≤ b) :
    r.field i w = s.field i w := by
  unfold field
  rw [h.word?_eq ha hb]

theorem SameOn.aligned?_eq (h : SameOn a b r s) (ha : a ≤ i) (hb : i + w ≤ b) :
    r.aligned? i w = s.aligned? i w := by
  unfold aligned?
  rw [h.word_eq ha hb, if_congr (accessible_congr h.size i w) rfl rfl]

/-! ## Owners and packets -/

theorem SameOn.slotStatus_eq (h : SameOn a b r s) {v : Version} {base : Nat} (ha : a ≤ base)
    (hb : base + v.statusWord.offset + v.statusWord.width ≤ b) :
    slotStatus r v base = slotStatus s v base := by
  unfold slotStatus statusOffset
  rw [h.aligned?_eq (by omega) (by omega)]

theorem SameOn.isUserSlot_eq (h : SameOn a b r s) {v : Version} {base : Nat} (ha : a ≤ base)
    (hb : base + v.statusWord.offset + v.statusWord.width ≤ b) :
    isUserSlot r v base = isUserSlot s v base := by
  unfold isUserSlot
  rw [h.slotStatus_eq ha hb]

/-- Every field of a packet lies in its header, but for the interface in the address behind it. -/
theorem fields_le_header (v : Version) :
    v.layout.length + 4 ≤ v.layout.headerSize ∧ v.layout.snapLength + 4 ≤ v.layout.headerSize ∧
      v.layout.dataOffset + 2 ≤ v.layout.headerSize ∧ v.layout.seconds + 4 ≤ v.layout.headerSize ∧
      v.layout.fraction + 4 ≤ v.layout.headerSize ∧ v.layout.headerSize = v.layout.address := by
  cases v <;> decide

section Views
variable {hd : Header}

theorem SameOn.length_eq (h : SameOn a b r s) (ha : a ≤ hd.record)
    (hb : hd.record + hd.version.layout.headerSize ≤ b) : hd.length r = hd.length s := by
  obtain ⟨hl, -⟩ := fields_le_header hd.version
  unfold Header.length Header.field
  rw [h.field_eq (by omega) (by omega)]

theorem SameOn.span_eq (h : SameOn a b r s) (ha : a ≤ hd.record)
    (hb : hd.record + hd.version.layout.headerSize ≤ b) : hd.span r = hd.span s := by
  obtain ⟨-, hl, hd, -⟩ := fields_le_header hd.version
  unfold Header.span Header.field
  rw [h.field_eq (by omega) (by omega), h.field_eq (by omega) (by omega)]

theorem SameOn.timestamp_eq (h : SameOn a b r s) (ha : a ≤ hd.record)
    (hb : hd.record + hd.version.layout.headerSize ≤ b) : hd.timestamp r = hd.timestamp s := by
  obtain ⟨-, -, -, hs, hf, -⟩ := fields_le_header hd.version
  unfold Header.timestamp Header.field
  dsimp only
  rw [h.field_eq (by omega) (by omega), h.field_eq (by omega) (by omega)]

theorem SameOn.ifindex_eq (h : SameOn a b r s) (ha : a ≤ hd.record)
    (hb : hd.record + hd.version.layout.address + 8 ≤ b) : hd.ifindex r = hd.ifindex s := by
  unfold Header.ifindex Header.field addressIfindex
  rw [h.field_eq (by omega) (by omega)]

theorem SameOn.vlan?_eq (h : SameOn a b r s) (ha : a ≤ hd.slot) (hr : hd.slot ≤ hd.record)
    (hb : hd.record + hd.version.layout.headerSize ≤ b) : hd.vlan? r = hd.vlan? s := by
  obtain ⟨v, slot, record, limit, vacant⟩ := hd
  dsimp only at ha hr hb
  cases v with
  | v1 => rfl
  | v2 =>
    have hs : slotStatus r .v2 slot = slotStatus s .v2 slot :=
      h.slotStatus_eq ha (by simp only [Version.statusWord, Version.layout] at *; omega)
    have ht : r.word? (record + 24) 2 = s.word? (record + 24) 2 :=
      h.word?_eq (by omega) (by simp only [Version.layout] at hb; omega)
    show (if hasBit (slotStatus r .v2 slot) vlanValidBit then
      (r.word? (record + 24) 2).map VlanTag.mk else none) = _
    rw [hs, ht]
    rfl
  | v3 =>
    have hs : r.field (record + packetStatusField) 4 = s.field (record + packetStatusField) 4 :=
      h.field_eq (by omega) (by simp only [Version.layout, packetStatusField] at *; omega)
    have ht : r.word? (record + 32) 2 = s.word? (record + 32) 2 :=
      h.word?_eq (by omega) (by simp only [Version.layout] at hb; omega)
    show (if hasBit (r.field (record + packetStatusField) 4) vlanValidBit then
      (r.word? (record + 32) 2).map VlanTag.mk else none) = _
    rw [hs, ht]
    rfl

/-- All of a packet but its interface is decoded from its header and the status of its slot. -/
theorem SameOn.frame_eq_of_header (h : SameOn a b r s) (c : Cursor) (ha : a ≤ hd.slot)
    (hr : hd.slot ≤ hd.record) (hb : hd.record + hd.version.layout.headerSize ≤ b) :
    c.frame r hd =
      { c.frame s hd with info := { (c.frame s hd).info with ifindex := hd.ifindex r } } := by
  have har : a ≤ hd.record := by omega
  unfold Cursor.frame
  rw [h.span_eq har hb, h.timestamp_eq har hb, h.length_eq har hb, h.vlan?_eq ha hr hb]

/-- A packet is decoded from its header, the address behind it, and the status of its slot. -/
theorem SameOn.frame_eq (h : SameOn a b r s) (c : Cursor) (ha : a ≤ hd.slot)
    (hr : hd.slot ≤ hd.record) (hb : hd.record + hd.version.layout.address + 8 ≤ b) :
    c.frame r hd = c.frame s hd := by
  obtain ⟨-, -, -, -, -, hsize⟩ := fields_le_header hd.version
  rw [h.frame_eq_of_header c ha hr (by omega), h.ifindex_eq (by omega) hb]
  rfl

end Views

/-! ## Writing elsewhere -/

theorem sameOn_clearSlot (r : Region) {v : Version} {base : Nat}
    (h : base + v.statusWord.offset + v.statusWord.width ≤ a ∨ b ≤ base) :
    SameOn a b r (clearSlot r v base) := by
  refine ⟨(size_clearSlot r v base).symm, fun j ha hb => ?_⟩
  rw [byte_clearSlot, if_neg]
  unfold statusOffset
  omega

end Region

end PacketRing
