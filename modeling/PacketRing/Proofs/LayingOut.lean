import Mathlib
import PacketRing.Proofs.Blocks
import PacketRing.Ring.Region.Lemmas

/-!
# Laying out a block

A walk through a v3 block finds the records that were laid out in it, one by one.

* `Store.Apart` : stores that share no byte. Of several such stores, made in any order, each is read
  back (`Region.word?_stored`, `Region.slice_stored`);
* `PacketRecord` : a packet with all that its record says, and `stores`, its record;
* `layOut` : a block with its descriptor and records, no two of whose stores share a byte
  (`pairwise_layOut`), so that afterwards every record is `Written`;
* `Decodes` : a header view gives back the packet, as it does where a record is written
  (`Written.decodes`);
* `records_walked` : walking the block visits the packets in order.
-/

namespace PacketRing

/-! ## Stores that share no byte -/

/-- The bytes of `s` lie before those of `t`. -/
def Store.Before (s t : Store) : Prop := s.offset + s.bytes.length ≤ t.offset

/-- No byte is written by both. -/
def Store.Apart (s t : Store) : Prop := s.Before t ∨ t.Before s

theorem Store.Apart.symm {s t : Store} (h : s.Apart t) : t.Apart s := Or.symm h

theorem pairwise_apart_of_perm {writes stores : List Store} (hperm : writes.Perm stores)
    (h : stores.Pairwise Store.Before) : writes.Pairwise Store.Apart :=
  (hperm.pairwise_iff Store.Apart.symm).2 (h.imp Or.inl)

theorem take_toLE {n v w : Nat} (hw : w ≤ n) : (toLE n v).take w = toLE w v := by
  induction w generalizing n v with
  | zero => rfl
  | succ w ih =>
    obtain ⟨n, rfl⟩ : ∃ m, n = m + 1 := ⟨n - 1, by omega⟩
    rw [toLE, toLE, List.take_succ_cons, ih (by omega)]

namespace Region

variable {mem : Region} {writes : List Store} {s : Store} {i n v w : Nat} {bs : Bytes}

theorem byte_stored (h : writes.Pairwise Store.Apart) (hs : s ∈ writes)
    (hin : s.offset + s.bytes.length ≤ mem.size) (hn : n < s.bytes.length) :
    (mem.stored writes).byte (s.offset + n) = s.bytes[n] := by
  induction writes generalizing mem with
  | nil => cases hs
  | cons t writes ih =>
    obtain ⟨hapart, hrest⟩ := List.pairwise_cons.1 h
    rcases List.mem_cons.1 hs with rfl | hs
    · have hlast : ∀ t ∈ writes, s.offset + n < t.offset ∨
          t.offset + t.bytes.length ≤ s.offset + n := fun t ht => by
        have hst := hapart t ht
        unfold Store.Apart Store.Before at hst
        omega
      refine (byte_stored_of_disjoint _ hlast).trans ?_
      rw [byte_store, if_pos (by omega), Nat.add_sub_cancel_left, List.getD_eq_getElem _ _ hn]
    · exact ih hrest hs ((size_store ..).symm ▸ hin)

theorem map_byte_stored (h : writes.Pairwise Store.Apart) (hs : s ∈ writes)
    (hin : s.offset + s.bytes.length ≤ mem.size) (hw : w ≤ s.bytes.length) :
    (List.range' s.offset w).map (mem.stored writes).byte = s.bytes.take w := by
  refine List.ext_getElem (by simp [hw]) fun n hn _ => ?_
  rw [List.length_map, List.length_range'] at hn
  rw [List.getElem_map, List.getElem_range', Nat.one_mul, List.getElem_take]
  exact byte_stored h hs hin (by omega)

/-- A word is read back, cut to its width, from the store of a word at least as wide. -/
theorem word?_stored_mod (h : writes.Pairwise Store.Apart) (hs : ⟨i, toLE n v⟩ ∈ writes)
    (hin : i + n ≤ mem.size) (hw : w ≤ n) :
    (mem.stored writes).word? i w = some (v % 256 ^ w) := by
  have hbytes := map_byte_stored (w := w) h hs (by simpa using hin) (by simpa using hw)
  unfold word? word
  rw [size_stored, if_pos (by omega), hbytes, take_toLE hw, ofLE_toLE]

theorem word?_stored (h : writes.Pairwise Store.Apart) (hs : ⟨i, toLE n v⟩ ∈ writes)
    (hin : i + n ≤ mem.size) (hw : w ≤ n) (hv : v < 256 ^ w) :
    (mem.stored writes).word? i w = some v := by
  rw [word?_stored_mod h hs hin hw, Nat.mod_eq_of_lt hv]

theorem field_of_word? (h : mem.word? i w = some v) : mem.field i w = v := by
  rw [field, h, Option.getD_some]

theorem slice_stored (h : writes.Pairwise Store.Apart) (hs : ⟨i, bs⟩ ∈ writes)
    (hin : i + bs.length ≤ mem.size) : (mem.stored writes).slice i bs.length = bs := by
  have hbytes := map_byte_stored h hs hin (Nat.le_refl _)
  unfold slice
  dsimp only at hbytes ⊢
  rw [size_stored, Nat.min_eq_left (by omega), Nat.min_eq_left (by omega), hbytes,
    List.take_length]

end Region

/-! ## Records -/

/-- Offset of the tag in a v3 packet header. -/
def packetTagField : Nat := 32

/-- A packet with all that its record in a v3 block says about it. -/
structure PacketRecord where
  data : Bytes
  /-- The length on the wire. -/
  length : UInt32
  seconds : UInt32
  nanos : UInt32
  ifindex : Int32
  tci : Option UInt16
  /-- The packet's own status. Bits other than the one that marks a tag as valid are free. -/
  status : UInt32
  /-- Distance of the packet's bytes from the start of the record. -/
  dataOffset : UInt16
  /-- What is stored as the distance to the next record. -/
  next : UInt32
  countable : data.length < UInt32.size
  /-- There is room for the header and the address behind it. -/
  room : (Version.layout .v3).headerSize + abiSizes.address ≤ dataOffset.toNat
  marked : hasBit status.toNat vlanValidBit = tci.isSome

namespace PacketRecord

variable (r : PacketRecord)

/-- The record up to the end of its bytes. -/
def size : Nat := r.data.length + r.dataOffset.toNat

/-- Where the next record begins. -/
def distance : Nat := frameAlign r.size

/-- The distance to the next record is stored, or left to be computed. -/
def Links : Prop := r.next = 0 ∨ r.next.toNat = r.distance

/-- The instant that the record gives; the part below a second is cut to what a second has. -/
def timestamp : Timestamp := .ofEpoch r.seconds.toNat (min r.nanos.toNat 999999999)

/-- What it takes to write the record at `start`. -/
def stores (start : Nat) : List Store :=
  let l := Version.layout .v3
  [⟨start + nextOffsetField, toLE 4 r.next.toNat⟩,
    ⟨start + l.seconds, toLE 4 r.seconds.toNat⟩,
    ⟨start + l.fraction, toLE 4 r.nanos.toNat⟩,
    ⟨start + l.snapLength, toLE 4 r.data.length⟩,
    ⟨start + l.length, toLE 4 r.length.toNat⟩,
    ⟨start + packetStatusField, toLE 4 r.status.toNat⟩,
    ⟨start + l.dataOffset, toLE 2 r.dataOffset.toNat⟩,
    ⟨start + packetTagField, toLE 4 (r.tci.elim 0 UInt16.toNat)⟩,
    ⟨start + (l.address + addressIfindex), toLE 4 r.ifindex.toUInt32.toNat⟩,
    ⟨start + r.dataOffset.toNat, r.data⟩]

variable {r} {start : Nat} {s : Store}

theorem headerSize_le_size (r : PacketRecord) : BlockPosition.headerSize ≤ r.size :=
  ((Nat.le_add_right _ _).trans r.room).trans (Nat.le_add_left _ _)

theorem mem_stores (hs : s ∈ r.stores start) :
    start ≤ s.offset ∧ s.offset + s.bytes.length ≤ start + r.size := by
  have hroom : 48 + 20 ≤ r.dataOffset.toNat := r.room
  unfold size
  revert s
  unfold stores
  simp only [List.forall_mem_cons, length_toLE, nextOffsetField, packetStatusField, packetTagField,
    addressIfindex, Version.layout]
  refine ⟨?_, ?_, ?_, ?_, ?_, ?_, ?_, ?_, ?_, ?_, List.forall_mem_nil _⟩ <;> omega

theorem pairwise_stores : (r.stores start).Pairwise Store.Before := by
  have hroom : 48 + 20 ≤ r.dataOffset.toNat := r.room
  have htrans : Trans Store.Before Store.Before Store.Before :=
    ⟨fun {s t u} hst htu => by unfold Store.Before at *; omega⟩
  refine List.isChain_iff_pairwise.1 ?_
  simp only [stores, List.isChain_cons_cons, List.isChain_singleton, and_true, Store.Before,
    length_toLE, nextOffsetField, packetStatusField, packetTagField, addressIfindex,
    Version.layout]
  omega

end PacketRecord

/-! ## A block -/

/-- Where record `n` of a block begins: behind the descriptor and the records before it. -/
def startOf (rs : List PacketRecord) (n : Nat) : Nat :=
  abiSizes.blockDescriptor + ((rs.take n).map PacketRecord.distance).sum

/-- A block with its descriptor, which gives it to the reader, and with records back to back. -/
def layOut (block : Nat) (rs : List PacketRecord) : List Store :=
  [⟨statusOffset .v3 block, toLE 4 userBit⟩,
    ⟨block + Block.packetCountField, toLE 4 rs.length⟩,
    ⟨block + Block.firstPacketField, toLE 4 abiSizes.blockDescriptor⟩] ++
  (List.finRange rs.length).flatMap fun i => rs[i].stores (block + startOf rs i)

/-- Every record ends in its block, and in the region. -/
def Fits (mem : Region) (block blockSize : Nat) (rs : List PacketRecord) : Prop :=
  ∀ i : Fin rs.length, startOf rs i + rs[i].size ≤ blockSize ∧
    block + startOf rs i + rs[i].size ≤ mem.size

instance (mem : Region) (block blockSize : Nat) (rs : List PacketRecord) :
    Decidable (Fits mem block blockSize rs) :=
  inferInstanceAs (Decidable (∀ _, _))

section Block
variable {rs : List PacketRecord} {n i j block : Nat}

theorem startOf_succ (hn : n < rs.length) :
    startOf rs (n + 1) = startOf rs n + rs[n].distance := by
  unfold startOf
  rw [← List.take_concat_get' rs n hn, List.map_append, List.sum_append, List.map_singleton,
    List.sum_singleton, Nat.add_assoc]

theorem end_le_startOf (hij : i < j) (hj : j < rs.length) :
    startOf rs i + rs[i].size ≤ startOf rs j := by
  induction j, hij using Nat.le_induction with
  | base =>
    rw [startOf_succ (by omega)]
    exact Nat.add_le_add_left (frameAlign_bounds rs[i].size).1 _
  | succ j hij ih =>
    rw [startOf_succ (by omega)]
    exact (ih (by omega)).trans (Nat.le_add_right _ _)

/-- No two stores of a block share a byte. -/
theorem pairwise_layOut (block : Nat) (rs : List PacketRecord) :
    (layOut block rs).Pairwise Store.Before := by
  refine List.pairwise_append.2 ⟨?_, List.pairwise_flatMap.2 ⟨fun i _ => ?_, ?_⟩, ?_⟩
  · simp [Store.Before, statusOffset, Version.statusWord, Block.packetCountField,
      Block.firstPacketField]
  · exact PacketRecord.pairwise_stores
  · refine (List.pairwise_lt_finRange _).imp fun {i j} hij s hs t ht => ?_
    have hbetween : startOf rs i + rs[i].size ≤ startOf rs j := end_le_startOf hij j.isLt
    have hs := (PacketRecord.mem_stores hs).2
    have ht := (PacketRecord.mem_stores ht).1
    unfold Store.Before
    omega
  · intro s hs t ht
    obtain ⟨i, -, ht⟩ := List.mem_flatMap.1 ht
    have hstart : 48 ≤ startOf rs i := Nat.le_add_right _ _
    have ht := (PacketRecord.mem_stores ht).1
    revert s
    simp only [List.forall_mem_cons, Store.Before, length_toLE, statusOffset, Version.statusWord,
      Block.packetCountField, Block.firstPacketField]
    refine ⟨?_, ?_, ?_, List.forall_mem_nil _⟩ <;> omega

theorem mem_layOut (i : Fin rs.length) {s : Store}
    (hs : s ∈ rs[i].stores (block + startOf rs i)) : s ∈ layOut block rs :=
  List.mem_append_right _ (List.mem_flatMap.2 ⟨i, List.mem_finRange i, hs⟩)

end Block

/-! ## The walk -/

/-- The position after `n` steps of a walk. -/
def BlockPosition.after (mem : Region) (blockSize : Nat) (p : BlockPosition) : Nat → BlockPosition
  | 0 => p
  | n + 1 => ((p.after mem blockSize n).step mem blockSize).1

theorem BlockPosition.step_of_advance {mem : Region} {blockSize : Nat} {p q : BlockPosition}
    (h : p.advance? mem blockSize = some q) : p.step mem blockSize = (q, true) := by
  unfold advance? at h
  dsimp only at h
  split at h
  · next hmore =>
    cases h
    exact Prod.ext rfl hmore
  · cases h

/-- Memory holds record `r` at `start`. -/
structure Written (mem : Region) (start : Nat) (r : PacketRecord) : Prop where
  next : mem.word? (start + nextOffsetField) 4 = some r.next.toNat
  seconds : mem.word? (start + (Version.layout .v3).seconds) 4 = some r.seconds.toNat
  nanos : mem.word? (start + (Version.layout .v3).fraction) 4 = some r.nanos.toNat
  snapLength : mem.word? (start + (Version.layout .v3).snapLength) 4 = some r.data.length
  length : mem.word? (start + (Version.layout .v3).length) 4 = some r.length.toNat
  status : mem.word? (start + packetStatusField) 4 = some r.status.toNat
  dataOffset : mem.word? (start + (Version.layout .v3).dataOffset) 2 = some r.dataOffset.toNat
  tag : mem.word? (start + packetTagField) 2 = some (r.tci.elim 0 UInt16.toNat)
  ifindex : mem.word? (start + ((Version.layout .v3).address + addressIfindex)) 4 =
    some r.ifindex.toUInt32.toNat
  data : mem.slice (start + r.dataOffset.toNat) r.data.length = r.data

/-- A header view says what record `r` says. -/
structure Decodes (mem : Region) (h : Header) (r : PacketRecord) : Prop where
  data : mem.slice (h.span mem).1 (h.span mem).2 = r.data
  length : h.length mem = r.length.toNat
  timestamp : h.timestamp mem = r.timestamp
  ifindex : h.ifindex mem = r.ifindex.toInt
  vlan : h.vlan? mem = r.tci.map fun tci => ⟨tci.toNat⟩

theorem signed_toUInt32 (n : Int32) : signed UInt32.size n.toUInt32.toNat = n.toInt := rfl

theorem Written.decodes {mem : Region} {slot start limit : Nat} {r : PacketRecord}
    (h : Written mem start r) (hend : start + r.size ≤ limit) :
    Decodes mem ⟨.v3, slot, start, limit, false⟩ r := by
  have hspan : Header.span mem ⟨.v3, slot, start, limit, false⟩ =
      (start + r.dataOffset.toNat, r.data.length) := by
    show Header.clamp (start + mem.field (start + (Version.layout .v3).dataOffset) 2)
      (mem.field (start + (Version.layout .v3).snapLength) 4) limit = _
    rw [Region.field_of_word? h.dataOffset, Region.field_of_word? h.snapLength]
    unfold PacketRecord.size at hend
    unfold Header.clamp
    congr 1
    omega
  constructor
  · rw [hspan]
    exact h.data
  · exact Region.field_of_word? h.length
  · unfold Header.timestamp
    dsimp only [Header.field]
    rw [Region.field_of_word? h.seconds, Region.field_of_word? h.nanos,
      show (Version.layout .v3).fractionUnit = 1 from rfl, Nat.mul_one]
    rfl
  · unfold Header.ifindex
    dsimp only [Header.field]
    rw [Region.field_of_word? h.ifindex, signed_toUInt32]
  · show (if hasBit (mem.field (start + packetStatusField) 4) vlanValidBit then
      (mem.word? (start + packetTagField) 2).map VlanTag.mk else none) = _
    rw [Region.field_of_word? h.status, r.marked, h.tag]
    cases r.tci with
    | none => rfl
    | some tci => rfl

theorem Written.linked {mem : Region} {block o : Nat} {r : PacketRecord}
    (h : Written mem (block + o) r) (hlinks : r.Links) : Linked mem block o (o + r.distance) := by
  unfold Linked
  rw [Region.field_of_word? h.next, Region.field_of_word? h.snapLength,
    Region.field_of_word? h.dataOffset]
  rcases hlinks with hz | hd
  · exact Or.inr ⟨by rw [hz]; rfl, rfl⟩
  · exact Or.inl (by rw [hd, Nat.add_sub_cancel_left])

section Walking
variable {mem : Region} {block blockSize n v w o : Nat} {rs : List PacketRecord}
  {writes : List Store} (hcount : rs.length < UInt32.size) (hfits : Fits mem block blockSize rs)
  (hwrites : writes.Perm (layOut block rs))

include hfits hwrites

theorem word?_of_layOut (i : Fin rs.length)
    (hs : ⟨block + startOf rs i + o, toLE n v⟩ ∈ rs[i].stores (block + startOf rs i))
    (hw : w ≤ n) (hv : v < 256 ^ w) :
    (mem.stored writes).word? (block + startOf rs i + o) w = some v := by
  have hend := (PacketRecord.mem_stores hs).2
  rw [length_toLE] at hend
  exact Region.word?_stored (pairwise_apart_of_perm hwrites (pairwise_layOut block rs))
    (hwrites.mem_iff.2 (mem_layOut i hs)) (hend.trans (hfits i).2) hw hv

theorem written_of_layOut (i : Fin rs.length) :
    Written (mem.stored writes) (block + startOf rs i) rs[i] := by
  have hword {o v : Nat}
      (hs : ⟨block + startOf rs i + o, toLE 4 v⟩ ∈ rs[i].stores (block + startOf rs i))
      (hv : v < UInt32.size) : (mem.stored writes).word? (block + startOf rs i + o) 4 = some v :=
    word?_of_layOut hfits hwrites i hs (Nat.le_refl 4) hv
  have hdata : ⟨block + startOf rs i + rs[i].dataOffset.toNat, rs[i].data⟩ ∈
      rs[i].stores (block + startOf rs i) := by
    simp [PacketRecord.stores]
  constructor
  · exact hword (by simp [PacketRecord.stores]) rs[i].next.toNat_lt
  · exact hword (by simp [PacketRecord.stores]) rs[i].seconds.toNat_lt
  · exact hword (by simp [PacketRecord.stores]) rs[i].nanos.toNat_lt
  · exact hword (by simp [PacketRecord.stores]) rs[i].countable
  · exact hword (by simp [PacketRecord.stores]) rs[i].length.toNat_lt
  · exact hword (by simp [PacketRecord.stores]) rs[i].status.toNat_lt
  · exact word?_of_layOut hfits hwrites i (n := 2) (by simp [PacketRecord.stores])
      (Nat.le_refl 2) rs[i].dataOffset.toNat_lt
  · refine word?_of_layOut hfits hwrites i (n := 4) (by simp [PacketRecord.stores]) (by decide) ?_
    cases rs[i].tci with
    | none => decide
    | some tci => exact tci.toNat_lt
  · exact hword (by simp [PacketRecord.stores]) rs[i].ifindex.toUInt32.toNat_lt
  · exact Region.slice_stored (pairwise_apart_of_perm hwrites (pairwise_layOut block rs))
      (hwrites.mem_iff.2 (mem_layOut i hdata))
      ((PacketRecord.mem_stores hdata).2.trans (hfits i).2)

include hcount

theorem first_of_layOut (hne : 0 < rs.length) :
    BlockPosition.first (mem.stored writes) block blockSize =
      ⟨block, block + startOf rs 0, 0, rs.length⟩ := by
  obtain ⟨hblock, hmem⟩ := hfits ⟨0, hne⟩
  have hroom : 48 + 20 ≤ rs[0].size := rs[0].room.trans (Nat.le_add_left _ _)
  change 48 + rs[0].size ≤ blockSize at hblock
  change block + 48 + rs[0].size ≤ mem.size at hmem
  have hword {o v : Nat} (hs : ⟨block + o, toLE 4 v⟩ ∈ layOut block rs) (ho : o + 4 ≤ 48)
      (hv : v < UInt32.size) : (mem.stored writes).field (block + o) 4 = v :=
    Region.field_of_word? (Region.word?_stored
      (pairwise_apart_of_perm hwrites (pairwise_layOut block rs)) (hwrites.mem_iff.2 hs)
      (by omega) (Nat.le_refl 4) hv)
  unfold BlockPosition.first
  rw [hword (v := abiSizes.blockDescriptor) (by simp [layOut]) (by decide) (by decide),
    hword (v := rs.length) (by simp [layOut]) (by decide) hcount]
  dsimp only
  rw [if_pos (by change block + 48 + 48 ≤ _; omega)]
  rfl

omit hcount
variable (hlinks : ∀ r ∈ rs.dropLast, r.Links)
include hlinks

/-- A step from a record that is not the last one leads to the next. -/
theorem step_of_layOut (hn : n + 1 < rs.length) :
    BlockPosition.step (mem.stored writes) blockSize
        ⟨block, block + startOf rs n, n, rs.length⟩ =
      (⟨block, block + startOf rs (n + 1), n + 1, rs.length⟩, true) := by
  have hmem : rs[n] ∈ rs.dropLast := by
    rw [← List.getElem_dropLast (i := n) (by rw [List.length_dropLast]; omega)]
    exact List.getElem_mem _
  have hlink : Linked (mem.stored writes) block (startOf rs n) (startOf rs (n + 1)) := by
    rw [startOf_succ (by omega)]
    exact (written_of_layOut hfits hwrites ⟨n, by omega⟩).linked (hlinks _ hmem)
  have hlt : startOf rs n + rs[n].size ≤ startOf rs (n + 1) :=
    end_le_startOf (Nat.lt_succ_self n) hn
  have hsize : 48 ≤ rs[n].size := rs[n].headerSize_le_size
  have hroom : startOf rs (n + 1) + BlockPosition.headerSize ≤ blockSize :=
    (Nat.add_le_add_left rs[n + 1].headerSize_le_size _).trans (hfits ⟨n + 1, hn⟩).1
  exact BlockPosition.step_of_advance (advance?_of_linked hlink (by omega) hroom hn)

theorem after_of_layOut (hcount : rs.length < UInt32.size) (hn : n < rs.length) :
    (BlockPosition.first (mem.stored writes) block blockSize).after (mem.stored writes)
        blockSize n =
      ⟨block, block + startOf rs n, n, rs.length⟩ := by
  induction n with
  | zero => exact first_of_layOut hcount hfits hwrites hn
  | succ n ih =>
    rw [BlockPosition.after, ih (by omega), step_of_layOut hfits hwrites hlinks hn]

end Walking

/-- **Walking a block finds what was laid out in it.** Whatever was in memory before, and in
whatever order records and descriptor are written, the position after `n` steps is in the block,
gives back the `n`-th packet, and a step from there finds another record just if there is one. Only
the last record may have anything stored as its distance to the next. A walk needs its position
only, so it can be put aside and taken up again before every step. -/
theorem records_walked {mem : Region} {block blockSize : Nat} {rs : List PacketRecord}
    {writes : List Store} (hcount : rs.length < UInt32.size) (hfits : Fits mem block blockSize rs)
    (hlinks : ∀ r ∈ rs.dropLast, r.Links) (hwrites : writes.Perm (layOut block rs)) (n : Nat)
    (hn : n < rs.length) :
    let mem' := mem.stored writes
    let p := (BlockPosition.first mem' block blockSize).after mem' blockSize n
    p.block = block ∧ Decodes mem' (.ofPosition blockSize p) rs[n] ∧
      (p.step mem' blockSize).2 = decide (n + 1 < rs.length) := by
  intro mem' p
  have hp : p = ⟨block, block + startOf rs n, n, rs.length⟩ :=
    after_of_layOut hfits hwrites hlinks hcount hn
  have hend := (hfits ⟨n, hn⟩).1
  have hvacant : (rs.length == 0) = false := beq_false_of_ne (by omega)
  rw [hp]
  refine ⟨rfl, ?_, ?_⟩
  · unfold Header.ofPosition
    rw [hvacant]
    refine (written_of_layOut hfits hwrites ⟨n, hn⟩).decodes ?_
    show block + startOf rs n + rs[n].size ≤ block + blockSize
    rw [Nat.add_assoc]
    exact Nat.add_le_add_left hend block
  · by_cases hmore : n + 1 < rs.length
    · rw [step_of_layOut hfits hwrites hlinks hmore, decide_eq_true hmore]
    · unfold BlockPosition.step
      rw [if_pos (Nat.le_of_not_lt hmore), decide_eq_false hmore]

/-- Three packets. The first record gives the distance to the second, which gives none to the third;
that one gives a distance to nowhere. -/
def threeRecords : List PacketRecord :=
  [{ data := [1, 2, 3], length := 60, seconds := 5, nanos := 6, ifindex := 2, tci := some 42
     status := 16, dataOffset := 80, next := 96, countable := by decide, room := by decide
     marked := by decide },
    { data := [], length := 0, seconds := 5, nanos := 1000000000, ifindex := -1, tci := none
      status := 0, dataOffset := 68, next := 0, countable := by decide, room := by decide
      marked := by decide },
    { data := [4], length := 1514, seconds := 7, nanos := 0, ifindex := 2, tci := none
      status := 1, dataOffset := 71, next := 7, countable := by decide, room := by decide
      marked := by decide }]

/-- The third packet ends right at the end of its block. -/
theorem records_walked_threeRecords :
    let mem := (Region.zeroed 512).stored (layOut 64 threeRecords)
    let p := (BlockPosition.first mem 64 296).after mem 296 2
    Fits (.zeroed 512) 64 296 threeRecords ∧ mem.slice (64 + 224 + 71) 1 = [4] ∧
      p.block = 64 ∧ Decodes mem (.ofPosition 296 p) threeRecords[2] ∧
      (p.step mem 296).2 = false := by
  have hfits : Fits (.zeroed 512) 64 296 threeRecords := by decide +kernel
  obtain ⟨hblock, hdecodes, hstep⟩ := records_walked (by decide) hfits
    (by unfold PacketRecord.Links; decide +kernel) (List.Perm.refl _) 2 (by decide)
  exact ⟨hfits, by decide +kernel, hblock, hdecodes, hstep⟩

end PacketRing
