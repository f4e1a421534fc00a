import Mathlib
import PacketRing.Proofs.LayingOut

/-!
# One packet in three layouts

The layouts differ in where a field lies, in its width and in its unit. What is decoded from them is
the same. A packet is written as the kernel declares its header, field behind field, not at the
offsets that reading it looks up.

* `packed` : the stores of a record whose fields lie one behind another (`mem_packed`,
  `pairwise_packed`);
* `Arrival` : a packet with what the kernel says about it;
* `Site` : where a header for it goes in a layout, and `stores`, what is written there, no two of
  which share a byte (`pairwise_stores`);
* `Holds` : memory after the stores, read field by field (`holds_stored`), and with it the record in
  its slot (`atSlot_written`), its bytes (`Holds.span_eq`) and its tag (`vlan?_written`);
* `layouts_decode_alike` : the header view gives back the packet.
-/

namespace PacketRing

/-! ## Records -/

/-- A field: its width in bytes and what is stored there, if anything. -/
abbrev PackedField := Nat × Option Nat

/-- How many bytes fields take up. -/
def packedSize (fields : List PackedField) : Nat := (fields.map Prod.fst).sum

/-- The stores of fields that lie one behind another from `offset` of a record on. -/
def packed (start offset : Nat) : List PackedField → List Store
  | [] => []
  | (w, none) :: fields => packed start (offset + w) fields
  | (w, some x) :: fields => ⟨start + offset, toLE w x⟩ :: packed start (offset + w) fields

section Packed
variable {start offset : Nat} {fields : List PackedField} {s : Store}

theorem mem_packed (hs : s ∈ packed start offset fields) :
    start + offset ≤ s.offset ∧
      s.offset + s.bytes.length ≤ start + offset + packedSize fields := by
  induction fields generalizing offset with
  | nil => cases hs
  | cons field fields ih =>
    obtain ⟨w, x⟩ := field
    have hsize : packedSize ((w, x) :: fields) = w + packedSize fields := by simp [packedSize]
    rw [hsize]
    cases x with
    | none =>
      have := ih hs
      omega
    | some x =>
      rcases List.mem_cons.1 hs with rfl | hs
      · simp
      · have := ih hs
        omega

theorem pairwise_packed (start offset : Nat) (fields : List PackedField) :
    (packed start offset fields).Pairwise Store.Before := by
  induction fields generalizing offset with
  | nil => exact List.Pairwise.nil
  | cons field fields ih =>
    obtain ⟨w, x⟩ := field
    cases x with
    | none => exact ih _
    | some x =>
      refine List.pairwise_cons.2 ⟨fun s hs => ?_, ih _⟩
      have hlow := (mem_packed hs).1
      simp [Store.Before]
      omega

end Packed

/-! ## Packets -/

/-- A packet with what the kernel says about it, whatever the layout. -/
structure Arrival where
  data : Bytes
  /-- The length on the wire. -/
  length : UInt32
  seconds : UInt32
  /-- Microseconds. A million and more are no error. -/
  micros : UInt32
  ifindex : Int32
  /-- The tag, of use only where a status marks it as valid. -/
  tci : UInt16
  countable : data.length < UInt32.size

/-- The part of the instant below a second in the unit of a layout: microseconds, or as many
nanoseconds of it as a word can hold. -/
def Arrival.fraction (p : Arrival) : Version → Nat
  | .v1 => p.micros.toNat
  | .v2 | .v3 => min (1000 * p.micros.toNat) (UInt32.size - 1)

theorem Arrival.fraction_lt (p : Arrival) (v : Version) : p.fraction v < UInt32.size := by
  have hmicros := p.micros.toNat_lt
  cases v <;> simp only [fraction, UInt32.size] at * <;> omega

/-- In either unit, the cut to what a second has comes out the same. -/
theorem Arrival.nanos_eq (p : Arrival) (v : Version) :
    min (p.fraction v * v.layout.fractionUnit) 999999999 =
      min (1000 * p.micros.toNat) 999999999 := by
  cases v <;> simp only [fraction, Version.layout, UInt32.size] <;> omega

/-- Where a header in layout `v` goes, and what its status words say. -/
structure Site (v : Version) where
  /-- Start of the slot. -/
  base : Nat
  /-- The status of the slot, cut to the width that the layout has for it. -/
  owner : UInt64
  /-- Distance of the record from the start of its block, in v3. -/
  first : UInt32
  /-- The packet's own status, in v3. -/
  status : UInt32
  /-- Distance of the packet's bytes from the start of the record. -/
  dataOffset : UInt16
  aligned : statusOffset v base % v.statusWord.width = 0
  /-- The record lies behind the descriptor of its block. -/
  behind : v = .v3 → abiSizes.blockDescriptor ≤ first.toNat
  /-- There is room for the header and the address behind it. -/
  room : v.layout.headerSize + abiSizes.address ≤ dataOffset.toNat

namespace Site

variable {v : Version}

/-- Start of the packet header: the start of its slot but in v3. -/
def record (s : Site v) : Nat :=
  match v with
  | .v1 | .v2 => s.base
  | .v3 => s.base + s.first.toNat

/-- The status that belongs to the packet: of its frame, or its own in a block. -/
def own (s : Site v) : Nat :=
  match v with
  | .v1 | .v2 => s.owner.toNat
  | .v3 => s.status.toNat

/-- The header as the kernel declares it. Fields that do not bear on the packet are left alone: the
offset of its network header, what a v3 header says about the next record, the protocol and hash of
a tag, and padding. -/
def header (s : Site v) (p : Arrival) : List PackedField :=
  let status := s.own
  let length := p.length.toNat
  let captured := p.data.length
  let offset := s.dataOffset.toNat
  let seconds := p.seconds.toNat
  let fraction := p.fraction v
  let tag := p.tci.toNat
  match v with
  | .v1 =>
    [(8, some status), (4, some length), (4, some captured), (2, some offset), (2, none),
      (4, some seconds), (4, some fraction), (4, none)]
  | .v2 =>
    [(4, some status), (4, some length), (4, some captured), (2, some offset), (2, none),
      (4, some seconds), (4, some fraction), (2, some tag), (2, none), (4, none)]
  | .v3 =>
    [(4, none), (4, some seconds), (4, some fraction), (4, some captured), (4, some length),
      (4, some status), (2, some offset), (2, none), (4, none), (4, some tag), (2, none), (2, none),
      (8, none)]

/-- The address behind the header, up to the interface. -/
def address (p : Arrival) : List PackedField :=
  [(2, none), (2, none), (4, some p.ifindex.toUInt32.toNat)]

/-- The descriptor of a v3 block with a single packet. -/
def descriptor (s : Site v) : List PackedField :=
  match v with
  | .v1 | .v2 => []
  | .v3 => [(4, none), (4, none), (4, some s.owner.toNat), (4, some 1), (4, some s.first.toNat)]

/-- What it takes to write the packet. -/
def stores (s : Site v) (p : Arrival) : List Store :=
  packed s.base 0 s.descriptor ++ packed s.record 0 (s.header p ++ address p) ++
    [⟨s.record + s.dataOffset.toNat, p.data⟩]

/-- The packet's bytes end in the slot, and in the region. -/
def Fits (s : Site v) (p : Arrival) (g : Geometry) (mem : Region) : Prop :=
  s.record + s.dataOffset.toNat + p.data.length ≤ s.base + g.slotSize v ∧
    s.record + s.dataOffset.toNat + p.data.length ≤ mem.size

instance (s : Site v) (p : Arrival) (g : Geometry) (mem : Region) : Decidable (s.Fits p g mem) :=
  inferInstanceAs (Decidable (_ ∧ _))

/-! ## The stores -/

section Stores
variable (s : Site v) (p : Arrival)

/-- The descriptor ends before the record, if there is one. -/
theorem descriptor_le : s.base + packedSize s.descriptor ≤ s.record := by
  have hbehind := s.behind
  cases v with
  | v1 => exact Nat.le_refl _
  | v2 => exact Nat.le_refl _
  | v3 =>
    have hfirst : 48 ≤ s.first.toNat := hbehind rfl
    change s.base + 20 ≤ s.base + s.first.toNat
    omega

/-- The bytes begin behind the record. -/
theorem header_le : packedSize (s.header p ++ address p) ≤ s.dataOffset.toNat := by
  have hroom := s.room
  cases v with
  | v1 =>
    change 32 + 20 ≤ _ at hroom
    simp [packedSize, header, address]
    omega
  | v2 =>
    change 32 + 20 ≤ _ at hroom
    simp [packedSize, header, address]
    omega
  | v3 =>
    change 48 + 20 ≤ _ at hroom
    simp [packedSize, header, address]
    omega

theorem pairwise_stores : (s.stores p).Pairwise Store.Before := by
  have hdescriptor := s.descriptor_le
  have hheader := s.header_le p
  refine List.pairwise_append.2
    ⟨List.pairwise_append.2 ⟨pairwise_packed .., pairwise_packed .., fun t ht u hu => ?_⟩,
      List.pairwise_singleton .., fun t ht u hu => ?_⟩
  · have ht := (mem_packed ht).2
    have hu := (mem_packed hu).1
    unfold Store.Before
    omega
  · rw [List.mem_singleton.1 hu]
    unfold Store.Before
    rcases List.mem_append.1 ht with ht | ht
    · have ht := (mem_packed ht).2
      dsimp only
      omega
    · have ht := (mem_packed ht).2
      dsimp only
      omega

/-- Every store ends with the packet's bytes, or before. -/
theorem mem_stores {t : Store} (ht : t ∈ s.stores p) :
    t.offset + t.bytes.length ≤ s.record + s.dataOffset.toNat + p.data.length := by
  have hdescriptor := s.descriptor_le
  have hheader := s.header_le p
  rcases List.mem_append.1 ht with ht | ht
  · rcases List.mem_append.1 ht with ht | ht
    · have ht := (mem_packed ht).2
      omega
    · have ht := (mem_packed ht).2
      omega
  · rw [List.mem_singleton.1 ht]

end Stores

/-! ## Reading back -/

/-- Memory holds the packet: all that the layouts have in common. -/
structure Holds (mem : Region) (s : Site v) (p : Arrival) : Prop where
  length : mem.field (s.record + v.layout.length) 4 = p.length.toNat
  snapLength : mem.field (s.record + v.layout.snapLength) 4 = p.data.length
  dataOffset : mem.field (s.record + v.layout.dataOffset) 2 = s.dataOffset.toNat
  seconds : mem.field (s.record + v.layout.seconds) 4 = p.seconds.toNat
  fraction : mem.field (s.record + v.layout.fraction) 4 = p.fraction v
  ifindex : mem.field (s.record + (v.layout.address + addressIfindex)) 4 =
    p.ifindex.toUInt32.toNat
  data : mem.slice (s.record + s.dataOffset.toNat) p.data.length = p.data
  owner : slotStatus mem v s.base = s.owner.toNat % UInt32.size

section Reading
variable {s : Site v} {p : Arrival} {g : Geometry} {mem : Region} {writes : List Store}
  {i n w x : Nat} (hfits : s.Fits p g mem) (hwrites : writes.Perm (s.stores p))

include hfits hwrites

/-- A word is read back, cut to its width, where at least as many bytes were stored. -/
theorem word?_written_mod (hs : ⟨i, toLE n x⟩ ∈ s.stores p) (hw : w ≤ n) :
    (mem.stored writes).word? i w = some (x % 256 ^ w) := by
  have hend := s.mem_stores p hs
  rw [length_toLE] at hend
  exact Region.word?_stored_mod (pairwise_apart_of_perm hwrites (s.pairwise_stores p))
    (hwrites.mem_iff.2 hs) (hend.trans hfits.2) hw

theorem word?_written (hs : ⟨i, toLE n x⟩ ∈ s.stores p) (hw : w ≤ n) (hx : x < 256 ^ w) :
    (mem.stored writes).word? i w = some x := by
  rw [word?_written_mod hfits hwrites hs hw, Nat.mod_eq_of_lt hx]

theorem field_written (hs : ⟨i, toLE w x⟩ ∈ s.stores p) (hx : x < 256 ^ w) :
    (mem.stored writes).field i w = x :=
  Region.field_of_word? (word?_written hfits hwrites hs (Nat.le_refl w) hx)

/-- The status of the slot is read as 32 bits, however wide it is. -/
theorem slotStatus_written :
    slotStatus (mem.stored writes) v s.base = s.owner.toNat % UInt32.size := by
  have hs : ⟨statusOffset v s.base, toLE v.statusWord.width s.owner.toNat⟩ ∈ s.stores p := by
    cases v <;> simp [stores, packed, descriptor, header, own, record, statusOffset,
      Version.statusWord]
  have hword := word?_written_mod hfits hwrites hs (Nat.le_refl _)
  have hmod : s.owner.toNat % 256 ^ v.statusWord.width % UInt32.size =
      s.owner.toNat % UInt32.size := by
    cases v <;> simp only [Version.statusWord, UInt32.size] <;> omega
  unfold Region.word? at hword
  split at hword
  · next hin =>
    unfold slotStatus Region.aligned?
    rw [if_pos ⟨hin, s.aligned⟩, hword, Option.getD_some, hmod]
  · cases hword

theorem holds_stored : Holds (mem.stored writes) s p := by
  have hfield {o w x : Nat}
      (hs : ⟨s.record + o, toLE w x⟩ ∈ packed s.record 0 (s.header p ++ address p))
      (hx : x < 256 ^ w) : (mem.stored writes).field (s.record + o) w = x :=
    field_written hfits hwrites (by simp [stores, hs]) hx
  constructor
  · exact hfield (by cases v <;> simp [packed, header, Version.layout]) p.length.toNat_lt
  · exact hfield (by cases v <;> simp [packed, header, Version.layout]) p.countable
  · exact hfield (by cases v <;> simp [packed, header, Version.layout]) s.dataOffset.toNat_lt
  · exact hfield (by cases v <;> simp [packed, header, Version.layout]) p.seconds.toNat_lt
  · exact hfield (by cases v <;> simp [packed, header, Version.layout]) (p.fraction_lt v)
  · exact hfield (by cases v <;> simp [packed, header, address, Version.layout, addressIfindex])
      p.ifindex.toUInt32.toNat_lt
  · exact Region.slice_stored (pairwise_apart_of_perm hwrites (s.pairwise_stores p))
      (hwrites.mem_iff.2 (by simp [stores])) hfits.2
  · exact slotStatus_written hfits hwrites

/-- The view at the front of the slot is that of the record. -/
theorem atSlot_written : Header.atSlot (mem.stored writes) g v s.base =
    ⟨v, s.base, s.record, s.base + g.slotSize v, false⟩ := by
  cases v with
  | v1 => rfl
  | v2 => rfl
  | v3 =>
    have hroom : 48 + 20 ≤ s.dataOffset.toNat := s.room
    have hend : s.base + s.first.toNat + s.dataOffset.toNat + p.data.length ≤
        s.base + g.blockSize := hfits.1
    have hcount : (mem.stored writes).field (s.base + Block.packetCountField) 4 = 1 :=
      field_written hfits hwrites (by simp [stores, packed, descriptor, Block.packetCountField])
        (by decide)
    have hfirst : (mem.stored writes).field (s.base + Block.firstPacketField) 4 = s.first.toNat :=
      field_written hfits hwrites (by simp [stores, packed, descriptor, Block.firstPacketField])
        s.first.toNat_lt
    unfold Header.atSlot BlockPosition.first Header.ofPosition
    rw [hcount, hfirst]
    dsimp only
    rw [if_pos (by change _ + 48 ≤ _; omega)]
    rfl

/-- The tag is there if the packet's own status says so, in a layout that has one. -/
theorem vlan?_written (limit : Nat) :
    Header.vlan? (mem.stored writes) ⟨v, s.base, s.record, limit, false⟩ =
      if v ≠ .v1 ∧ hasBit s.own vlanValidBit then some ⟨p.tci.toNat⟩ else none := by
  cases v with
  | v1 => rfl
  | v2 =>
    have htag : (mem.stored writes).word? (s.record + 24) 2 = some p.tci.toNat :=
      word?_written (n := 2) hfits hwrites (by simp [stores, packed, header]) (by decide)
        p.tci.toNat_lt
    have hbit : hasBit (s.owner.toNat % UInt32.size) vlanValidBit = hasBit s.own vlanValidBit := by
      unfold hasBit vlanValidBit own UInt32.size
      congr 1
      dsimp only
      omega
    show (if hasBit (slotStatus _ .v2 s.base) vlanValidBit then
      ((mem.stored writes).word? (s.record + 24) 2).map VlanTag.mk else none) = _
    rw [slotStatus_written hfits hwrites, htag, hbit]
    simp
  | v3 =>
    have htag : (mem.stored writes).word? (s.record + packetTagField) 2 = some p.tci.toNat :=
      word?_written (n := 4) hfits hwrites (by simp [stores, packed, header, packetTagField])
        (by decide) p.tci.toNat_lt
    have hstatus : (mem.stored writes).field (s.record + packetStatusField) 4 = s.status.toNat :=
      field_written hfits hwrites (by simp [stores, packed, header, own, packetStatusField])
        s.status.toNat_lt
    show (if hasBit ((mem.stored writes).field (s.record + packetStatusField) 4) vlanValidBit then
      ((mem.stored writes).word? (s.record + packetTagField) 2).map VlanTag.mk else none) = _
    rw [hstatus, htag]
    simp [own]

end Reading

theorem Holds.span_eq {mem : Region} {s : Site v} {p : Arrival} {limit : Nat} (h : Holds mem s p)
    (hend : s.record + s.dataOffset.toNat + p.data.length ≤ limit) :
    Header.span mem ⟨v, s.base, s.record, limit, false⟩ =
      (s.record + s.dataOffset.toNat, p.data.length) := by
  simp only [Header.span, Header.field, Header.clamp, h.dataOffset, h.snapLength,
    Bool.false_eq_true, ↓reduceIte, Prod.mk.injEq, true_and]
  omega

end Site

/-- **The layouts decode a packet alike.** Whatever was in memory before, and in whatever order the
packet is written, in the slot of a frame or as the only one of a block, the header view gives back
its bytes, its length on the wire, its instant and its interface. None of these depends on the
layout or the place. Microseconds that exceed a second are cut and do not carry over. The tag is
that of the packet in both layouts that have one, if the packet's own status marks it as valid; the
status of a block says nothing about it. -/
theorem layouts_decode_alike (p : Arrival) {v : Version} (s : Site v) (g : Geometry) (mem : Region)
    (writes : List Store) (hfits : s.Fits p g mem) (hwrites : writes.Perm (s.stores p)) :
    let mem' := mem.stored writes
    let h := Header.atSlot mem' g v s.base
    mem'.slice (h.span mem').1 (h.span mem').2 = p.data ∧ h.length mem' = p.length.toNat ∧
      h.timestamp mem' = .ofEpoch p.seconds.toNat (min (1000 * p.micros.toNat) 999999999) ∧
      (h.timestamp mem').seconds = p.seconds.toNat ∧ h.ifindex mem' = p.ifindex.toInt ∧
      h.vlan? mem' =
        if v ≠ .v1 ∧ hasBit s.own vlanValidBit then some ⟨p.tci.toNat⟩ else none := by
  intro mem' h
  have hh : h = ⟨v, s.base, s.record, s.base + g.slotSize v, false⟩ :=
    Site.atSlot_written hfits hwrites
  have hholds : Site.Holds mem' s p := Site.holds_stored hfits hwrites
  have htime : h.timestamp mem' =
      .ofEpoch p.seconds.toNat (min (1000 * p.micros.toNat) 999999999) := by
    rw [hh]
    simp [Header.timestamp, Header.field, hholds.seconds, hholds.fraction, p.nanos_eq v]
  refine ⟨?_, ?_, htime, ?_, ?_, ?_⟩
  · rw [hh, hholds.span_eq hfits.1]
    exact hholds.data
  · rw [hh]
    exact hholds.length
  · rw [htime]
    unfold Timestamp.seconds Timestamp.ofEpoch
    dsimp only
    omega
  · rw [hh]
    simp [Header.ifindex, Header.field, hholds.ifindex, signed_toUInt32]
  · rw [hh]
    exact Site.vlan?_written hfits hwrites _

/-- A packet with microseconds for more than an hour, from an interface with a negative index. -/
def lateArrival : Arrival :=
  { data := [222, 173, 190, 239], length := 1514, seconds := 5, micros := 4294967295, ifindex := -3
    tci := 8292, countable := by decide }

/-- The first frame of the second block. -/
def frameSite : Site .v1 :=
  { base := 512, owner := 1, first := 0, status := 0, dataOffset := 80
    aligned := by decide, behind := by decide, room := by decide }

/-- The same frame, marked as tagged. -/
def taggedSite : Site .v2 :=
  { base := 512, owner := 17, first := 0, status := 0, dataOffset := 66
    aligned := by decide, behind := by decide, room := by decide }

/-- The second block. Its own status has the bit that marks a tag as valid; its packet's has not. -/
def blockSite : Site .v3 :=
  { base := 512, owner := 17, first := 64, status := 1, dataOffset := 82
    aligned := by decide, behind := by decide, room := by decide }

theorem layouts_decode_alike_late :
    let g : Geometry := ⟨256, 2, 2, ⟨0⟩⟩
    let mem1 := (Region.zeroed 1024).stored (frameSite.stores lateArrival)
    let mem2 := (Region.zeroed 1024).stored (taggedSite.stores lateArrival)
    let mem3 := (Region.zeroed 1024).stored (blockSite.stores lateArrival)
    let h1 := Header.atSlot mem1 g .v1 512
    let h2 := Header.atSlot mem2 g .v2 512
    let h3 := Header.atSlot mem3 g .v3 512
    h1.timestamp mem1 = ⟨5999999999⟩ ∧ h2.timestamp mem2 = ⟨5999999999⟩ ∧
      h3.timestamp mem3 = ⟨5999999999⟩ ∧ h1.ifindex mem1 = -3 ∧ h2.ifindex mem2 = -3 ∧
      h3.ifindex mem3 = -3 ∧ h1.vlan? mem1 = none ∧ h2.vlan? mem2 = some ⟨8292⟩ ∧
      h3.vlan? mem3 = none := by
  intro g mem1 mem2 mem3 h1 h2 h3
  obtain ⟨-, -, ht1, -, hi1, hv1⟩ := layouts_decode_alike lateArrival frameSite g
    (.zeroed 1024) (frameSite.stores lateArrival) (by decide +kernel) (List.Perm.refl _)
  obtain ⟨-, -, ht2, -, hi2, hv2⟩ := layouts_decode_alike lateArrival taggedSite g
    (.zeroed 1024) (taggedSite.stores lateArrival) (by decide +kernel) (List.Perm.refl _)
  obtain ⟨-, -, ht3, -, hi3, hv3⟩ := layouts_decode_alike lateArrival blockSite g
    (.zeroed 1024) (blockSite.stores lateArrival) (by decide +kernel) (List.Perm.refl _)
  exact ⟨ht1, ht2, ht3, hi1, hi2, hi3, hv1, hv2, hv3⟩

end PacketRing
