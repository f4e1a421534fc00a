import Mathlib
import PacketRing.Proofs.Boundary
import PacketRing.Proofs.RingRequests
import PacketRing.Ring.Region.Lemmas

/-!
# Addresses in machine words

Reading computes with natural numbers; a machine has words of 64 bits. Where the sizes of a ring
passed their check, that makes no difference.

* `Machine.add`, `Machine.mul`, `Machine.succ` : arithmetic that stops where a word is too small,
  and the read path on top of it, step for step, up to `Machine.next`;
* `Geometry.Small` : bounds on the sizes, which the check ensures, and the room that they leave
  behind every address that memory is read from (`Small.slot_le`, `Small.record_le`,
  `Small.front_le`);
* `Geometry.small_of_lt` : sizes below a quarter of a word are within these bounds;
* one law for each step: within these bounds it comes to what it does without checks, up to
  `Machine.next_eq`;
* `Cursor.Counted` : the count of records to walk is a word of 32 bits. Every read keeps to that
  (`counted_next`), and so every cursor is within the bounds (`Reached.walkable`);
* `reads_fit_words` : no read stops on a word that is too small.
-/

namespace PacketRing

/-! ## Reading with checked sums

Every sum and product that is computed for an address stands here in the order in which it is
computed, and so does the count of records. Differences and remainders cannot exceed what they are
taken from, and the end of a packet's bytes is computed without regard to what lies beyond a word
(`Header.clamp`); these need no check.
-/

namespace Machine

/-- A sum, if it fits a word of 64 bits. -/
def add (a b : Nat) : Option Nat := if a + b < UInt64.size then some (a + b) else none

/-- A product, if it fits a word of 64 bits. -/
def mul (a b : Nat) : Option Nat := if a * b < UInt64.size then some (a * b) else none

/-- The next number, if it fits a word of 32 bits. -/
def succ (n : Nat) : Option Nat := if n + 1 < UInt32.size then some (n + 1) else none

/-- The field of `w` bytes at `offset` from `start`. -/
def field (mem : Region) (start offset w : Nat) : Option Nat := do
  return mem.field (← add start offset) w

/-- The alignment of 16 is added as a whole before one is taken away. -/
def frameAlign (n : Nat) : Option Nat := do
  return ((← add n 16) - 1) / 16 * 16

/-! ### Slots -/

def blockSize (g : Geometry) : Option Nat := mul g.frameSize g.framesPerBlock

def slots (g : Geometry) : Version → Option Nat
  | .v1 | .v2 => mul g.framesPerBlock g.numBlocks
  | .v3 => some g.numBlocks

def slotOffset (g : Geometry) (v : Version) (i : Nat) : Option Nat :=
  match v with
  | .v1 | .v2 => mul i g.frameSize
  | .v3 => do mul i (← blockSize g)

def slotStatus (mem : Region) (v : Version) (base : Nat) : Option Nat := do
  let i ← add base v.statusWord.offset
  return (mem.aligned? i v.statusWord.width).getD statusKernel % UInt32.size

def isUserSlot (mem : Region) (v : Version) (base : Nat) : Option Bool := do
  return hasBit (← slotStatus mem v base) userBit

def clearSlot (mem : Region) (v : Version) (base : Nat) : Option Region := do
  return mem.storeAligned (← add base v.statusWord.offset) v.statusWord.width statusKernel

/-! ### Blocks -/

/-- The first record is read and checked against the end of its block. Nothing bounds the distance
that the descriptor gives. -/
def first (mem : Region) (block blockSize : Nat) : Option BlockPosition := do
  let limit ← add block blockSize
  let total ← field mem block Block.packetCountField 4
  let packet ← add block (← field mem block Block.firstPacketField 4)
  let last ← add packet BlockPosition.headerSize
  return { block, packet, used := 0, total := if last ≤ limit then total else 0 }

/-- Nor does anything bound the distance that a record gives, or its size. -/
def nextPacket (mem : Region) (p : BlockPosition) : Option Nat := do
  let distance ← field mem p.packet nextOffsetField 4
  if distance ≠ 0 then add p.packet distance
  else
    let start ← field mem p.packet (Version.layout .v3).dataOffset 2
    let size ← field mem p.packet (Version.layout .v3).snapLength 4
    add p.packet (← frameAlign (← add size start))

def advance (mem : Region) (limit : Nat) (p : BlockPosition) : Option (Option BlockPosition) := do
  let used ← succ p.used
  if p.total ≤ used then return none
  let next ← nextPacket mem p
  if next ≤ p.packet then return none
  if limit < (← add next BlockPosition.headerSize) then return none
  return some { p with used, packet := next }

/-! ### Headers -/

def ofPosition (blockSize : Nat) (p : BlockPosition) : Option Header := do
  return ⟨.v3, p.block, p.packet, ← add p.block blockSize, p.total == 0⟩

/-- The header at the front of the slot, and the position of its record in v3. The size of a block
is computed in every version. -/
def front (c : Cursor) (mem : Region) : Option (Header × Option BlockPosition) := do
  let base ← slotOffset c.geometry c.version c.index
  let blockSize ← blockSize c.geometry
  match c.version with
  | .v3 =>
    let p ← first mem base blockSize
    return (← ofPosition blockSize p, some p)
  | v => return (⟨v, base, base, ← add base c.geometry.frameSize, false⟩, none)

def length (mem : Region) (h : Header) : Option Nat :=
  if h.vacant then some 0 else field mem h.record h.version.layout.length 4

def span (mem : Region) (h : Header) : Option (Nat × Nat) :=
  if h.vacant then some (h.slot, 0)
  else do
    let offset ← field mem h.record h.version.layout.dataOffset 2
    let size ← field mem h.record h.version.layout.snapLength 4
    return Header.clamp (← add h.record offset) size h.limit

def timestamp (mem : Region) (h : Header) : Option Timestamp := do
  let fraction ← field mem h.record h.version.layout.fraction 4
  let seconds ← field mem h.record h.version.layout.seconds 4
  return .ofEpoch seconds (min (fraction * h.version.layout.fractionUnit) 999999999)

def ifindex (mem : Region) (h : Header) : Option Int := do
  return signed UInt32.size (← field mem h.record (h.version.layout.address + addressIfindex) 4)

/-- The tag at `start`, which is looked for only where a status marks it as valid. -/
def tag (mem : Region) (status : Nat) (start : Option Nat) : Option (Option VlanTag) :=
  if hasBit status vlanValidBit then do return (mem.word? (← start) 2).map VlanTag.mk
  else some none

def vlan? (mem : Region) (h : Header) : Option (Option VlanTag) := do
  match h.version with
  | .v1 => return none
  | .v2 => tag mem (← slotStatus mem .v2 h.slot) (add h.record 24)
  -- The tag is the second word of a part of the header that begins at 28.
  | .v3 => tag mem (← field mem h.record packetStatusField 4) (do add (← add h.record 28) 4)

/-! ### Reads -/

def frame (c : Cursor) (mem : Region) (h : Header) : Option Frame := do
  let (start, found) ← span mem h
  let size := if 0 < c.snapLength then min found c.snapLength else found
  let timestamp ← timestamp mem h
  let length ← length mem h
  let ifindex ← ifindex mem h
  let vlan ← vlan? mem h
  return { offset := start, size
           info := { timestamp, captureLength := size, length, ifindex, vlan } }

def walk (c : Cursor) (mem : Region) : Option (Cursor × Option Header) :=
  match c.phase, c.block with
  | .haveHeader, some p => do
    let blockSize ← blockSize c.geometry
    match ← advance mem (← add p.block blockSize) p with
    | some q => return ({ c with block := some q }, some (← ofPosition blockSize q))
    | none => return ({ c with phase := .blockExhausted }, none)
  | .haveHeader, none => some ({ c with phase := .needHeader }, none)
  | _, _ => some (c, none)

/-- The header is built once more to clear its status. -/
def release (r : Reader) (k : Kernel) : Option (Reader × Kernel) :=
  if r.cursor.pendingRelease then do
    let h ← front r.cursor k.memory
    let mem ← clearSlot k.memory h.1.version h.1.slot
    let index ← add r.cursor.index 1
    let slots ← slots r.cursor.geometry r.cursor.version
    let cursor :=
      { r.cursor with index := index % max slots 1, pendingRelease := false, block := none }
    return ({ r with cursor }, k.withMemory mem)
  else some (r, k)

/-- One header serves all looks at the slot. This loop and that of `claim` go on only if that leaves
less to look at, as it always does. -/
def await (h : Header) (r : Reader) (k : Kernel) :
    Option (Except CaptureError Unit × Reader × Kernel) := do
  if ← isUserSlot k.memory h.version h.slot then return (.ok (), r, k)
  else
    let waited := k.wait r.cursor.timeout
    match Reader.verdict waited.1 with
    | some e => return (.error e, r.countPoll, waited.2)
    | none =>
      if waited.2.script.length < k.script.length then await h r.countPoll waited.2
      else none
termination_by k.script.length

/-- Handing back the slot held and waiting for the next one. -/
def acquire (r : Reader) (k : Kernel) :
    Option (Except CaptureError Unit × Reader × Kernel) := do
  let (r, k) ← release r k
  await (← front r.cursor k.memory).1 r k

def emit (r : Reader) (k : Kernel) (h : Header) :
    Option (Except CaptureError Frame × Reader × Kernel) := do
  return (.ok (← frame r.cursor k.memory h), r.countPacket, k)

def claim (r : Reader) (k : Kernel) : Option (Except CaptureError Frame × Reader × Kernel) := do
  let (outcome, r', k') ← acquire r k
  match outcome with
  | .error e => return (.error e, r', k')
  | .ok () =>
    let (h, block) ← front r'.cursor k'.memory
    let c := { r'.cursor with pendingRelease := true }
    if (← length k'.memory h) = 0 then
      let taken := { r' with cursor := { c with phase := .needHeader } }
      if Prod.Lex (· < ·) (· < ·) (k'.script.length, taken.pending k')
          (k.script.length, r.pending k) then
        claim taken k'
      else none
    else emit { r' with cursor := { c with phase := .haveHeader, block } } k' h
termination_by (k.script.length, r.pending k)
decreasing_by assumption

def next (r : Reader) (k : Kernel) : Option (Except CaptureError Frame × Reader × Kernel) := do
  let (c, found) ← walk r.cursor k.memory
  match found with
  | some h => emit { r with cursor := c } k h
  | none => claim { r with cursor := c } k

end Machine

/-! ## Bounds -/

theorem Region.field_lt (mem : Region) (i w : Nat) : mem.field i w < 256 ^ w := by
  unfold field word?
  split
  · exact mem.word_lt i w
  · exact Nat.pow_pos (by decide)

theorem Version.headerSize_le (v : Version) : v.layout.headerSize ≤ 48 := by
  cases v <;> decide

/-- What the sizes of a ring have to be for its addresses to fit: each of them is a word, and behind
a block and behind the mapping there is room for two words of 32 bits. -/
structure Geometry.Small (g : Geometry) : Prop where
  frameSize : g.frameSize < 2 ^ 64
  numBlocks : g.numBlocks < 2 ^ 64
  blockSize : g.blockSize ≤ (2 ^ 32 - 1) * (2 ^ 32 - 1)
  frameCount : g.frameCount < 2 ^ 64
  mappingSize : g.mappingSize ≤ (2 ^ 32 - 1) * (2 ^ 32 - 1)

/-- Sizes below a quarter of what a word can hold leave room for all addresses. -/
theorem Geometry.small_of_lt {g : Geometry} (hframe : g.frameSize < 2 ^ 64)
    (hblocks : g.numBlocks < 2 ^ 64) (hblock : g.blockSize < 2 ^ 62)
    (hcount : g.frameCount < 2 ^ 62) (hmapping : g.mappingSize < 2 ^ 62) : g.Small where
  frameSize := hframe
  numBlocks := hblocks
  blockSize := by omega
  frameCount := by omega
  mappingSize := by omega

theorem Options.Admissible.small {o : Options} {pageSize : Nat} (h : o.Admissible pageSize) :
    o.geometry.Small where
  frameSize := h.frameSize_lt.trans (by decide)
  numBlocks := h.numBlocks_lt.trans (by decide)
  blockSize := h.blockSize_geometry ▸ h.blockSize_lt.le.trans (by decide)
  frameCount := frameCount_geometry h.positive.2.1 ▸ h.frameCount_lt.trans (by decide)
  mappingSize := h.mappingSize_le

/-- The slot at the cursor lies in the mapping. Without slots the cursor stays at the front. -/
theorem Cursor.slot_cases {c : Cursor} (hi : c.index < c.round) :
    c.index = 0 ∧ c.base = 0 ∨
      c.index < c.geometry.slots c.version ∧
        c.base + c.geometry.slotSize c.version ≤ c.geometry.mappingSize := by
  unfold round at hi
  by_cases hlt : c.index < c.geometry.slots c.version
  · have hend := c.offset_le hlt
    rw [c.offset_slots, c.offset_succ] at hend
    exact .inr ⟨hlt, hend⟩
  · have hzero : c.index = 0 := by omega
    refine .inl ⟨hzero, ?_⟩
    unfold base Geometry.slotOffset
    rw [hzero, Nat.zero_mul]

/-- The start of the slot at the cursor, its end and its number are words, and there is room for two
words of 32 bits behind its start. -/
theorem Geometry.Small.slot_le {c : Cursor} (hg : c.geometry.Small) (hi : c.index < c.round) :
    c.base + c.geometry.slotSize c.version < 2 ^ 64 ∧ c.base + 2 ^ 33 ≤ 2 ^ 64 ∧
      c.index + 1 < 2 ^ 64 := by
  have hmapping := hg.mappingSize
  have hsize : c.geometry.slotSize c.version < 2 ^ 64 := by
    have hblock := hg.blockSize
    cases hv : c.version with
    | v1 | v2 => exact hg.frameSize
    | v3 =>
      change c.geometry.blockSize < _
      omega
  have hslots : c.geometry.slots c.version < 2 ^ 64 := by
    cases hv : c.version with
    | v1 | v2 => exact hg.frameCount
    | v3 => exact hg.numBlocks
  rcases Cursor.slot_cases hi with ⟨hindex, hbase⟩ | ⟨hindex, hend⟩
  · omega
  · -- Slots without bytes all begin at the front of the mapping.
    have hempty : c.geometry.slotSize c.version = 0 → c.base = 0 := fun hz => by
      unfold Cursor.base Geometry.slotOffset
      rw [hz, Nat.mul_zero]
    omega

/-- So it is with a record in the block at the cursor. -/
theorem Geometry.Small.record_le {c : Cursor} (hg : c.geometry.Small) (hi : c.index < c.round)
    (hv : c.version = .v3) {p : BlockPosition} (hblock : p.block = c.base)
    (hin : p.packet + BlockPosition.headerSize ≤ c.base + c.geometry.blockSize) :
    p.block + 2 ^ 33 ≤ 2 ^ 64 ∧ p.packet + 2 ^ 33 ≤ 2 ^ 64 ∧
      p.block + c.geometry.blockSize < 2 ^ 64 := by
  obtain ⟨-, hbase, -⟩ := hg.slot_le hi
  have hlimit : c.base + c.geometry.blockSize ≤ (2 ^ 32 - 1) * (2 ^ 32 - 1) := by
    have hsize := hg.blockSize
    rcases Cursor.slot_cases hi with ⟨-, hzero⟩ | ⟨-, hend⟩
    · omega
    · rw [hv] at hend
      exact hend.trans hg.mappingSize
  have hsize : BlockPosition.headerSize = 48 := rfl
  omega

/-- And with the packet at the front of the slot, if there is one. -/
theorem Geometry.Small.front_le {c : Cursor} (hg : c.geometry.Small) (hi : c.index < c.round)
    (mem : Region) (hvacant : (c.header mem).vacant = false) :
    (c.header mem).record + 2 ^ 33 ≤ 2 ^ 64 := by
  by_cases hv : c.version = .v3
  · rw [Cursor.header_of_v3 hv] at hvacant ⊢
    have hin := (BlockPosition.first_inside (ne_of_beq_false hvacant)).2
    exact (hg.record_le hi hv rfl hin).2.1
  · have hrecord : (c.header mem).record = c.base := by
      unfold Cursor.header
      cases hc : c.version with
      | v1 => rfl
      | v2 => rfl
      | v3 => exact absurd hc hv
    rw [hrecord]
    exact (hg.slot_le hi).2.1

/-- The descriptor's count is a word of 32 bits. -/
def Cursor.Counted (c : Cursor) : Prop := ∀ p, c.block = some p → p.total < 2 ^ 32

/-- A walk in the block at the cursor stands on one of its records. -/
structure Cursor.Walkable (c : Cursor) : Prop where
  within : ∀ p, c.block = some p → c.version = .v3 ∧ p.Within c.base c.geometry.blockSize
  total : c.Counted

/-- A distance or a record with its offset: no more than 32 and 16 bits lie between two packets. -/
theorem BlockPosition.nextPacket_lt (p : BlockPosition) (mem : Region) :
    p.nextPacket mem < p.packet + 2 ^ 32 + 2 ^ 16 + 16 := by
  have hnext := mem.field_lt (p.packet + nextOffsetField) 4
  have hlen := mem.field_lt (p.packet + (Version.layout .v3).snapLength) 4
  have hoff := mem.field_lt (p.packet + (Version.layout .v3).dataOffset) 2
  have hround := frameAlign_bounds (mem.field (p.packet + (Version.layout .v3).snapLength) 4 +
    mem.field (p.packet + (Version.layout .v3).dataOffset) 2)
  unfold nextPacket
  dsimp only
  split <;> omega

namespace Machine

variable {a b n i w start offset block base size limit : Nat} {mem : Region} {g : Geometry}
  {v : Version} {p : BlockPosition} {hd : Header} {c : Cursor} {r : Reader} {k : Kernel}

theorem add_of_lt (h : a + b < 2 ^ 64) : add a b = some (a + b) := if_pos h

theorem mul_of_lt (h : a * b < 2 ^ 64) : mul a b = some (a * b) := if_pos h

theorem succ_of_lt (h : n + 1 < 2 ^ 32) : succ n = some (n + 1) := if_pos h

theorem field_of_lt (h : start + offset < 2 ^ 64) :
    field mem start offset w = some (mem.field (start + offset) w) := by
  simp [field, add_of_lt h]

theorem frameAlign_of_lt (h : n + 16 < 2 ^ 64) :
    frameAlign n = some (PacketRing.frameAlign n) := by
  simp [frameAlign, add_of_lt h, PacketRing.frameAlign]

/-! ### Slots -/

theorem blockSize_eq (hg : g.Small) : blockSize g = some g.blockSize :=
  mul_of_lt (hg.blockSize.trans_lt (by decide))

/-- Sizes that the check refuses can be too large for a word. -/
example : blockSize ⟨4294967296, 4294967296, 1, ⟨0⟩⟩ = none := by decide

theorem slots_eq (hg : g.Small) (v : Version) : slots g v = some (g.slots v) := by
  have hcount := hg.frameCount
  cases v with
  | v1 => exact mul_of_lt hcount
  | v2 => exact mul_of_lt hcount
  | v3 => rfl

theorem slotOffset_eq (hg : g.Small) (hi : g.slotOffset v i < 2 ^ 64) :
    slotOffset g v i = some (g.slotOffset v i) := by
  cases v with
  | v1 => exact mul_of_lt hi
  | v2 => exact mul_of_lt hi
  | v3 =>
    simp only [slotOffset, blockSize_eq hg, Option.bind_eq_bind, Option.bind_some]
    exact mul_of_lt hi

theorem slotStatus_eq (hb : base + 2 ^ 33 ≤ 2 ^ 64) :
    slotStatus mem v base = some (PacketRing.slotStatus mem v base) := by
  have ho : v.statusWord.offset ≤ 8 := by cases v <;> decide
  simp (disch := omega) [slotStatus, add_of_lt, PacketRing.slotStatus, statusOffset]

theorem isUserSlot_eq (hb : base + 2 ^ 33 ≤ 2 ^ 64) :
    isUserSlot mem v base = some (PacketRing.isUserSlot mem v base) := by
  simp [isUserSlot, slotStatus_eq hb, PacketRing.isUserSlot]

theorem clearSlot_eq (hb : base + 2 ^ 33 ≤ 2 ^ 64) :
    clearSlot mem v base = some (PacketRing.clearSlot mem v base) := by
  have ho : v.statusWord.offset ≤ 8 := by cases v <;> decide
  simp (disch := omega) [clearSlot, add_of_lt, PacketRing.clearSlot, statusOffset]

/-! ### Blocks -/

theorem first_eq (hblock : block + 2 ^ 33 ≤ 2 ^ 64) (hlimit : block + size < 2 ^ 64) :
    first mem block size = some (.first mem block size) := by
  have hcount : Block.packetCountField = 12 := rfl
  have hfirst : Block.firstPacketField = 16 := rfl
  have hsize : BlockPosition.headerSize = 48 := rfl
  have hlt := mem.field_lt (block + Block.firstPacketField) 4
  simp (disch := omega) only [first, field_of_lt, add_of_lt, Option.bind_eq_bind, Option.bind_some]
  rfl

theorem nextPacket_eq (hp : p.packet + 2 ^ 33 ≤ 2 ^ 64) :
    nextPacket mem p = some (p.nextPacket mem) := by
  have hfield : nextOffsetField = 0 := rfl
  obtain ⟨-, hsnap, hdata, -⟩ := Region.fields_le_header .v3
  have hsize : (Version.layout .v3).headerSize = 48 := rfl
  have hlen := mem.field_lt (p.packet + (Version.layout .v3).snapLength) 4
  have hoff := mem.field_lt (p.packet + (Version.layout .v3).dataOffset) 2
  have hnext := p.nextPacket_lt mem
  unfold BlockPosition.nextPacket at hnext ⊢
  dsimp only at hnext ⊢
  simp (disch := omega) only [nextPacket, field_of_lt, add_of_lt, frameAlign_of_lt,
    Option.bind_eq_bind, Option.bind_some]
  split
  · next hd =>
    rw [if_pos hd] at hnext
    exact add_of_lt (by omega)
  · next hd =>
    rw [if_neg hd] at hnext
    exact add_of_lt (by omega)

theorem advance_eq (hp : p.packet + 2 ^ 33 ≤ 2 ^ 64) (hused : p.used < p.total)
    (htotal : p.total < 2 ^ 32) :
    advance mem (p.block + size) p = some (p.advance? mem size) := by
  have hnext := p.nextPacket_lt mem
  have hsize : BlockPosition.headerSize = 48 := rfl
  simp (disch := omega) only [advance, succ_of_lt, nextPacket_eq hp, add_of_lt,
    Option.bind_eq_bind, Option.bind_some]
  unfold BlockPosition.advance? BlockPosition.step
  by_cases hmore : p.total ≤ p.used + 1
  · simp [hmore]
  · by_cases hback : p.nextPacket mem ≤ p.packet
    · simp [hmore, hback]
    · by_cases hout : p.block + size < p.nextPacket mem + BlockPosition.headerSize
      · simp [hmore, hback, hout]
      · simp [hmore, hback, hout]

/-! ### Headers -/

theorem ofPosition_eq (hlimit : p.block + size < 2 ^ 64) :
    ofPosition size p = some (.ofPosition size p) := by
  simp [ofPosition, add_of_lt hlimit, Header.ofPosition]

theorem front_eq (hg : c.geometry.Small) (hi : c.index < c.round) :
    front c mem = some (c.header mem,
      if c.version = .v3 then some (.first mem c.base c.geometry.blockSize) else none) := by
  obtain ⟨hslot, hbase, -⟩ := hg.slot_le hi
  have hoffset : slotOffset c.geometry c.version c.index = some c.base :=
    slotOffset_eq hg (by change c.base < _; omega)
  unfold front
  rw [hoffset, blockSize_eq hg]
  unfold Cursor.header
  cases hv : c.version with
  | v1 | v2 =>
    rw [hv] at hslot
    change c.base + c.geometry.frameSize < _ at hslot
    simp (disch := omega) [add_of_lt, Header.atSlot, Header.ofFrame]
  | v3 =>
    rw [hv] at hslot
    change c.base + c.geometry.blockSize < _ at hslot
    have hblock : (BlockPosition.first mem c.base c.geometry.blockSize).block = c.base := rfl
    simp (disch := omega) [first_eq, ofPosition_eq, Header.atSlot]

theorem length_eq (h : hd.vacant = false → hd.record + 2 ^ 33 ≤ 2 ^ 64) :
    length mem hd = some (hd.length mem) := by
  obtain ⟨hlen, -⟩ := Region.fields_le_header hd.version
  have hsize := hd.version.headerSize_le
  unfold length Header.length Header.field
  cases hv : hd.vacant with
  | true => rfl
  | false =>
    have hrecord := h hv
    simp (disch := omega) [field_of_lt]

theorem span_eq (h : hd.record + 2 ^ 33 ≤ 2 ^ 64) : span mem hd = some (hd.span mem) := by
  obtain ⟨-, hsnap, hdata, -⟩ := Region.fields_le_header hd.version
  have hsize := hd.version.headerSize_le
  have hoff := mem.field_lt (hd.record + hd.version.layout.dataOffset) 2
  unfold span Header.span Header.field
  split
  · rfl
  · simp (disch := omega) only [field_of_lt, add_of_lt, Option.bind_eq_bind, Option.bind_some]
    rfl

theorem timestamp_eq (h : hd.record + 2 ^ 33 ≤ 2 ^ 64) :
    timestamp mem hd = some (hd.timestamp mem) := by
  obtain ⟨-, -, -, hsec, hfrac, -⟩ := Region.fields_le_header hd.version
  have hsize := hd.version.headerSize_le
  simp (disch := omega) only [timestamp, field_of_lt, Option.bind_eq_bind, Option.bind_some]
  rfl

theorem ifindex_eq (h : hd.record + 2 ^ 33 ≤ 2 ^ 64) :
    ifindex mem hd = some (hd.ifindex mem) := by
  obtain ⟨-, -, -, -, -, haddress⟩ := Region.fields_le_header hd.version
  have hsize := hd.version.headerSize_le
  have hfield : addressIfindex = 4 := rfl
  simp (disch := omega) only [ifindex, field_of_lt, Option.bind_eq_bind, Option.bind_some]
  rfl

theorem tag_some (mem : Region) (status i : Nat) : tag mem status (some i) =
    some (if hasBit status vlanValidBit then (mem.word? i 2).map VlanTag.mk else none) := by
  unfold tag
  split <;> rfl

theorem vlan?_eq (hslot : hd.slot + 2 ^ 33 ≤ 2 ^ 64)
    (hrecord : hd.record + 2 ^ 33 ≤ 2 ^ 64) : vlan? mem hd = some (hd.vlan? mem) := by
  have hstatus : packetStatusField = 20 := rfl
  obtain ⟨v, slot, record, limit, vacant⟩ := hd
  dsimp only at hslot hrecord
  cases v with
  | v1 => rfl
  | v2 =>
    simp (disch := omega) only [vlan?, slotStatus_eq, add_of_lt, Option.bind_eq_bind,
      Option.bind_some, tag_some]
    rfl
  | v3 =>
    simp (disch := omega) only [vlan?, field_of_lt, add_of_lt, Option.bind_eq_bind,
      Option.bind_some, tag_some]
    rfl

/-! ### Reads -/

theorem emit_eq (hslot : hd.slot + 2 ^ 33 ≤ 2 ^ 64) (hrecord : hd.record + 2 ^ 33 ≤ 2 ^ 64) :
    emit r k hd = some (r.emit k hd) := by
  have hframe : frame r.cursor k.memory hd = some (r.cursor.frame k.memory hd) := by
    simp [frame, span_eq hrecord, timestamp_eq hrecord, length_eq fun _ => hrecord,
      ifindex_eq hrecord, vlan?_eq hslot hrecord, Cursor.frame]
  simp [emit, hframe, Reader.emit]

theorem release_eq (hg : r.cursor.geometry.Small) (hi : r.cursor.index < r.cursor.round) :
    release r k = some (r.release k) := by
  obtain ⟨-, hbase, hindex⟩ := hg.slot_le hi
  obtain ⟨hslot, hversion⟩ := Header.slot_atSlot k.memory r.cursor.geometry r.cursor.version
    r.cursor.base
  have hnext : add r.cursor.index 1 = some (r.cursor.index + 1) := add_of_lt hindex
  cases hp : r.cursor.pendingRelease with
  | false => simp [release, Reader.release, hp]
  | true =>
    simp [release, Reader.release, hp, front_eq hg hi, Cursor.header, hslot, hversion,
      clearSlot_eq hbase, hnext, slots_eq hg, Cursor.moveOn, Cursor.round, Kernel.release]

theorem await_eq (r : Reader) (k : Kernel) (hslot : hd.slot = r.cursor.base)
    (hversion : hd.version = r.cursor.version) (hbase : r.cursor.base + 2 ^ 33 ≤ 2 ^ 64) :
    await hd r k = some (r.await k) := by
  have huser : isUserSlot k.memory hd.version hd.slot = some (r.cursor.isUser k.memory) := by
    rw [hslot, hversion, isUserSlot_eq hbase]
    rfl
  rw [await, huser]
  by_cases hu : r.cursor.isUser k.memory = true
  · rw [Reader.await_of_user hu]
    simp [hu]
  · cases hv : Reader.verdict (k.wait r.cursor.timeout).1 with
    | some e =>
      rw [Reader.await_of_stop hu hv]
      simp [hu, hv]
    | none =>
      have hlt : (k.wait r.cursor.timeout).2.script.length < k.script.length := by
        refine Kernel.script_wait_lt (fun h => ?_) (fun h => ?_) <;> rw [h] at hv <;> cases hv
      rw [Reader.await_of_retry hu hv]
      simp only [hu, hv, hlt, Option.bind_eq_bind, Option.bind_some, Bool.false_eq_true, ↓reduceIte]
      exact await_eq r.countPoll _ hslot hversion hbase
termination_by k.script.length

/-- The slot that is waited for is one of the ring's. -/
theorem index_await_lt (r : Reader) (k : Kernel) (hi : r.cursor.index < r.cursor.round) :
    let c := ((r.release k).1.await (r.release k).2).2.1.cursor
    c.geometry = r.cursor.geometry ∧ c.index < c.round := by
  rw [((r.release k).1.await_facts (r.release k).2).1]
  unfold Reader.release
  split
  · exact ⟨rfl, r.cursor.index_moveOn_lt⟩
  · exact ⟨rfl, hi⟩

theorem acquire_eq (hg : r.cursor.geometry.Small) (hi : r.cursor.index < r.cursor.round) :
    acquire r k = some ((r.release k).1.await (r.release k).2) := by
  obtain ⟨hgeometry, hi'⟩ := index_await_lt r k hi
  rw [((r.release k).1.await_facts (r.release k).2).1] at hgeometry hi'
  have hg' : (r.release k).1.cursor.geometry.Small := hgeometry ▸ hg
  obtain ⟨-, hbase, -⟩ := hg'.slot_le hi'
  obtain ⟨hslot, hversion⟩ := Header.slot_atSlot (r.release k).2.memory
    (r.release k).1.cursor.geometry (r.release k).1.cursor.version (r.release k).1.cursor.base
  simp only [acquire, release_eq hg hi, front_eq hg' hi', Option.bind_eq_bind, Option.bind_some]
  exact await_eq _ _ hslot hversion hbase

theorem claim_step (hg : r.cursor.geometry.Small) (hi : r.cursor.index < r.cursor.round) :
    claim r k =
      let waited := (r.release k).1.await (r.release k).2
      let mem := waited.2.2.memory
      let header := waited.2.1.cursor.header mem
      let taken := { waited.2.1 with cursor := waited.2.1.cursor.take mem }
      match waited.1 with
      | .error e => some (.error e, waited.2)
      | .ok () =>
        if header.length mem = 0 then claim taken waited.2.2
        else some (taken.emit waited.2.2 header) := by
  obtain ⟨hgeometry, hi'⟩ := index_await_lt r k hi
  have hless := Reader.claim_step_lt r k
  rw [claim.eq_def, acquire_eq hg hi]
  rw [← hgeometry] at hg
  generalize (r.release k).1.await (r.release k).2 = waited at hg hi' hless ⊢
  obtain ⟨outcome, r', k'⟩ := waited
  cases outcome with
  | error e => rfl
  | ok =>
    obtain ⟨-, hbase, -⟩ := hg.slot_le hi'
    have hrecord := hg.front_le hi' k'.memory
    simp only [front_eq hg hi', Option.bind_eq_bind, Option.bind_some, length_eq hrecord]
    by_cases hl : (r'.cursor.header k'.memory).length k'.memory = 0
    · have htaken : r'.cursor.take k'.memory =
          { r'.cursor with pendingRelease := true, phase := .needHeader } := if_pos hl
      have hless := hless rfl
      dsimp only at hless
      rw [htaken] at hless
      rw [if_pos hl, if_pos hl, htaken]
      exact if_pos hless
    · have hv : (r'.cursor.header k'.memory).vacant = false := by
        by_contra hv
        exact hl (if_pos (by simpa using hv))
      have hslot : (r'.cursor.header k'.memory).slot = r'.cursor.base := (Header.slot_atSlot ..).1
      rw [if_neg hl, if_neg hl, Cursor.take_of_length_ne hl]
      exact emit_eq (hslot ▸ hbase) (hrecord hv)

theorem claim_eq (hg : r.cursor.geometry.Small) (hi : r.cursor.index < r.cursor.round) :
    claim r k = some (r.claim k) := by
  fun_induction Reader.claim r k with
  | case1 r k freed waited e hw =>
    have hw' : ((r.release k).1.await (r.release k).2).1 = _ := hw
    simp only [claim_step hg hi, hw']
    rfl
  | case2 r k freed waited hw mem header taken hz ih =>
    have hw' : ((r.release k).1.await (r.release k).2).1 = _ := hw
    obtain ⟨hgeometry, hi'⟩ := index_await_lt r k hi
    obtain ⟨-, htaken, hindex, -⟩ := waited.2.1.cursor.version_take mem
    simp only [claim_step hg hi, hw']
    refine (if_pos hz).trans (ih ?_ ?_)
    · exact htaken ▸ hgeometry ▸ hg
    · change (waited.2.1.cursor.take mem).index < (waited.2.1.cursor.take mem).round
      rw [hindex, Cursor.round_take]
      exact hi'
  | case3 r k freed waited hw mem header taken hz =>
    have hw' : ((r.release k).1.await (r.release k).2).1 = _ := hw
    simp only [claim_step hg hi, hw']
    exact if_neg hz

theorem walk_eq (hw : c.Walkable) (hg : c.geometry.Small) (hi : c.index < c.round) :
    walk c mem = some (c.walk mem) := by
  by_cases hph : c.phase = .haveHeader
  · cases hb : c.block with
    | none => simp [walk, Cursor.walk, hph, hb]
    | some p =>
      obtain ⟨hv, hin⟩ := hw.within p hb
      obtain ⟨-, hpacket, hlimit⟩ := hg.record_le hi hv hin.block hin.high
      have hadvance : advance mem (p.block + c.geometry.blockSize) p =
          some (p.advance? mem c.geometry.blockSize) :=
        advance_eq hpacket hin.used (hw.total p hb)
      unfold walk
      rw [hph, hb]
      simp only [blockSize_eq hg, add_of_lt hlimit, hadvance, Option.bind_eq_bind,
        Option.bind_some]
      cases hq : p.advance? mem c.geometry.blockSize with
      | none =>
        rw [Cursor.walk_of_end hph hb hq]
        simp [hb]
      | some q =>
        have hlimit' : q.block + c.geometry.blockSize < 2 ^ 64 :=
          (BlockPosition.advance?_bounds hq).1 ▸ hlimit
        rw [Cursor.walk_of_advance hph hb hq]
        simp [ofPosition_eq hlimit', hph]
  · rw [Cursor.walk_of_phase_ne hph]
    unfold walk
    split
    · next hp _ => exact absurd hp hph
    · next hp _ => exact absurd hp hph
    · rfl

/-- A read with checked sums comes to what it does without checks. -/
theorem next_eq (hw : r.cursor.Walkable) (hg : r.cursor.geometry.Small)
    (hi : r.cursor.index < r.cursor.round) : next r k = some (r.next k) := by
  unfold next
  rw [walk_eq hw hg hi]
  cases hfound : (r.cursor.walk k.memory).2 with
  | none =>
    obtain ⟨hversion, hgeometry, hindex, -⟩ := r.cursor.slot_walk k.memory
    rw [Reader.next_of_walk_none hfound]
    simp only [Option.bind_eq_bind, Option.bind_some, hfound]
    refine claim_eq (hgeometry ▸ hg) ?_
    change (r.cursor.walk k.memory).1.index < _
    unfold Cursor.round
    rw [hindex, hgeometry, hversion]
    exact hi
  | some hd =>
    obtain ⟨p, q, hb, hq, he⟩ := Cursor.walk_eq_some hfound
    obtain ⟨hv, hin⟩ := hw.within p hb
    obtain ⟨hblock, -, -, -, -, hhigh⟩ := BlockPosition.advance?_bounds hq
    obtain ⟨hslot, hrecord, -⟩ :=
      hg.record_le hi hv (hblock.trans hin.block) (hin.block ▸ hhigh)
    rw [Reader.next_of_walk_some hfound]
    simp only [Option.bind_eq_bind, Option.bind_some, hfound]
    rw [he] at hfound
    cases hfound
    exact emit_eq hslot hrecord

end Machine

/-! ## Reachable cursors -/

namespace Cursor

variable {c : Cursor} {mem : Region}

theorem counted_first (mem : Region) (block blockSize : Nat) :
    (BlockPosition.first mem block blockSize).total < 2 ^ 32 := by
  have hlt := mem.field_lt (block + Block.packetCountField) 4
  unfold BlockPosition.first
  dsimp only
  split <;> omega

theorem Counted.take (h : c.Counted) (mem : Region) : (c.take mem).Counted := by
  unfold Cursor.take
  split
  · exact h
  · split
    · rintro p ⟨⟩
      exact counted_first ..
    · nofun

theorem Counted.walk (h : c.Counted) (mem : Region) : (c.walk mem).1.Counted := by
  unfold Cursor.walk
  split
  · next p hp hb =>
    split
    · next q hq =>
      rintro q' ⟨⟩
      rw [(BlockPosition.advance?_bounds hq).2.1]
      exact h p hb
    · exact h
  · exact h
  · exact h

end Cursor

namespace Reader

variable {r : Reader} {k : Kernel}

theorem counted_release (h : r.cursor.Counted) : (r.release k).1.cursor.Counted := by
  unfold release
  split
  · nofun
  · exact h

theorem counted_claim (h : r.cursor.Counted) : (r.claim k).2.1.cursor.Counted := by
  induction r, k using claim_induct with
  | packet r k hu hl =>
    rw [claim_of_packet hu hl]
    exact (counted_release h).take _
  | empty r k hu hl ih =>
    rw [claim_of_empty hu hl]
    exact ih ((counted_release h).take _)
  | retry r k hu hv ih =>
    rw [claim_of_retry hu hv]
    exact ih (counted_release h)
  | stop r k e hu hv =>
    rw [claim_of_stop hu hv]
    exact counted_release h

theorem counted_next (h : r.cursor.Counted) : (r.next k).2.1.cursor.Counted := by
  cases hw : (r.cursor.walk k.memory).2 with
  | some hd =>
    rw [next_of_walk_some hw]
    exact h.walk _
  | none =>
    rw [next_of_walk_none hw]
    exact counted_claim (h.walk _)

theorem Reached.walkable {c : Cursor} (h : Reached c r) : r.cursor.Walkable := by
  have hcounted : r.cursor.Counted := by
    induction h with
    | start => nofun
    | next k _ ih => exact counted_next ih
  refine ⟨fun p hb => ?_, hcounted⟩
  rcases h.settled.2 with hfree | hholding
  · rw [hfree.block] at hb
    cases hb
  · exact hholding.block p hb

/-- A reader that reads have come to reads on in words, where the sizes of its ring are words. -/
theorem Reached.next_eq {c : Cursor} (h : Reached c r) (hg : c.geometry.Small) (k : Kernel) :
    Machine.next r k = some (r.next k) := by
  rw [← Cursor.geometry_of_start h.settled.1] at hg
  exact Machine.next_eq h.walkable hg h.index_lt

end Reader

/-- **No read computes an address that a word of 64 bits does not hold.** Options have passed their
check, and reads have brought the reader to where it is, whatever was in memory at each. Then the
next one, whatever is in memory and whatever the kernel does while it waits, comes to the same with
every sum and product checked as without: none of them exceeds a word, and the count of records in a
block none of 32 bits. -/
theorem reads_fit_words {o : Options} {pageSize : Nat} (ho : o.check pageSize = .ok ())
    (ifindex : Int) (v : Version) {r : Reader}
    (hr : Reader.Reached (opened o ifindex v).reader.cursor r) (k : Kernel) :
    Machine.next r k = some (r.next k) := by
  have hsmall : o.geometry.Small := (Options.check_eq_ok_iff.1 ho).small
  exact hr.next_eq hsmall k

/-- A kernel with the largest ring. Its first block announces as many records as a word can count,
and its first record gives the longest distance to the next. -/
def farRecord : Kernel where
  mapping := some ((Region.zeroed Handle.largest.geometry.mappingSize).stored
    [⟨statusOffset .v3 0, toLE 4 userBit⟩, ⟨Block.packetCountField, toLE 4 4294967295⟩,
      ⟨Block.firstPacketField, toLE 4 48⟩, ⟨48 + nextOffsetField, toLE 4 4294967295⟩,
      ⟨48 + (Version.layout .v3).length, toLE 4 60⟩])

/-- The read after the one that returned the record walks on from there. -/
theorem reads_fit_words_farRecord :
    let r := ((opened Handle.largest 2 .v3).reader.next farRecord).2.1
    Handle.largest.check 4096 = .ok () ∧
      Reader.Reached (opened Handle.largest 2 .v3).reader.cursor r ∧
      Machine.next r farRecord = some (r.next farRecord) := by
  intro r
  have hcheck : Handle.largest.check 4096 = .ok () := by decide
  have hr : Reader.Reached (opened Handle.largest 2 .v3).reader.cursor r := .next farRecord .start
  exact ⟨hcheck, hr, reads_fit_words hcheck 2 .v3 hr farRecord⟩

end PacketRing
