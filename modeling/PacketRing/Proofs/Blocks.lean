import Mathlib
import PacketRing.Proofs.Checking
import PacketRing.Proofs.Delivery

/-!
# Rings of blocks

In a v3 ring a slot is a block with a list of packet records.

* `Laid mem block blockSize offsets` : the records of a block begin at certain offsets, each giving
  the distance to the next (`Linked`);
* `trail_of_linked` : a walk through such a block visits these records;
* `BlockHandover` : the kernel lays records out in a block of its own;
* `blocks_delivered` : every packet of every block is returned once, in the order of the handovers,
  and a block with packets goes back after the read that returned its last one, and with the next.
-/

namespace PacketRing

/-! ## Records in a block -/

/-- The record at offset `o` of a block gives the distance to the one at `o'`: in so many words, or
by giving none where that one follows right behind its bytes. -/
def Linked (mem : Region) (block o o' : Nat) : Prop :=
  mem.field (block + o + nextOffsetField) 4 = o' - o ∨
    mem.field (block + o + nextOffsetField) 4 = 0 ∧
      o' = o + frameAlign (mem.field (block + o + (Version.layout .v3).snapLength) 4 +
        mem.field (block + o + (Version.layout .v3).dataOffset) 2)

/-- The records of a block begin at `offsets`, behind the descriptor and in order, each in the block
with its address and with a packet of some length. -/
structure Laid (mem : Region) (block blockSize : Nat) (offsets : List Nat) : Prop where
  count : mem.field (block + Block.packetCountField) 4 = offsets.length
  first : ∀ o ∈ offsets.head?, mem.field (block + Block.firstPacketField) 4 = o
  ordered : offsets.Pairwise (· < ·)
  inside : ∀ o ∈ offsets, abiSizes.blockDescriptor ≤ o ∧
    o + BlockPosition.headerSize + abiSizes.address ≤ blockSize
  length : ∀ o ∈ offsets, mem.field (block + o + (Version.layout .v3).length) 4 ≠ 0
  linked : offsets.IsChain (Linked mem block)

def recordAt (block blockSize o : Nat) : Header :=
  ⟨.v3, block, block + o, block + blockSize, false⟩

variable {mem : Region} {block blockSize o o' used total : Nat} {offsets : List Nat}

theorem advance?_of_linked (hlink : Linked mem block o o') (hlt : o < o')
    (hin : o' + BlockPosition.headerSize ≤ blockSize) (hused : used + 1 < total) :
    BlockPosition.advance? mem blockSize ⟨block, block + o, used, total⟩ =
      some ⟨block, block + o', used + 1, total⟩ := by
  have hnext : BlockPosition.nextPacket mem ⟨block, block + o, used, total⟩ = block + o' := by
    unfold BlockPosition.nextPacket
    rcases hlink with hd | ⟨hz, ho⟩
    · dsimp only
      rw [hd, if_pos (by omega)]
      omega
    · dsimp only
      rw [hz, if_neg (by omega), ho, Nat.add_assoc]
  unfold BlockPosition.advance? BlockPosition.step
  rw [hnext, if_neg (show ¬ total ≤ used + 1 by omega), if_neg (show ¬ (block + o' ≤ block + o ∨
    block + blockSize < block + o' + BlockPosition.headerSize) by omega)]
  rfl

theorem trail_of_linked (rest : List Nat) (hlink : (o :: rest).IsChain (Linked mem block))
    (hlt : (o :: rest).IsChain (· < ·))
    (hin : ∀ o' ∈ rest, o' + BlockPosition.headerSize ≤ blockSize)
    (htotal : total = used + rest.length + 1) :
    (BlockPosition.trail mem blockSize ⟨block, block + o, used, total⟩).map
        (Header.ofPosition blockSize) =
      (o :: rest).map (recordAt block blockSize) := by
  have hview : Header.ofPosition blockSize ⟨block, block + o, used, total⟩ =
      recordAt block blockSize o := by
    unfold Header.ofPosition recordAt
    rw [beq_false_of_ne (show total ≠ 0 by omega)]
  induction rest generalizing o used with
  | nil =>
    have hend : BlockPosition.advance? mem blockSize ⟨block, block + o, used, total⟩ = none := by
      unfold BlockPosition.advance? BlockPosition.step
      rw [if_pos (show total ≤ used + 1 by rw [htotal]; exact Nat.le_refl _)]
      rfl
    rw [BlockPosition.trail_of_end hend, List.map_singleton, List.map_singleton, hview]
  | cons o' rest ih =>
    obtain ⟨hlo, hlink⟩ := List.isChain_cons_cons.1 hlink
    obtain ⟨hoo', hlt⟩ := List.isChain_cons_cons.1 hlt
    rw [List.length_cons] at htotal
    rw [BlockPosition.trail_of_advance (advance?_of_linked hlo hoo' (hin o' List.mem_cons_self)
      (by omega)), List.map_cons, hview, List.map_cons]
    congr 1
    refine ih hlink hlt (fun x hx => hin x (List.mem_cons_of_mem _ hx)) (by omega) ?_
    unfold Header.ofPosition recordAt
    rw [beq_false_of_ne (show total ≠ 0 by omega)]

theorem first_of_laid {rest : List Nat} (h : Laid mem block blockSize (o :: rest)) :
    BlockPosition.first mem block blockSize = ⟨block, block + o, 0, rest.length + 1⟩ := by
  have hroom := (h.inside o List.mem_cons_self).2
  unfold BlockPosition.first
  rw [h.first o rfl, h.count]
  dsimp only
  rw [if_pos (by omega), List.length_cons]

/-! ## Handing a block over -/

/-- The kernel lays records out in block `i`. -/
def BlockHandover (c : Cursor) : Handover := fun i mem mem' fs =>
  Fills c i mem mem' ∧ ∃ offsets, Laid mem' (c.offset i) c.geometry.blockSize offsets ∧
    fs = offsets.map fun o => c.frame mem' (recordAt (c.offset i) c.geometry.blockSize o)

section Handing
variable {c : Cursor} {i : Nat}

theorem front_block (hv : c.version = .v3) (mem : Region) (i : Nat) :
    c.front mem i =
      .ofPosition c.geometry.blockSize (.first mem (c.offset i) c.geometry.blockSize) := by
  unfold Cursor.front Cursor.offset
  rw [hv]
  rfl

theorem records_block (hv : c.version = .v3) (mem : Region) (i : Nat) :
    c.records mem i =
      ((BlockPosition.first mem (c.offset i) c.geometry.blockSize).trail mem
        c.geometry.blockSize).map (Header.ofPosition c.geometry.blockSize) := by
  unfold Cursor.records Cursor.offset
  rw [hv]

theorem Laid.records_eq (h : Laid mem (c.offset i) c.geometry.blockSize (o :: offsets))
    (hv : c.version = .v3) :
    c.records mem i = (o :: offsets).map (recordAt (c.offset i) c.geometry.blockSize) := by
  rw [records_block hv, first_of_laid h]
  refine trail_of_linked offsets h.linked h.ordered.isChain (fun x hx => ?_) (Nat.zero_add _).symm
  exact (Nat.le_add_right _ _).trans (h.inside x (List.mem_cons_of_mem _ hx)).2

theorem Laid.inside_contents (h : Laid mem (c.offset i) c.geometry.blockSize offsets)
    (hv : c.version = .v3) :
    c.Inside mem i ∧ c.contents mem i =
      offsets.map fun o => c.frame mem (recordAt (c.offset i) c.geometry.blockSize o) := by
  cases offsets with
  | nil =>
    have hvacant : (c.front mem i).vacant = true := by
      rw [front_block hv]
      unfold Header.ofPosition BlockPosition.first
      rw [h.count]
      dsimp only
      rw [List.length_nil, ite_self]
      rfl
    exact ⟨Or.inl hvacant, Cursor.contents_of_vacant hvacant⟩
  | cons o rest =>
    have hrec := h.records_eq hv
    have hfront : c.front mem i = recordAt (c.offset i) c.geometry.blockSize o := by
      rw [c.records_eq_cons, List.map_cons] at hrec
      exact (List.cons.inj hrec).1
    have hlen : (c.front mem i).length mem ≠ 0 := by
      rw [hfront]
      exact h.length o List.mem_cons_self
    refine ⟨Or.inr fun hd hhd => ?_, ?_⟩
    · rw [hrec] at hhd
      obtain ⟨x, hx, rfl⟩ := List.mem_map.1 hhd
      obtain ⟨hlow, hhigh⟩ := h.inside x hx
      rw [hv, Cursor.offset_succ_of_v3 hv]
      refine ⟨rfl, rfl, Nat.le_add_right _ _, ?_⟩
      show c.offset i + x + 48 + 8 ≤ c.offset i + c.geometry.blockSize
      change x + 48 + 20 ≤ c.geometry.blockSize at hhigh
      omega
    · unfold Cursor.contents
      rw [if_neg hlen, hrec, List.map_map]
      rfl

theorem feeds_blocks (ha : c.Aligned) (hv : c.version = .v3) : Feeds (BlockHandover c) c id where
  fills := And.left
  owned := by
    rintro i mem mem' fs ⟨hfill, offsets, hlaid, rfl⟩ hi hm
    obtain ⟨hin, hcontents⟩ := hlaid.inside_contents hv
    exact ⟨hfill.isUser ha hm hi, hin, hcontents⟩

theorem aligned_blocks {op : Options} {pageSize : Nat} (hcheck : op.check pageSize = .ok ())
    (h16 : op.blockSize % 16 = 0) (hv : c.version = .v3) (hg : c.geometry = op.geometry) :
    c.Aligned := by
  obtain ⟨-, hblock, -, hnum⟩ := Options.of_check hcheck
  have hsize : c.geometry.slotSize c.version = op.blockSize := by
    rw [hv, hg]
    exact Options.blockSize_of_check hcheck
  refine ⟨?_, ?_, ?_⟩
  · rw [hv, hg]
    exact hnum
  · rw [hsize]
    exact hblock
  · rw [hsize]
    exact h16

end Handing

/-! ## Delivery -/

/-- At any point of any run, what was returned, followed by what is left in the block that the
reader holds and in the blocks behind it, is what was handed over. And at any stage of a read, a
block with packets is the kernel's again, or was even filled again, just when its packets and those
of all blocks before it were returned by earlier reads. -/
theorem blocks_delivered {op : Options} {pageSize : Nat} (c : Cursor)
    (hcheck : op.check pageSize = .ok ()) (h16 : op.blockSize % 16 = 0) (hv : c.version = .v3)
    (hg : c.geometry = op.geometry) :
    (∀ cu mem l, Moment (BlockHandover c) c cu mem l →
      l.returned ++ cu.unread mem = l.handed.flatten) ∧
    ∀ r mem k ls, Run (BlockHandover c) c r mem (ls 0) → k.mapping = some mem →
      Lawful (BlockHandover c) op.numBlocks r.next k ls →
      ∀ cu mem' l, Stage r.next k ls cu mem' l → ∀ n fs, l.handed[n]? = some fs → fs ≠ [] →
        (n + op.numBlocks < l.handed.length ∨
            isUserSlot mem' .v3 (op.geometry.slotOffset .v3 (n % op.numBlocks)) = false ↔
          (l.handed.take (n + 1)).flatten <+: (ls 0).returned) := by
  have ha := aligned_blocks hcheck h16 hv hg
  have hf := feeds_blocks ha hv
  constructor
  · intro cu mem l hmoment
    rw [hmoment.unread_eq ha hf, List.map_id]
  · intro r mem k ls hrun hm hlaw cu mem' l hstage n fs hn hfs
    have hslots : c.geometry.slots c.version = op.numBlocks := by
      rw [hv, hg]
      rfl
    rw [← hslots] at hlaw
    have hdrained := hrun.leaves ha hf hm hlaw cu mem' l hstage
    have hs := hrun.start_of_stage ha hf hstage
    have hcv : cu.version = .v3 := (congrArg Cursor.version hs).trans hv
    have hcg : cu.geometry = op.geometry := (congrArg Cursor.geometry hs).trans hg
    have hround : cu.round = op.numBlocks := by
      rw [Cursor.round_of_start hs, ha.round_eq, hslots]
    rw [← List.map_id l.handed] at hn
    have hback := hdrained.back_iff hn hfs
    rw [List.map_id, hround, hcv] at hback
    unfold Cursor.offset at hback
    rw [hcv, hcg] at hback
    exact hback

/-! ### A ring of two blocks -/

def twoBlockOptions : Options where
  frameSize := 256
  blockSize := 256
  numBlocks := 2

def twoBlocks : Cursor where
  version := .v3
  geometry := twoBlockOptions.geometry
  snapLength := 0
  timeout := 0

/-- A block with records at 48 and 144. The first gives no distance to the second, which follows
right behind its 80 + 4 bytes. -/
def twoRecords : List Store :=
  [⟨8, [1, 0, 0, 0, 2, 0, 0, 0, 48]⟩, ⟨60, [4, 0, 0, 0, 60, 0, 0, 0, 0, 0, 0, 0, 80]⟩,
    ⟨156, [4, 0, 0, 0, 42, 0, 0, 0, 0, 0, 0, 0, 80]⟩]

def twoRecordsPolled : Kernel where
  mapping := some (.zeroed 512)
  script := [{ writes := twoRecords }]

def twoPackets : List Frame :=
  [(128, 60), (224, 42)].map fun (offset, length) =>
    { offset, size := 4
      info :=
        { timestamp := .ofEpoch 0 0, captureLength := 4, length, ifindex := 0, vlan := none } }

theorem laid_twoRecords : Laid ((Region.zeroed 512).stored twoRecords) 0 256 [48, 144] where
  count := by decide +kernel
  first := by
    rintro o ⟨⟩
    decide +kernel
  ordered := by decide
  inside := by decide
  length := by decide +kernel
  linked := List.isChain_cons_cons.2
    ⟨Or.inr ⟨by decide +kernel, by decide +kernel⟩, List.isChain_singleton _⟩

theorem handover_twoRecords : BlockHandover twoBlocks 0 (.zeroed 512)
    ((Region.zeroed 512).stored twoRecords) twoPackets := by
  refine ⟨⟨by decide +kernel, (Region.size_stored ..).symm, fun x _ hx => ?_, by decide +kernel⟩,
    [48, 144], laid_twoRecords, by decide +kernel⟩
  refine (Region.byte_stored_of_disjoint _ ?_).symm
  change x < 0 ∨ 256 ≤ x at hx
  simp only [twoRecords, List.forall_mem_cons, List.length_cons, List.length_nil]
  refine ⟨?_, ?_, ?_, nofun⟩ <;> omega

/-- The block is handed over in the middle of a read, which returns the first of its packets. -/
theorem blocks_delivered_twoBlocks :
    ∃ cu mem l, Moment (BlockHandover twoBlocks) twoBlocks cu mem l ∧
      l.returned = twoPackets.take 1 ∧ l.returned ++ cu.unread mem = twoPackets := by
  obtain ⟨hpolled, hfound, hnext⟩ :=
    Reader.next_of_first_poll (r := { cursor := twoBlocks.start }) (k := twoRecordsPolled) rfl rfl
      (by decide +kernel) rfl (by decide +kernel) (by decide +kernel)
  have hrun := run_of_first_poll (H := BlockHandover twoBlocks) (s := { writes := twoRecords })
    rfl rfl hpolled hfound handover_twoRecords
  obtain ⟨hall, -⟩ :=
    @blocks_delivered twoBlockOptions 64 twoBlocks (by decide) (by decide) rfl rfl
  refine ⟨_, _, _, .between hrun, ?_, (hall _ _ _ (.between hrun)).trans ?_⟩
  · rw [hnext]
    decide +kernel
  · rw [Ledger.handed_note]
    exact List.flatten_singleton

end PacketRing
