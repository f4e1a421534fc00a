import Mathlib
import PacketRing.Proofs.Blocks
import PacketRing.Proofs.RecordsReturned
import PacketRing.Proofs.Releases

/-!
# Corrupt blocks

What reads do with a block of which they take nothing on trust. From the look that takes it to the
read that gives it back, all that the block says may be wrong, and may change from one read to the
next.

* `BlockPosition.advance?_eq_none_iff` : when a walk through a block ends;
* `Reader.Walks` : the records that reads return of a block, in order, in the block, and no more
  than it announced when it was taken;
* `Reader.HandsBack` : a read gives a block back, once, and moves to the next;
* `Reader.walks_after` : reads that do not give the block back walk through it;
* `Reader.block_walk_contained` : a block, from its look to its release.
-/

namespace PacketRing

namespace BlockPosition

variable {mem : Region} {blockSize : Nat} {p : BlockPosition}

theorem advance?_eq_none_iff (p : BlockPosition) (mem : Region) (blockSize : Nat) :
    p.advance? mem blockSize = none ↔
      p.total ≤ p.used + 1 ∨ p.nextPacket mem ≤ p.packet ∨
        p.block + blockSize < p.nextPacket mem + headerSize := by
  unfold advance? step
  by_cases htotal : p.total ≤ p.used + 1
  · simp [htotal]
  · by_cases hnext : p.nextPacket mem ≤ p.packet ∨
        p.block + blockSize < p.nextPacket mem + headerSize
    · simp [htotal, hnext]
    · simp [htotal, hnext]

theorem packet_of_advance {q : BlockPosition} (h : p.advance? mem blockSize = some q) :
    q.packet = p.nextPacket mem := by
  unfold advance? step at h
  dsimp only at h
  split at h
  · cases h
  · split at h
    · cases h
    · cases h
      rfl

/-- A first record that does not fit leaves the block empty. -/
theorem total_first (mem : Region) (base blockSize : Nat) :
    (first mem base blockSize).total =
      if (first mem base blockSize).packet + headerSize ≤ base + blockSize then
        mem.field (base + Block.packetCountField) 4
      else 0 := rfl

end BlockPosition

namespace Cursor

variable {c : Cursor} {mem : Region} {i : Nat}

theorem length_front_of_vacant (hv : c.version = .v3)
    (h : (BlockPosition.first mem (c.offset i) c.geometry.blockSize).total = 0) :
    (c.front mem i).length mem = 0 := by
  rw [front_block hv]
  unfold Header.length Header.ofPosition
  rw [h]
  rfl

end Cursor

namespace Reader

variable {r : Reader} {k : Kernel} {l : Look} {before after : List Look} {p q : BlockPosition}
  {c₀ : Cursor}

/-- Reads return the records `ps` of the block that was taken at the look `l`: the first one, and
each time the next one, as the read finds it. -/
structure Walks (c : Cursor) (l : Look) (ps : List BlockPosition)
    (reads : List (Region × Except CaptureError Frame)) : Prop where
  first : ps.head? = some (.first l.memory (c.offset l.slot) c.geometry.blockSize)
  returns : List.Forall₂ c.Returns ps reads
  linked : (ps.zip reads).IsChain fun x y => y.1.packet = x.1.nextPacket y.2.1
  ordered : ps.Pairwise (·.packet < ·.packet)
  inside : ∀ p ∈ ps, c.offset l.slot ≤ p.packet ∧
    p.packet + BlockPosition.headerSize ≤ c.offset l.slot + c.geometry.blockSize
  count : ps.length ≤ l.memory.field (c.offset l.slot + Block.packetCountField) 4

/-- A read begins by giving slot `i` back and moving to the next. It gives no slot back besides but
those that it finds without a packet. -/
structure HandsBack (r : Reader) (k : Kernel) (i : Nat) : Prop where
  look : ∃ l rest, r.looks k = l :: rest ∧ l.released = some i ∧
    l.slot = (i + 1) % r.cursor.round ∧
    l.memory = clearSlot k.memory r.cursor.version (r.cursor.offset i)
  once : r.released k = i :: (r.skipped k).map (·.slot)
  looked : Looked r k

/-! ## Taking a block -/

/-- A slot of the reader's with a packet is the last that a read looks at. -/
theorem last_of_not_passes (h : r.looks k = before ++ l :: after) (ha : l.answer = none)
    (hp : ¬ l.Passes r.cursor) : after = [] := by
  cases after with
  | nil => rfl
  | cons l' rest =>
    cases follows_of_looks h with
    | passed hp' => exact absurd hp' hp
    | again ha' =>
      rw [ha] at ha'
      cases ha'

/-- A slot without a packet goes back before the next look, which there is. -/
theorem follows_of_passes (h : r.looks k = before ++ l :: after) (hp : l.Passes r.cursor) :
    ∃ l' rest, after = l' :: rest ∧ l'.released = some l.slot ∧
      l'.slot = (l.slot + 1) % r.cursor.round ∧
      l'.memory = clearSlot l.memory r.cursor.version (r.cursor.offset l.slot) := by
  cases after with
  | nil => exact absurd hp (next_of_last_look h).1.not_passes
  | cons l' rest =>
    cases follows_of_looks h with
    | passed _ hreleased hslot hmemory => exact ⟨l', rest, rfl, hreleased, hslot, hmemory⟩
    | again ha =>
      obtain ⟨hn, -⟩ := hp
      rw [ha] at hn
      cases hn

/-- The reader that takes a block stands on its first record. -/
theorem standing_of_ends {result : Except CaptureError Frame × Reader × Kernel}
    (h : Ends r k result) (hw : (r.cursor.walk k.memory).2 = none) (hv : r.cursor.version = .v3)
    (ha : (r.look k).answer = none) :
    Cursor.Standing { r.cursor with index := (r.look k).slot }
      (.first (r.look k).memory (r.cursor.offset (r.look k).slot) r.cursor.geometry.blockSize)
      result.2.1.cursor := by
  cases h with
  | record hs => rw [hs] at hw; cases hw
  | stopped _ hu =>
    rw [(look_of_kernel hu).1] at ha
    cases ha
  | packet _ hu hl =>
    have hs := start_facing r k
    have htaken := Cursor.standing_take (atBlock_facing hw hv hu) hl
    have hbase : (r.facing k).1.cursor.base = r.cursor.offset (r.look k).slot := by
      show (r.facing k).1.cursor.offset _ = _
      rw [Cursor.offset_of_start hs]
      rfl
    rw [hbase, Cursor.geometry_of_start hs] at htaken
    exact ⟨htaken.start.trans hs, htaken.index, htaken.pendingRelease, htaken.phase, htaken.block⟩

theorem standing_of_last (h : r.looks k = before ++ [l]) (hv : r.cursor.version = .v3)
    (ha : l.answer = none) :
    Cursor.Standing { r.cursor with index := l.slot }
      (.first l.memory (r.cursor.offset l.slot) r.cursor.geometry.blockSize)
      (r.next k).2.1.cursor := by
  obtain ⟨r', k', hturns, hw, rfl, hlast⟩ := exists_of_looks h
  have hs : r'.cursor.start = r.cursor.start := start_of_turns hturns
  have hnext : r.next k = r'.next k' := next_eq_of_turns hturns
  have hstanding := standing_of_ends (ends_of_looks_eq hlast) hw
    ((Cursor.version_of_start hs).trans hv) ha
  rw [Cursor.offset_of_start hs, Cursor.geometry_of_start hs] at hstanding
  rw [hnext]
  exact ⟨hstanding.start.trans hs, hstanding.index, hstanding.pendingRelease, hstanding.phase,
    hstanding.block⟩

/-! ## Walking through it -/

/-- A reader on a record that another follows returns that one, and does nothing else. -/
theorem walks_on (h : Cursor.Standing c₀ p r.cursor)
    (hq : p.advance? k.memory c₀.geometry.blockSize = some q) :
    r.looks k = [] ∧ (r.next k).2.2 = k ∧ c₀.Returns q (k.memory, (r.next k).1) ∧
      Cursor.Standing c₀ q (r.next k).2.1.cursor := by
  rw [← h.geometry] at hq
  have hwalk := Cursor.walk_of_advance h.phase h.block hq
  have hnext := next_advance h hq
  refine ⟨looks_of_walk_some (by rw [hwalk]), ?_, ?_, ?_⟩
  · rw [hnext]
    rfl
  · rw [hnext]
    show Except.ok (r.cursor.frame _ _) = .ok (c₀.frame _ _)
    rw [Cursor.frame_of_start h.start, h.geometry]
  · rw [hnext]
    exact ⟨h.start, h.index, h.pendingRelease, h.phase, rfl⟩

/-- A reader on a record that none follows gives the block back. -/
theorem hands_back (h : Cursor.Standing c₀ p r.cursor)
    (hq : p.advance? k.memory c₀.geometry.blockSize = none) : HandsBack r k c₀.index := by
  rw [← h.geometry] at hq
  have hwalk := Cursor.walk_of_end h.phase h.block hq
  have hnone : (r.cursor.walk k.memory).2 = none := by rw [hwalk]
  obtain ⟨rest, hlooks⟩ := looks_of_walk_none hnone
  have hslot := slot_look r k
  have hmemory := memory_look r k
  have hreleased : (r.look k).released = some c₀.index := by
    show (if r.cursor.pendingRelease then some r.cursor.index else none) = _
    rw [h.pendingRelease, h.index]
    rfl
  unfold Look.freed at hmemory
  rw [hreleased] at hmemory
  rw [h.pendingRelease, if_pos rfl, h.index] at hslot
  refine ⟨⟨_, rest, hlooks, hreleased, hslot, hmemory⟩, ?_, looked r k⟩
  rw [released_eq hnone, Cursor.held, h.pendingRelease, h.index]
  rfl

/-- The reader `c'` has come to the record at `p` of the block taken at the look `l`, after the
records `ps`. -/
structure Arrived (c : Cursor) (l : Look) (ps : List BlockPosition) (p : BlockPosition)
    (reads : List (Region × Except CaptureError Frame)) (c' : Cursor) : Prop where
  walks : Walks c l (ps ++ [p]) reads
  standing : Cursor.Standing { c with index := l.slot } p c'
  block : p.block = c.offset l.slot
  used : p.used = ps.length
  total : p.total = l.memory.field (c.offset l.slot + Block.packetCountField) 4

variable {c : Cursor} {ps : List BlockPosition}
  {reads : List (Region × Except CaptureError Frame)}

theorem arrived_first (h : r.looks k = before ++ [l]) (hv : r.cursor.version = .v3)
    (ha : l.answer = none) :
    Arrived r.cursor l [] (.first l.memory (r.cursor.offset l.slot) r.cursor.geometry.blockSize)
      [(l.memory, (r.next k).1)] (r.next k).2.1.cursor := by
  obtain ⟨hconcludes, -, -⟩ := next_of_last_look h
  have hstanding := standing_of_last h hv ha
  generalize (r.next k).1 = result at hconcludes ⊢
  cases hconcludes with
  | stopped ha' =>
    rw [ha] at ha'
    cases ha'
  | packet _ hl =>
    have htotal : (BlockPosition.first l.memory (r.cursor.offset l.slot)
        r.cursor.geometry.blockSize).total ≠ 0 :=
      fun hz => hl (Cursor.length_front_of_vacant hv hz)
    have hcount := BlockPosition.total_first l.memory (r.cursor.offset l.slot)
      r.cursor.geometry.blockSize
    have hfits := (BlockPosition.first_inside htotal).2
    rw [if_pos hfits] at hcount
    refine ⟨⟨rfl, .cons ?_ .nil, .singleton _, List.pairwise_singleton .., ?_, ?_⟩, hstanding, rfl,
      rfl, hcount⟩
    · show Except.ok _ = Except.ok _
      rw [front_block hv]
    · intro p hp
      rw [List.mem_singleton.1 hp]
      exact BlockPosition.first_inside htotal
    · rw [← hcount]
      exact Nat.pos_of_ne_zero htotal

/-- The record that comes next is linked to the last one. -/
theorem Walks.linked_append {result : Except CaptureError Frame}
    (h : Walks c l (ps ++ [p]) reads) (hq : q.packet = p.nextPacket k.memory) :
    ((ps ++ [p] ++ [q]).zip (reads ++ [(k.memory, result)])).IsChain
      fun x y => y.1.packet = x.1.nextPacket y.2.1 := by
  have hlen := h.returns.length_eq
  have hlinked := h.linked
  rcases List.eq_nil_or_concat' reads with rfl | ⟨reads', read, rfl⟩
  · rw [List.length_append] at hlen
    cases hlen
  · have hlen' : ps.length = reads'.length := by
      rw [List.length_append, List.length_append] at hlen
      exact Nat.add_right_cancel hlen
    rw [List.zip_append hlen'] at hlinked
    rw [List.zip_append hlen, List.zip_append hlen', List.append_assoc]
    exact List.isChain_split.2 ⟨hlinked, List.isChain_pair.2 hq⟩

/-- A record behind the last one lies behind all of them. -/
theorem Walks.ordered_append (h : Walks c l (ps ++ [p]) reads) (hq : p.packet < q.packet) :
    (ps ++ [p] ++ [q]).Pairwise (·.packet < ·.packet) := by
  refine List.pairwise_append.2 ⟨h.ordered, List.pairwise_singleton .., ?_⟩
  intro x hx y hy
  rw [List.mem_singleton.1 hy]
  rcases List.mem_append.1 hx with hx | hx
  · have hxp := (List.pairwise_append.1 h.ordered).2.2 x hx p (List.mem_singleton_self p)
    exact hxp.trans hq
  · rw [List.mem_singleton.1 hx]
    exact hq

/-- One more read goes one record further. -/
theorem Arrived.next (h : Arrived c l ps p reads r.cursor)
    (hq : p.advance? k.memory c.geometry.blockSize = some q) :
    Arrived c l (ps ++ [p]) q (reads ++ [(k.memory, (r.next k).1)]) (r.next k).2.1.cursor := by
  obtain ⟨-, -, hreturns, hstanding⟩ := walks_on h.standing hq
  obtain ⟨hblock, htotal, hused, hlt, hforward, hin⟩ := BlockPosition.advance?_bounds hq
  have hlow := (h.walks.inside p (List.mem_append_right _ (List.mem_singleton_self p))).1
  have hlen : (ps ++ [p]).length = q.used := by
    rw [List.length_append, List.length_singleton, ← h.used, hused]
  refine ⟨⟨?_, ?_, ?_, ?_, ?_, ?_⟩, hstanding, hblock.trans h.block, hlen.symm,
    htotal.trans h.total⟩
  · rw [List.head?_append, h.walks.first]
    rfl
  · exact List.rel_append h.walks.returns (.cons hreturns .nil)
  · exact h.walks.linked_append (BlockPosition.packet_of_advance hq)
  · exact h.walks.ordered_append hforward
  · intro x hx
    rcases List.mem_append.1 hx with hx | hx
    · exact h.walks.inside x hx
    · rw [List.mem_singleton.1 hx]
      exact ⟨hlow.trans hforward.le, h.block ▸ hin⟩
  · rw [List.length_append, hlen, ← h.total, ← htotal]
    exact hlt

variable {ks : Nat → Kernel}

/-- Reads that do not give the block back walk through it. -/
theorem arrived_after (h : Arrived c l [] p reads r.cursor) (n : Nat)
    (hkept : ∀ i < n, l.slot ∉ (r.after ks i).released (ks i)) :
    ∃ ps q, ps.length = n ∧ Arrived c l ps q (reads ++ r.log ks n) (r.after ks n).cursor := by
  induction n with
  | zero =>
    refine ⟨[], p, rfl, ?_⟩
    show Arrived c l [] p (reads ++ []) r.cursor
    rw [List.append_nil]
    exact h
  | succ n ih =>
    obtain ⟨ps, q, hlen, hq⟩ := ih fun i hi => hkept i (Nat.lt_succ_of_lt hi)
    cases hadvance : q.advance? (ks n).memory c.geometry.blockSize with
    | none =>
      have hback := hands_back hq.standing hadvance
      have hmem : l.slot ∈ (r.after ks n).released (ks n) := by
        rw [hback.once]
        exact List.mem_cons_self
      exact absurd hmem (hkept n (Nat.lt_succ_self n))
    | some q' =>
      refine ⟨ps ++ [q], q', ?_, ?_⟩
      · rw [List.length_append, hlen, List.length_singleton]
      · rw [log_succ, ← List.append_assoc]
        exact hq.next hadvance

/-! ## A block, from its look to its release -/

/-- **A corrupt block neither traps nor derails the reader.** Take any look of a read at a block
that is the reader's, whatever is in the block then, and whatever memory holds at the reads that
follow. If its first record does not fit, or the block has no packet there, the same read gives it
back and looks at the next block. Otherwise the read returns the first record; and reads that do not
give the block back return one record each, no more than the block announced when it was taken, in
order, with their headers in the block. The read that finds no other record, since as many as
announced were returned, or the next one would not lie further on or not in the block, gives the
block back at once and moves to the next; any read before it touches nothing. -/
theorem block_walk_contained (hv : r.cursor.version = .v3)
    (h : r.looks k = before ++ l :: after) (ha : l.answer = none) :
    Looked r k ∧
    (r.cursor.offset l.slot + r.cursor.geometry.blockSize <
        r.cursor.offset l.slot +
          l.memory.field (r.cursor.offset l.slot + Block.firstPacketField) 4 +
          BlockPosition.headerSize → l.Passes r.cursor) ∧
    (l.Passes r.cursor → ∃ l' rest, after = l' :: rest ∧ l'.released = some l.slot ∧
      l'.slot = (l.slot + 1) % r.cursor.round ∧
      l'.memory = clearSlot l.memory .v3 (r.cursor.offset l.slot)) ∧
    (¬ l.Passes r.cursor → after = [] ∧ ∀ (ks : Nat → Kernel) (n : Nat),
      (∀ i < n, l.slot ∉ ((r.next k).2.1.after ks i).released (ks i)) →
      ∃ ps p, ps.length = n ∧
        Walks r.cursor l (ps ++ [p]) ((l.memory, (r.next k).1) :: (r.next k).2.1.log ks n) ∧
        if l.memory.field (r.cursor.offset l.slot + Block.packetCountField) 4 ≤ n + 1 ∨
            p.nextPacket (ks n).memory ≤ p.packet ∨
            r.cursor.offset l.slot + r.cursor.geometry.blockSize <
              p.nextPacket (ks n).memory + BlockPosition.headerSize then
          HandsBack ((r.next k).2.1.after ks n) (ks n) l.slot
        else
          ((r.next k).2.1.after ks n).looks (ks n) = [] ∧
            (((r.next k).2.1.after ks n).next (ks n)).2.2 = ks n) := by
  refine ⟨looked r k, fun hroom => ⟨?_, ?_⟩, fun hp => ?_, fun hp => ?_⟩
  · rw [ha]
    rfl
  · refine Cursor.length_front_of_vacant hv ?_
    rw [BlockPosition.total_first]
    exact if_neg (Nat.not_le_of_lt hroom)
  · rw [← hv]
    exact follows_of_passes h hp
  · obtain rfl := last_of_not_passes h ha hp
    refine ⟨rfl, fun ks n hkept => ?_⟩
    obtain ⟨ps, p, hlen, hp⟩ := arrived_after (arrived_first h hv ha) n hkept
    refine ⟨ps, p, hlen, hp.walks, ?_⟩
    have hend := p.advance?_eq_none_iff (ks n).memory r.cursor.geometry.blockSize
    rw [hp.total, hp.used, hp.block, hlen] at hend
    split
    · next hlast => exact hands_back hp.standing (hend.2 hlast)
    · next hmore =>
      obtain ⟨q, hq⟩ := Option.ne_none_iff_exists'.1 fun hnone => hmore (hend.1 hnone)
      obtain ⟨hlooks, hkernel, -, -⟩ := walks_on hp.standing hq
      exact ⟨hlooks, hkernel⟩

/-! ### A block that announces three records and leads out behind the second -/

/-- The records are at 48 and 128; the next one of the second would begin at 465, and its header
would end a byte behind the block. -/
def leadingOut : Kernel where
  mapping := some <| (Region.zeroed 1024).stored
    [⟨8, [1, 0, 0, 0, 3, 0, 0, 0, 48]⟩, ⟨48, [80]⟩, ⟨60, [4, 0, 0, 0, 60]⟩, ⟨72, [80]⟩,
      ⟨128, [81, 1]⟩, ⟨140, [4, 0, 0, 0, 60]⟩, ⟨152, [80]⟩]

theorem looks_leadingOut :
    hiddenReader.looks leadingOut = [] ++ hiddenReader.look leadingOut :: [] := by
  have hends := Ends.packet (r := hiddenReader) (k := leadingOut) (by decide +kernel)
    (by decide +kernel) (by decide +kernel)
  exact looks_of_last hends rfl

theorem first_leadingOut : BlockPosition.first (hiddenReader.look leadingOut).memory
    (hiddenReader.cursor.offset (hiddenReader.look leadingOut).slot)
    hiddenReader.cursor.geometry.blockSize = ⟨0, 48, 0, 3⟩ := by decide +kernel

/-- The block goes back at the read after the two records, and not before. -/
theorem block_walk_contained_leadingOut :
    (hiddenReader.next leadingOut).2.1.released leadingOut = [] ∧
      HandsBack ((hiddenReader.next leadingOut).2.1.after (fun _ => leadingOut) 1) leadingOut
        0 := by
  obtain ⟨-, -, -, hwalk⟩ := block_walk_contained rfl looks_leadingOut (by decide +kernel)
  obtain ⟨-, hreads⟩ := hwalk (by decide +kernel)
  have hkept : (hiddenReader.next leadingOut).2.1.released leadingOut = [] := by
    obtain ⟨ps, p, hlen, hwalks, hread⟩ := hreads (fun _ => leadingOut) 0 nofun
    obtain rfl := List.eq_nil_of_length_eq_zero hlen
    obtain rfl := (Option.some.inj hwalks.first).trans first_leadingOut
    rw [if_neg (by decide +kernel)] at hread
    have hlooks : (hiddenReader.next leadingOut).2.1.looks leadingOut = [] := hread.1
    unfold released
    rw [hlooks]
    rfl
  refine ⟨hkept, ?_⟩
  obtain ⟨ps, p, hlen, hwalks, hread⟩ := hreads (fun _ => leadingOut) 1 fun i hi => by
    obtain rfl := Nat.lt_one_iff.1 hi
    show _ ∉ (hiddenReader.next leadingOut).2.1.released leadingOut
    rw [hkept]
    exact List.not_mem_nil
  obtain ⟨q, rfl⟩ := List.length_eq_one_iff.1 hlen
  obtain rfl := (Option.some.inj hwalks.first).trans first_leadingOut
  obtain ⟨block, packet, used, total⟩ := p
  have hlinked := hwalks.linked
  change List.IsChain _ [(_, _), (_, leadingOut.memory, _)] at hlinked
  have hpacket := List.isChain_pair.1 hlinked
  change packet = BlockPosition.nextPacket leadingOut.memory ⟨0, 48, 0, 3⟩ at hpacket
  have hplace : BlockPosition.nextPacket leadingOut.memory ⟨0, 48, 0, 3⟩ = 128 := by
    decide +kernel
  obtain rfl := hpacket.trans hplace
  rw [if_pos] at hread
  · exact hread
  · refine .inr (.inr ?_)
    show 0 + 512 < BlockPosition.nextPacket leadingOut.memory ⟨0, 128, 0, 0⟩ +
      BlockPosition.headerSize
    decide +kernel

end Reader

end PacketRing
