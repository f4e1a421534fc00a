import Mathlib
import PacketRing.Bytes.Lemmas
import PacketRing.Proofs.Opening

/-!
# The ring that is asked for

Options that pass their check ask the kernel for the very ring that the reader then walks through.

* `words?` : the little-endian words in a byte string. Words that fit are read back
  (`words?_flatMap_toLE`), and so are those of a ring request (`words?_request`);
* `Geometry.Tiles` : the slots cover the mapping and no two share a byte (`Geometry.tiles`);
* `Handle.ring_of_calls` : what an open asks for and maps;
* `Handle.ring_as_requested` : the ring is the same for the kernel and for the reader.
-/

namespace PacketRing

/-! ## Words of a request -/

/-- The 32-bit little-endian words that make up a byte string, if they are whole. -/
def words? : Bytes → Option (List Nat)
  | [] => some []
  | a :: b :: c :: d :: rest => (words? rest).map (ofLE [a, b, c, d] :: ·)
  | _ => none

theorem words?_toLE_append (n : Nat) (bs : Bytes) :
    words? (toLE 4 n ++ bs) = (words? bs).map (n % 2 ^ 32 :: ·) := by
  have hword : ofLE (toLE 4 n) = n % 2 ^ 32 := ofLE_toLE 4 n
  rw [← hword]
  rfl

/-- Words that fit are read back. -/
theorem words?_flatMap_toLE {ns : List Nat} (h : ∀ n ∈ ns, n < 2 ^ 32) :
    words? (ns.flatMap (toLE 4)) = some ns := by
  induction ns with
  | nil => rfl
  | cons n ns ih =>
    obtain ⟨hn, hns⟩ := List.forall_mem_cons.1 h
    rw [List.flatMap_cons, words?_toLE_append, ih hns, Option.map_some, Nat.mod_eq_of_lt hn]

/-- The words of a ring request: sizes and counts as the options have them. In v3 the retire timeout
follows, and two words that ask for nothing. -/
def Options.ringWords (o : Options) (v : Version) : List Nat :=
  [o.blockSize, o.numBlocks, o.frameSize, o.blockSize / o.frameSize * o.numBlocks] ++
    if v = .v3 then [o.retireTimeout, 0, 0] else []

theorem words?_request {o : Options} {pageSize : Nat} (h : o.Admissible pageSize) (v : Version) :
    words? (o.geometry.request v) = some (o.ringWords v) := by
  have hwords : o.geometry.requestWords v = o.ringWords v := by
    have hcount := Options.frameCount_geometry h.positive.2.1
    unfold Geometry.requestWords Options.ringWords
    rw [h.blockSize_geometry, hcount]
    cases v <;> rfl
  have hretire : o.retireTimeout < 2 ^ 32 := by
    unfold Options.retireTimeout
    omega
  unfold Geometry.request
  rw [hwords]
  refine words?_flatMap_toLE fun n hn => ?_
  rcases List.mem_append.1 hn with hn | hn
  · simp only [List.mem_cons, List.not_mem_nil, or_false] at hn
    rcases hn with rfl | rfl | rfl | rfl
    · exact h.blockSize_lt
    · exact h.numBlocks_lt
    · exact h.frameSize_lt
    · exact h.frameCount_lt
  · split at hn
    · simp only [List.mem_cons, List.not_mem_nil, or_false] at hn
      omega
    · cases hn

/-! ## Slots -/

/-- The slots cover the mapping without a gap, and no two share a byte. -/
structure Geometry.Tiles (g : Geometry) (v : Version) : Prop where
  inside : ∀ i < g.slots v, g.slotOffset v i + g.slotSize v ≤ g.mappingSize
  covers : ∀ x < g.mappingSize, ∃! i, i < g.slots v ∧ g.slotOffset v i ≤ x ∧
    x < g.slotOffset v i + g.slotSize v

theorem Geometry.slotOffset_succ (g : Geometry) (v : Version) (i : Nat) :
    g.slotOffset v i + g.slotSize v = g.slotOffset v (i + 1) := by
  unfold slotOffset
  rw [Nat.succ_mul]

theorem Geometry.tiles (g : Geometry) (v : Version) : g.Tiles v := by
  have hsize := g.slots_mul_slotSize v
  refine ⟨fun i hi => ?_, fun x hx => ?_⟩
  · rw [slotOffset_succ, ← hsize]
    exact Nat.mul_le_mul_right _ hi
  · rw [← hsize] at hx
    have hpos : 0 < g.slotSize v := Nat.pos_of_mul_pos_left (Nat.zero_lt_of_lt hx)
    refine ⟨x / g.slotSize v, ⟨Nat.div_lt_of_lt_mul (Nat.mul_comm .. ▸ hx), ?_, ?_⟩, ?_⟩
    · exact Nat.div_mul_le_self x _
    · rw [slotOffset_succ]
      exact Nat.lt_mul_of_div_lt (Nat.lt_succ_self _) hpos
    · rintro i ⟨-, hlow, hhigh⟩
      rw [slotOffset_succ] at hhigh
      exact (Nat.div_eq_of_lt_le hlow hhigh).symm

/-! ## What an open asks for -/

namespace Handle

open Kernel

variable {o : Options} {pageSize : Nat} {ifindex : Int} {k : Kernel} {s : OpenStep}

theorem mem_openSteps (h : s ∈ openSteps o ifindex k) :
    s = socketStep o k ∨ s = bindStep k ifindex ∨ s = versionStep k o.version.candidates ∨
      ∃ v, k.accepted? o.version.candidates = some v ∧ s ∈ ringSteps o k v := by
  unfold openSteps setUpSteps at h
  rcases List.mem_cons.1 h with rfl | h
  · exact .inl rfl
  rcases List.mem_cons.1 h with rfl | h
  · exact .inr (.inl rfl)
  rcases List.mem_cons.1 h with rfl | h
  · exact .inr (.inr (.inl rfl))
  · cases ha : k.accepted? o.version.candidates with
    | none =>
      rw [ha] at h
      cases h
    | some v =>
      rw [ha] at h
      exact .inr (.inr (.inr ⟨v, rfl, h⟩))

theorem performed_of_no_fault {steps : List OpenStep} (h : firstFault? steps = none) :
    performed steps = steps := by
  induction steps with
  | nil => rfl
  | cons s rest ih =>
    cases hf : s.fault with
    | some e =>
      rw [firstFault?_of_fault hf] at h
      cases h
    | none =>
      rw [firstFault?_of_ok hf] at h
      unfold performed
      rw [hf, Option.isSome_none, if_neg Bool.false_ne_true, ih h]

/-- The calls of an open with which it asks for a ring and maps one are those of `o`, in the version
that the kernel took. -/
structure AsksFor (o : Options) (k : Kernel) (calls : List Call) : Prop where
  request : ∀ bytes, .setOption (.receiveRing bytes) ∈ calls →
    ∃ v, k.accepted? o.version.candidates = some v ∧ bytes = o.geometry.request v
  map : ∀ length protection flags offset, .map length protection flags offset ∈ calls →
    length = o.geometry.mappingSize

theorem asksFor_performed (o : Options) (ifindex : Int) (k : Kernel) :
    AsksFor o k (performedCalls (openSteps o ifindex k)) := by
  refine ⟨fun bytes h => ?_, fun length protection flags offset h => ?_⟩
  all_goals
    obtain ⟨s, hs, hc⟩ := List.mem_flatMap.1 h
    obtain rfl | rfl | rfl | ⟨v, ha, hs⟩ := mem_openSteps (performed_subset _ hs)
    · simp [socketStep] at hc
    · simp [bindStep] at hc
    · simp [versionStep] at hc
    simp only [ringSteps, List.mem_cons, List.not_mem_nil, or_false] at hs
  · obtain rfl | rfl | rfl | rfl := hs <;>
      simp [ringCall, mapCall, statisticsCall] at hc
    exact ⟨v, ha, hc⟩
  · obtain rfl | rfl | rfl | rfl := hs <;>
      simp [ringCall, mapCall, statisticsCall] at hc
    exact hc.1

theorem AsksFor.append_unmap {calls : List Call} (h : AsksFor o k calls) :
    AsksFor o k (calls ++ unmapCalls k o.geometry.mappingSize calls) := by
  have hunmap : ∀ c ∈ unmapCalls k o.geometry.mappingSize calls,
      c = .unmap o.geometry.mappingSize := by
    intro c hc
    unfold unmapCalls at hc
    split at hc
    · exact List.mem_singleton.1 hc
    · cases hc
  refine ⟨fun bytes hc => ?_, fun length protection flags offset hc => ?_⟩
  · rcases List.mem_append.1 hc with hc | hc
    · exact h.request bytes hc
    · cases hunmap _ hc
  · rcases List.mem_append.1 hc with hc | hc
    · exact h.map _ _ _ _ hc
    · cases hunmap _ hc

/-- What an open asks for, and that one which succeeds has asked for it and mapped it. -/
theorem ring_of_calls (o : Options) (pageSize : Nat) (k : Kernel) (hs : k.socketOpen = false)
    (hm : k.mapping = none) :
    ∃ calls, (acquire o pageSize k).2.calls = k.calls ++ calls ∧ AsksFor o k calls ∧
      (calls ≠ [] → o.check pageSize = .ok ()) ∧
      ∀ h, (acquire o pageSize k).1 = .ok h → h.geometry = o.geometry ∧
        ringCall o h.version ∈ calls ∧ mapCall o.geometry.mappingSize ∈ calls := by
  cases ha : admitted o pageSize k with
  | error e =>
    rw [acquire_of_refused ha]
    refine ⟨[], (List.append_nil _).symm, ⟨fun _ h => (nomatch h), fun _ _ _ _ h => (nomatch h)⟩,
      fun h => absurd rfl h, fun h hok => (nomatch hok)⟩
  | ok ifindex =>
    have hcheck : o.check pageSize = .ok () := by
      unfold admitted at ha
      split at ha
      · cases ha
      · next hcheck => exact hcheck
    obtain ⟨e, -, hend⟩ | ⟨hf, v, hv, hend⟩ := acquire_cases hs hm ha
    · rw [hend]
      exact ⟨_, rfl, (asksFor_performed o ifindex k).append_unmap, fun _ => hcheck,
        fun h hok => (nomatch hok)⟩
    · rw [hend]
      refine ⟨performedCalls (openSteps o ifindex k), rfl, asksFor_performed o ifindex k,
        fun _ => hcheck, ?_⟩
      rintro h ⟨⟩
      have hmem : ∀ c ∈ (ringSteps o k v).flatMap (·.calls),
          c ∈ performedCalls (openSteps o ifindex k) := by
        intro c hc
        unfold performedCalls
        rw [performed_of_no_fault hf]
        unfold openSteps setUpSteps
        rw [hv]
        simp only [Option.elim_some, List.flatMap_cons, List.mem_append]
        exact .inr (.inr (.inr hc))
      exact ⟨rfl, hmem _ (by simp [ringSteps, ringCall, opened]), hmem _ (by simp [ringSteps])⟩

/-- **The kernel and the reader have the same ring.** Options pass their check just if they are
admissible. Then a request gives the kernel their sizes and counts in words of 32 bits of which
nothing is cut off, with a retire timeout in v3 that is zero for no timeout but zero; the mapping is
as long as the blocks asked for are together, which 64 bits hold; and the slots that the reader
walks through tile it. Nothing else is asked of the kernel by an open, and nothing by one whose
options fail the check. -/
theorem ring_as_requested (o : Options) (pageSize : Nat) (k : Kernel)
    (hs : k.socketOpen = false) (hm : k.mapping = none) :
    (o.check pageSize = .ok () ↔ o.Admissible pageSize) ∧
    (o.check pageSize = .ok () → ∀ v,
      words? (o.geometry.request v) = some (o.ringWords v) ∧
      (o.blockTimeout.nanos ≠ 0 → o.retireTimeout ≠ 0) ∧
      o.geometry.mappingSize = o.blockSize * o.numBlocks ∧
      o.geometry.mappingSize < 2 ^ 64 ∧ o.geometry.Tiles v) ∧
    ∃ calls, (acquire o pageSize k).2.calls = k.calls ++ calls ∧ AsksFor o k calls ∧
      (calls ≠ [] → o.check pageSize = .ok ()) ∧
      ∀ h, (acquire o pageSize k).1 = .ok h → h.geometry = o.geometry ∧
        ringCall o h.version ∈ calls ∧ mapCall o.geometry.mappingSize ∈ calls := by
  refine ⟨Options.check_eq_ok_iff, fun hcheck v => ?_, ring_of_calls o pageSize k hs hm⟩
  have h := Options.check_eq_ok_iff.1 hcheck
  exact ⟨words?_request h v, h.retireTimeout_ne, h.mappingSize_geometry, h.mappingSize_lt,
    o.geometry.tiles v⟩

/-- The largest ring there is, with a timeout beyond what a word holds. -/
def largest : Options where
  version := .exactly .v3
  frameSize := 2 ^ 32 - 4096
  blockSize := 2 ^ 32 - 4096
  numBlocks := 2 ^ 32 - 1
  blockTimeout := .ofMillis (2 ^ 32 + 1)

/-- A kernel that has no room for it is asked for it all the same. -/
theorem ring_as_requested_largest :
    largest.check 4096 = .ok () ∧
      words? (largest.geometry.request .v3) = some
        [4294963200, 4294967295, 4294963200, 4294967295, 4294967295, 0, 0] ∧
      largest.geometry.mappingSize = 18446726477228544000 ∧ largest.geometry.Tiles .v3 ∧
      AsksFor largest {} (acquire largest 4096 {}).2.calls ∧
      (acquire largest 4096 {}).1 = .error (.setup .map (.os outOfMemory)) := by
  obtain ⟨-, hring, calls, hcalls, hasks, -⟩ := ring_as_requested largest 4096 {} rfl rfl
  have hcheck : largest.check 4096 = .ok () := by decide
  obtain ⟨hwords, -, hmapping, -, htiles⟩ := hring hcheck .v3
  rw [← List.nil_append calls, ← hcalls] at hasks
  exact ⟨hcheck, hwords, hmapping, htiles, hasks, by decide +kernel⟩

end Handle

end PacketRing
