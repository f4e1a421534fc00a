import Mathlib
import PacketRing.Traffic

/-!
# Counting packets

What the traffic counters make of the packets that are counted.

* `Tally.addAll`, `Traffic.recordAll` : counting packets, one after the other;
* `tallied` : tallies by a key that a packet may have, of which those by interface and by VLAN are
  cases (`Traffic.interfaces_recordAll`, `Traffic.vlans_recordAll`);
* `Tally.Gains`, `Traffic.Gains` : counters before and after packets were counted, in sums;
* `Traffic.gains_recordAll` : each counter gains the sum over the packets that are counted there.
-/

namespace PacketRing

/-- The VLAN of a packet, if it was tagged: the low 12 bits of its tag control information. -/
def CaptureInfo.vlanId? (info : CaptureInfo) : Option Nat := info.vlan.map (·.tci % 2 ^ 12)

/-! ## One tally -/

namespace Tally

def addAll (t : Tally) (wallClock : Int) (infos : List CaptureInfo) : Tally :=
  infos.foldl (fun t info => t.add info (info.timestamp.toMillis wallClock)) t

/-- The tally `t'` counts `infos` and what `t` counts. -/
structure Gains (t t' : Tally) (infos : List CaptureInfo) : Prop where
  packets : t'.packets = t.packets + infos.length
  bytes : t'.bytes = t.bytes + (infos.map (·.length)).sum
  capturedBytes : t'.capturedBytes = t.capturedBytes + (infos.map (·.captureLength)).sum

theorem gains_addAll (t : Tally) (wallClock : Int) (infos : List CaptureInfo) :
    t.Gains (t.addAll wallClock infos) infos := by
  induction infos generalizing t with
  | nil => exact ⟨rfl, rfl, rfl⟩
  | cons info infos ih =>
    obtain ⟨hpackets, hbytes, hcaptured⟩ := ih (t.add info (info.timestamp.toMillis wallClock))
    refine ⟨hpackets.trans ?_, hbytes.trans ?_, hcaptured.trans ?_⟩
    · rw [List.length_cons, Nat.add_comm infos.length, ← Nat.add_assoc]
      rfl
    · rw [List.map_cons, List.sum_cons, ← Nat.add_assoc]
      rfl
    · rw [List.map_cons, List.sum_cons, ← Nat.add_assoc]
      rfl

theorem Gains.trans {t t' t'' : Tally} {infos infos' : List CaptureInfo} (h : t.Gains t' infos)
    (h' : t'.Gains t'' infos') : t.Gains t'' (infos ++ infos') := by
  refine ⟨?_, ?_, ?_⟩
  · rw [h'.packets, h.packets, List.length_append, Nat.add_assoc]
  · rw [h'.bytes, h.bytes, List.map_append, List.sum_append, Nat.add_assoc]
  · rw [h'.capturedBytes, h.capturedBytes, List.map_append, List.sum_append, Nat.add_assoc]

end Tally

/-! ## Tallies by a key -/

section Tallied
variable {κ : Type} [Ord κ]

/-- The tallies after a packet was counted under its key, if it has one. -/
def tallied (key : CaptureInfo → Option κ) (wallClock : Int) (m : Std.TreeMap κ Tally)
    (info : CaptureInfo) : Std.TreeMap κ Tally :=
  match key info with
  | none => m
  | some x => m.insert x ((m.getD x {}).add info (info.timestamp.toMillis wallClock))

variable [Std.TransOrd κ] [Std.LawfulEqOrd κ] {key : CaptureInfo → Option κ} {wallClock : Int}
  {m : Std.TreeMap κ Tally}

theorem getD_tallied [DecidableEq κ] (info : CaptureInfo) (x : κ) :
    (tallied key wallClock m info).getD x {} =
      if key info = some x then (m.getD x {}).add info (info.timestamp.toMillis wallClock)
      else m.getD x {} := by
  unfold tallied
  cases hkey : key info with
  | none => rw [if_neg nofun]
  | some y =>
    dsimp only
    rw [Std.TreeMap.getD_insert]
    simp only [Std.LawfulEqCmp.compare_eq_iff_eq, Option.some.injEq]
    split
    · next hy => rw [hy]
    · rfl

theorem mem_tallied (info : CaptureInfo) (x : κ) :
    x ∈ tallied key wallClock m info ↔ x ∈ m ∨ key info = some x := by
  unfold tallied
  cases hkey : key info with
  | none => exact ⟨Or.inl, fun h => h.resolve_right nofun⟩
  | some y =>
    rw [Std.TreeMap.mem_insert, Std.LawfulEqCmp.compare_eq_iff_eq, Option.some.injEq]
    exact Or.comm

/-- A tally counts the packets of its key. -/
theorem getD_foldl_tallied [DecidableEq κ] (infos : List CaptureInfo) (x : κ) :
    (infos.foldl (tallied key wallClock) m).getD x {} =
      (m.getD x {}).addAll wallClock (infos.filter (key · = some x)) := by
  induction infos generalizing m with
  | nil => rfl
  | cons info infos ih =>
    rw [List.foldl_cons, ih, getD_tallied]
    by_cases hkey : key info = some x
    · simp only [List.filter_cons, hkey, decide_true, if_true]
      rfl
    · simp only [List.filter_cons, hkey, decide_false, Bool.false_eq_true, if_false]

theorem mem_foldl_tallied (infos : List CaptureInfo) (x : κ) :
    x ∈ infos.foldl (tallied key wallClock) m ↔ x ∈ m ∨ ∃ info ∈ infos, key info = some x := by
  induction infos generalizing m with
  | nil => simp
  | cons info infos ih => rw [List.foldl_cons, ih, mem_tallied, List.exists_mem_cons_iff, or_assoc]

end Tallied

/-! ## All counters -/

namespace Traffic

def recordAll (t : Traffic) (wallClock : Int) (infos : List CaptureInfo) : Traffic :=
  infos.foldl (fun t info => t.record wallClock info) t

/-- The counters of `t'` count `infos`, `errors` reads that failed, and what those of `t` count. -/
structure Gains (t t' : Traffic) (infos : List CaptureInfo) (errors : Nat) : Prop where
  totalPackets : t'.totalPackets = t.totalPackets + infos.length
  totalBytes : t'.totalBytes = t.totalBytes + (infos.map (·.length)).sum
  capturedBytes : t'.capturedBytes = t.capturedBytes + (infos.map (·.captureLength)).sum
  readErrors : t'.readErrors = t.readErrors + errors
  interfaces : ∀ i, (t.interfaces.getD i {}).Gains (t'.interfaces.getD i {})
    (infos.filter (·.ifindex = i))
  vlans : ∀ id, (t.vlans.getD id {}).Gains (t'.vlans.getD id {})
    (infos.filter (·.vlanId? = some id))
  mem_interfaces : ∀ i, i ∈ t'.interfaces ↔ i ∈ t.interfaces ∨ ∃ info ∈ infos, info.ifindex = i
  mem_vlans : ∀ id, id ∈ t'.vlans ↔ id ∈ t.vlans ∨ ∃ info ∈ infos, info.vlanId? = some id

theorem Gains.refl (t : Traffic) : t.Gains t [] 0 :=
  ⟨rfl, rfl, rfl, rfl, fun _ => ⟨rfl, rfl, rfl⟩, fun _ => ⟨rfl, rfl, rfl⟩, by simp, by simp⟩

theorem Gains.trans {t t' t'' : Traffic} {infos infos' : List CaptureInfo} {errors errors' : Nat}
    (h : t.Gains t' infos errors) (h' : t'.Gains t'' infos' errors') :
    t.Gains t'' (infos ++ infos') (errors + errors') := by
  refine ⟨?_, ?_, ?_, ?_, fun i => ?_, fun id => ?_, fun i => ?_, fun id => ?_⟩
  · rw [h'.totalPackets, h.totalPackets, List.length_append, Nat.add_assoc]
  · rw [h'.totalBytes, h.totalBytes, List.map_append, List.sum_append, Nat.add_assoc]
  · rw [h'.capturedBytes, h.capturedBytes, List.map_append, List.sum_append, Nat.add_assoc]
  · rw [h'.readErrors, h.readErrors, Nat.add_assoc]
  · rw [List.filter_append]
    exact (h.interfaces i).trans (h'.interfaces i)
  · rw [List.filter_append]
    exact (h.vlans id).trans (h'.vlans id)
  · simp only [h'.mem_interfaces, h.mem_interfaces, List.mem_append, or_and_right, exists_or,
      or_assoc]
  · simp only [h'.mem_vlans, h.mem_vlans, List.mem_append, or_and_right, exists_or, or_assoc]

theorem vlans_record (t : Traffic) (wallClock : Int) (info : CaptureInfo) :
    (t.record wallClock info).vlans = tallied (·.vlanId?) wallClock t.vlans info := by
  unfold record tallied CaptureInfo.vlanId?
  dsimp only
  cases info.vlan <;> rfl

variable (t : Traffic) (wallClock : Int) (infos : List CaptureInfo)

theorem interfaces_recordAll : (t.recordAll wallClock infos).interfaces =
    infos.foldl (tallied (some ·.ifindex) wallClock) t.interfaces := by
  induction infos generalizing t with
  | nil => rfl
  | cons info infos ih => exact ih (t.record wallClock info)

theorem vlans_recordAll : (t.recordAll wallClock infos).vlans =
    infos.foldl (tallied (·.vlanId?) wallClock) t.vlans := by
  induction infos generalizing t with
  | nil => rfl
  | cons info infos ih =>
    rw [List.foldl_cons, ← vlans_record]
    exact ih (t.record wallClock info)

theorem totals_recordAll :
    (t.recordAll wallClock infos).totalPackets = t.totalPackets + infos.length ∧
    (t.recordAll wallClock infos).totalBytes = t.totalBytes + (infos.map (·.length)).sum ∧
    (t.recordAll wallClock infos).capturedBytes =
      t.capturedBytes + (infos.map (·.captureLength)).sum ∧
    (t.recordAll wallClock infos).readErrors = t.readErrors := by
  induction infos generalizing t with
  | nil => exact ⟨rfl, rfl, rfl, rfl⟩
  | cons info infos ih =>
    obtain ⟨hpackets, hbytes, hcaptured, herrors⟩ := ih (t.record wallClock info)
    refine ⟨hpackets.trans ?_, hbytes.trans ?_, hcaptured.trans ?_, herrors⟩
    · rw [List.length_cons, Nat.add_comm infos.length, ← Nat.add_assoc]
      rfl
    · rw [List.map_cons, List.sum_cons, ← Nat.add_assoc]
      rfl
    · rw [List.map_cons, List.sum_cons, ← Nat.add_assoc]
      rfl

theorem gains_recordAll : t.Gains (t.recordAll wallClock infos) infos 0 := by
  obtain ⟨hpackets, hbytes, hcaptured, herrors⟩ := t.totals_recordAll wallClock infos
  refine ⟨hpackets, hbytes, hcaptured, herrors, fun i => ?_, fun id => ?_, fun i => ?_,
    fun id => ?_⟩
  · have hsum := (t.interfaces.getD i {}).gains_addAll wallClock (infos.filter (·.ifindex = i))
    rw [interfaces_recordAll, getD_foldl_tallied]
    simpa only [Option.some.injEq] using hsum
  · rw [vlans_recordAll, getD_foldl_tallied]
    exact Tally.gains_addAll ..
  · rw [interfaces_recordAll, mem_foldl_tallied]
    simp only [Option.some.injEq]
  · rw [vlans_recordAll, mem_foldl_tallied]

end Traffic

end PacketRing
