import Mathlib
import PacketRing.Proofs.Answers
import PacketRing.Proofs.Tallies
import PacketRing.Proofs.Totals

/-!
# What the traffic counters add up to

The counters say how many packets were counted and which, not in what order: the totals are the sums
of the tallies, and the report on traffic is the same for every order of the packets, and for every
order in which the tallies are gone through.

* `Timestamp.wholeMillis` : the time that is shown of a packet, of which the counters take a word;
* `Traffic.counting` : counting packets from none on;
* `Tally.Counts` : a tally counts certain packets and no others (`Tally.counts_addAll`);
* `sum_foldl_tallied` : the tallies by a key add up to the packets that have one;
* `Traffic.AddsUp` : how totals and tallies belong together;
* `Traffic.toList_eq_of_perm` : the order of packets does not matter;
* `mergeSort_eq_of_perm`, `Kernel.reportOf_of_reordered` : nor does that of the tallies;
* `TrafficReport.Lists` : what a report shows of the packets that were counted;
* `Traffic.counting_adds_up` : all this of packets from the epoch on;
* `Traffic.lastSeen_of_far_time` : a time that a word does not hold.
-/

namespace PacketRing

/-! ## Times -/

/-- How many milliseconds have gone by since the epoch. -/
def Timestamp.wholeMillis (t : Timestamp) : Int := t.nanos / 1000000

/-- From the epoch on, the counters take a packet's time as a signed word of 64 bits. -/
theorem Timestamp.toMillis_of_nonneg {t : Timestamp} (h : 0 ≤ t.nanos) (wallClock : Int) :
    t.toMillis wallClock = t.wholeMillis.bmod (2 ^ 64) := by
  have hword : (t.nanos / 1000000).toNat % 18446744073709551616 =
      (t.nanos / 1000000 % 18446744073709551616).toNat := by omega
  unfold toMillis wholeMillis signed UInt64.size
  rw [if_neg (by omega), Int.bmod_def, hword]
  split <;> split <;> omega

theorem Timestamp.wholeMillis_nonneg {t : Timestamp} (h : 0 ≤ t.nanos) : 0 ≤ t.wholeMillis :=
  Int.ediv_nonneg h (by decide)

theorem Timestamp.bmod_wholeMillis {t : Timestamp} (h : 0 ≤ t.nanos)
    (hfits : t.wholeMillis < 2 ^ 63) : t.wholeMillis.bmod (2 ^ 64) = t.wholeMillis := by
  have hlow := wholeMillis_nonneg h
  rw [Int.bmod_def]
  split <;> omega

/-! ## One tally -/

/-- The tally counts the packets `infos`, and it shows the time of the newest of them: of their
times as signed words the greatest, and the newest time itself if no time is too great for a
word. -/
structure Tally.Counts (t : Tally) (infos : List CaptureInfo) : Prop where
  packets : t.packets = infos.length
  bytes : t.bytes = (infos.map (·.length)).sum
  capturedBytes : t.capturedBytes = (infos.map (·.captureLength)).sum
  lastSeen : IsGreatest
    (insert 0 {n | ∃ info ∈ infos, n = info.timestamp.wholeMillis.bmod (2 ^ 64)}) t.lastSeen
  newest : infos ≠ [] → (∀ info ∈ infos, info.timestamp.wholeMillis < 2 ^ 63) →
    IsGreatest {n | ∃ info ∈ infos, n = info.timestamp.wholeMillis} t.lastSeen

namespace Tally

variable {t : Tally} {infos infos' : List CaptureInfo} {wallClock : Int}

theorem lastSeen_addAll (t : Tally) (wallClock : Int) (infos : List CaptureInfo) :
    IsGreatest (insert t.lastSeen {n | ∃ info ∈ infos, n = info.timestamp.toMillis wallClock})
      (t.addAll wallClock infos).lastSeen := by
  induction infos generalizing t with
  | nil => simp [addAll, IsGreatest, upperBounds]
  | cons info infos ih =>
    let time := info.timestamp.toMillis wallClock
    obtain ⟨hmem, hbound⟩ := ih (t.add info time)
    change _ ∈ insert (max t.lastSeen time) _ at hmem
    have hmax : max t.lastSeen time ≤ (t.addAll wallClock (info :: infos)).lastSeen :=
      hbound (Or.inl rfl)
    constructor
    · rcases hmem with hmem | ⟨other, hother, hmem⟩
      · rcases max_choice t.lastSeen time with hold | hnew
        · exact Or.inl (hmem.trans hold)
        · exact Or.inr ⟨info, List.mem_cons_self, hmem.trans hnew⟩
      · exact Or.inr ⟨other, List.mem_cons_of_mem _ hother, hmem⟩
    · rintro n (rfl | ⟨other, hother, rfl⟩)
      · exact (le_max_left ..).trans hmax
      · rcases List.mem_cons.1 hother with rfl | hother
        · exact (le_max_right ..).trans hmax
        · exact hbound (Or.inr ⟨other, hother, rfl⟩)

theorem packets_addAll (wallClock : Int) (infos : List CaptureInfo) :
    (addAll {} wallClock infos).packets = (infos.map fun _ => 1).sum := by
  simpa using (gains_addAll {} wallClock infos).packets

theorem bytes_addAll (wallClock : Int) (infos : List CaptureInfo) :
    (addAll {} wallClock infos).bytes = (infos.map (·.length)).sum := by
  simpa using (gains_addAll {} wallClock infos).bytes

theorem capturedBytes_addAll (wallClock : Int) (infos : List CaptureInfo) :
    (addAll {} wallClock infos).capturedBytes = (infos.map (·.captureLength)).sum := by
  simpa using (gains_addAll {} wallClock infos).capturedBytes

theorem times_congr {f g : CaptureInfo → Int} (h : ∀ info ∈ infos, f info = g info) :
    {n | ∃ info ∈ infos, n = f info} = {n | ∃ info ∈ infos, n = g info} := by
  ext n
  apply exists_congr
  intro info
  apply and_congr_right
  intro hinfo
  rw [h info hinfo]

/-- The greatest number is one of the others if there are any and none is below the least. -/
theorem isGreatest_of_insert {s : Set Int} {least n : Int} (hne : s.Nonempty)
    (hle : ∀ m ∈ s, least ≤ m) (h : IsGreatest (insert least s) n) : IsGreatest s n := by
  obtain ⟨hmem, hbound⟩ := h
  have hall : ∀ m ∈ s, m ≤ n := fun m hm => hbound (Or.inr hm)
  refine ⟨?_, hall⟩
  rcases hmem with rfl | hmem
  · obtain ⟨m, hm⟩ := hne
    have hsame : m = n := le_antisymm (hall m hm) (hle m hm)
    rwa [← hsame]
  · exact hmem

theorem counts_addAll (wallClock : Int) (h : ∀ info ∈ infos, 0 ≤ info.timestamp.nanos) :
    (addAll {} wallClock infos).Counts infos := by
  have hlast := lastSeen_addAll {} wallClock infos
  rw [times_congr fun info hinfo => Timestamp.toMillis_of_nonneg (h info hinfo) wallClock] at hlast
  refine ⟨?_, bytes_addAll .., capturedBytes_addAll .., hlast, ?_⟩
  · rw [packets_addAll]
    simp
  · intro hne hfits
    obtain ⟨info, hinfo⟩ := List.exists_mem_of_ne_nil infos hne
    rw [times_congr fun info hinfo =>
      Timestamp.bmod_wholeMillis (h info hinfo) (hfits info hinfo)] at hlast
    refine isGreatest_of_insert ⟨_, info, hinfo, rfl⟩ ?_ hlast
    rintro m ⟨info, hinfo, rfl⟩
    exact Timestamp.wholeMillis_nonneg (h info hinfo)

/-- The order of the packets does not matter to a tally. -/
theorem addAll_eq_of_perm (h : infos.Perm infos') (t : Tally) (wallClock : Int) :
    t.addAll wallClock infos = t.addAll wallClock infos' := by
  apply h.foldl_eq'
  intro a _ b _ t
  simp only [add, Tally.mk.injEq]
  refine ⟨trivial, ?_, ?_, ?_⟩ <;> omega

end Tally

/-! ## Tallies by a key -/

section Tallied
variable {κ : Type} [Ord κ] [Std.TransOrd κ] [Std.LawfulEqOrd κ] [DecidableEq κ]
  {key : CaptureInfo → Option κ} {wallClock : Int} {infos infos' : List CaptureInfo}

/-- There is a tally for each key that a packet has, of the packets that have it. -/
theorem mem_toList_foldl_tallied {x : κ} {t : Tally} :
    (x, t) ∈ (infos.foldl (tallied key wallClock) ∅).toList ↔
      (∃ info ∈ infos, key info = some x) ∧
        t = Tally.addAll {} wallClock (infos.filter (key · = some x)) := by
  have hmem : x ∈ infos.foldl (tallied key wallClock) ∅ ↔ ∃ info ∈ infos, key info = some x := by
    rw [mem_foldl_tallied]
    simp
  have htally : (infos.foldl (tallied key wallClock) ∅).getD x {} =
      Tally.addAll {} wallClock (infos.filter (key · = some x)) := by
    rw [getD_foldl_tallied, Std.TreeMap.getD_emptyc]
  have hget : x ∈ infos.foldl (tallied key wallClock) ∅ →
      (infos.foldl (tallied key wallClock) ∅)[x]? =
        some (Tally.addAll {} wallClock (infos.filter (key · = some x))) := by
    intro hin
    rw [← htally]
    exact Std.TreeMap.getElem?_eq_some_getD hin
  rw [Std.TreeMap.mem_toList_iff_getElem?_eq_some, ← hmem]
  constructor
  · intro hrow
    have hin : x ∈ infos.foldl (tallied key wallClock) ∅ := by
      rw [Std.TreeMap.mem_iff_isSome_getElem?, hrow]
      rfl
    exact ⟨hin, Option.some.inj (hrow.symm.trans (hget hin))⟩
  · rintro ⟨hin, rfl⟩
    exact hget hin

/-- The order of the packets does not matter to the tallies. -/
theorem toList_foldl_eq_of_perm (h : infos.Perm infos') :
    (infos.foldl (tallied key wallClock) ∅).toList =
      (infos'.foldl (tallied key wallClock) ∅).toList := by
  have hnodup : ∀ m : Std.TreeMap κ Tally, m.toList.Nodup := by
    intro m
    apply List.Nodup.of_map Prod.fst
    rw [Std.TreeMap.map_fst_toList_eq_keys]
    exact Std.TreeMap.nodup_keys
  have hsorted : ∀ m : Std.TreeMap κ Tally,
      m.toList.Pairwise fun a b => compare a.1 b.1 = .lt := fun m =>
    Std.TreeMap.ordered_keys_toList
  refine List.Perm.eq_of_pairwise ?_ (hsorted _) (hsorted _) ?_
  · intro a b _ _ hab hba
    exact absurd hba (Std.OrientedCmp.not_lt_of_lt hab)
  · rw [List.perm_ext_iff_of_nodup (hnodup _) (hnodup _)]
    rintro ⟨x, t⟩
    rw [mem_toList_foldl_tallied, mem_toList_foldl_tallied,
      Tally.addAll_eq_of_perm (h.filter _)]
    simp only [h.mem_iff]

omit [Ord κ] [Std.TransOrd κ] [Std.LawfulEqOrd κ] in
/-- What is counted by keys comes to what is counted of the packets that have one. -/
theorem sum_by_key {keys : List κ} (hnodup : keys.Nodup)
    (hall : ∀ info ∈ infos, ∀ x, key info = some x → x ∈ keys) (g : CaptureInfo → Nat) :
    (keys.map fun x => ((infos.filter (key · = some x)).map g).sum).sum =
      ((infos.filter (key ·|>.isSome)).map g).sum := by
  induction infos with
  | nil => simp
  | cons info infos ih =>
    have hrest := ih fun other hother => hall other (List.mem_cons_of_mem _ hother)
    cases hkey : key info with
    | none => simpa [List.filter_cons, hkey] using hrest
    | some y =>
      have hy : y ∈ keys := hall info List.mem_cons_self y hkey
      have hone : ∀ x, (((info :: infos).filter (key · = some x)).map g).sum =
          (if y = x then g info else 0) + ((infos.filter (key · = some x)).map g).sum := by
        intro x
        by_cases hx : y = x <;> simp [hkey, hx]
      have hsum : (keys.map fun x => if y = x then g info else 0).sum = g info := by
        rw [← List.sum_toFinset _ hnodup, Finset.sum_ite_eq]
        simp [hy]
      simp only [hone]
      rw [List.sum_map_add, hsum, hrest]
      simp [hkey]

/-- The tallies add up to the packets that have a key. -/
theorem sum_foldl_tallied {f : Tally → Nat} {g : CaptureInfo → Nat}
    (hf : ∀ infos, f (Tally.addAll {} wallClock infos) = (infos.map g).sum) :
    ((infos.foldl (tallied key wallClock) ∅).toList.map fun row => f row.2).sum =
      ((infos.filter (key ·|>.isSome)).map g).sum := by
  have hrows : (infos.foldl (tallied key wallClock) ∅).toList.map (fun row => f row.2) =
      (infos.foldl (tallied key wallClock) ∅).keys.map
        fun x => ((infos.filter (key · = some x)).map g).sum := by
    rw [← Std.TreeMap.map_fst_toList_eq_keys, List.map_map]
    apply List.map_congr_left
    rintro ⟨x, t⟩ hrow
    obtain ⟨-, rfl⟩ := mem_toList_foldl_tallied.1 hrow
    exact hf _
  rw [hrows]
  apply sum_by_key Std.TreeMap.nodup_keys
  intro info hinfo x hkey
  rw [Std.TreeMap.mem_keys, mem_foldl_tallied]
  exact Or.inr ⟨info, hinfo, hkey⟩

end Tallied

/-! ## All counters -/

namespace Traffic

/-- The counters after packets were counted, each at some time of the wall clock. -/
def counting (updates : List (Int × CaptureInfo)) : Traffic :=
  updates.foldl (fun t update => t.record update.1 update.2) {}

/-- From the epoch on, the wall clock does not matter. -/
theorem counting_eq {updates : List (Int × CaptureInfo)}
    (h : ∀ update ∈ updates, 0 ≤ update.2.timestamp.nanos) :
    counting updates = recordAll {} 0 (updates.map (·.2)) := by
  unfold counting recordAll
  rw [List.foldl_map]
  apply List.foldl_ext
  intro t update hupdate
  have hnanos := h update hupdate
  unfold record
  rw [Timestamp.toMillis_of_nonneg hnanos, Timestamp.toMillis_of_nonneg hnanos]

/-- The totals are the sums of the tallies by interface, and the tallies by VLAN add up to the
packets with a tag. Each tally counts the packets of its interface, or of its VLAN. -/
structure AddsUp (t : Traffic) (infos : List CaptureInfo) : Prop where
  totalPackets : t.totalPackets = (t.interfaces.toList.map (·.2.packets)).sum
  totalBytes : t.totalBytes = (t.interfaces.toList.map (·.2.bytes)).sum
  capturedBytes : t.capturedBytes = (t.interfaces.toList.map (·.2.capturedBytes)).sum
  taggedPackets : (t.vlans.toList.map (·.2.packets)).sum =
    (infos.filter (·.vlan.isSome)).length
  taggedBytes : (t.vlans.toList.map (·.2.bytes)).sum =
    ((infos.filter (·.vlan.isSome)).map (·.length)).sum
  taggedCapturedBytes : (t.vlans.toList.map (·.2.capturedBytes)).sum =
    ((infos.filter (·.vlan.isSome)).map (·.captureLength)).sum
  interfaces : ∀ i tally, (i, tally) ∈ t.interfaces.toList →
    tally.Counts (infos.filter (·.ifindex = i))
  vlans : ∀ id tally, (id, tally) ∈ t.vlans.toList →
    tally.Counts (infos.filter (·.vlanId? = some id))

variable {infos infos' : List CaptureInfo} {i : Int} {id : Nat} {tally : Tally}

theorem mem_interfaces_recordAll : (i, tally) ∈ (recordAll {} 0 infos).interfaces.toList ↔
    (∃ info ∈ infos, info.ifindex = i) ∧
      tally = Tally.addAll {} 0 (infos.filter (·.ifindex = i)) := by
  rw [interfaces_recordAll, mem_toList_foldl_tallied]
  simp only [Option.some.injEq]

theorem mem_vlans_recordAll : (id, tally) ∈ (recordAll {} 0 infos).vlans.toList ↔
    (∃ info ∈ infos, info.vlanId? = some id) ∧
      tally = Tally.addAll {} 0 (infos.filter (·.vlanId? = some id)) := by
  rw [vlans_recordAll, mem_toList_foldl_tallied]

theorem addsUp_recordAll (h : ∀ info ∈ infos, 0 ≤ info.timestamp.nanos) :
    (recordAll {} 0 infos).AddsUp infos := by
  obtain ⟨hpackets, hbytes, hcaptured, -⟩ := totals_recordAll {} 0 infos
  have hinterfaces := interfaces_recordAll {} 0 infos
  have hvlans := vlans_recordAll {} 0 infos
  have htagged : ∀ info : CaptureInfo, info.vlanId?.isSome = info.vlan.isSome := by
    intro info
    simp [CaptureInfo.vlanId?]
  refine ⟨?_, ?_, ?_, ?_, ?_, ?_, ?_, ?_⟩
  · rw [hpackets, hinterfaces, sum_foldl_tallied (Tally.packets_addAll 0)]
    simp
  · rw [hbytes, hinterfaces, sum_foldl_tallied (Tally.bytes_addAll 0)]
    simp
  · rw [hcaptured, hinterfaces, sum_foldl_tallied (Tally.capturedBytes_addAll 0)]
    simp
  · rw [hvlans, sum_foldl_tallied (Tally.packets_addAll 0)]
    simp [htagged]
  · rw [hvlans, sum_foldl_tallied (Tally.bytes_addAll 0)]
    simp only [htagged]
  · rw [hvlans, sum_foldl_tallied (Tally.capturedBytes_addAll 0)]
    simp only [htagged]
  · intro i tally hrow
    obtain ⟨-, rfl⟩ := mem_interfaces_recordAll.1 hrow
    exact Tally.counts_addAll 0 fun info hinfo => h info (List.mem_of_mem_filter hinfo)
  · intro id tally hrow
    obtain ⟨-, rfl⟩ := mem_vlans_recordAll.1 hrow
    exact Tally.counts_addAll 0 fun info hinfo => h info (List.mem_of_mem_filter hinfo)

theorem toList_eq_of_perm (h : infos.Perm infos') :
    (recordAll {} 0 infos).interfaces.toList = (recordAll {} 0 infos').interfaces.toList ∧
      (recordAll {} 0 infos).vlans.toList = (recordAll {} 0 infos').vlans.toList := by
  simp only [interfaces_recordAll, vlans_recordAll]
  exact ⟨toList_foldl_eq_of_perm h, toList_foldl_eq_of_perm h⟩

/-! ## Rows in order -/

theorem busier_iff {a b : Int × Tally} : busier a b = true ↔
    b.2.packets < a.2.packets ∨ a.2.packets = b.2.packets ∧ a.1 ≤ b.1 := by
  simp [busier]

theorem busier_trans (a b c : Int × Tally) (hab : busier a b = true) (hbc : busier b c = true) :
    busier a c = true := by
  rw [busier_iff] at hab hbc ⊢
  omega

theorem busier_total (a b : Int × Tally) : (busier a b || busier b a) = true := by
  rw [Bool.or_eq_true, busier_iff, busier_iff]
  omega

/-- The map goes through the VLANs by number already. -/
theorem byVlan_eq (t : Traffic) : t.byVlan = t.vlans.toList := by
  apply List.mergeSort_of_pairwise
  apply Std.TreeMap.ordered_keys_toList.imp
  intro a b hab
  have hlt := Nat.compare_eq_lt.1 hab
  exact decide_eq_true hlt.le

end Traffic

/-- Rows that are told apart by what they are sorted by come in the same order, in whatever order
they were before. -/
theorem mergeSort_eq_of_perm {α : Type} {le : α → α → Bool} {rows rows' : List α}
    (htrans : ∀ a b c, le a b = true → le b c = true → le a c = true)
    (htotal : ∀ a b, (le a b || le b a) = true)
    (hanti : ∀ a ∈ rows, ∀ b ∈ rows, le a b = true → le b a = true → a = b)
    (h : rows'.Perm rows) : rows'.mergeSort le = rows.mergeSort le := by
  have hperm : (rows'.mergeSort le).Perm (rows.mergeSort le) :=
    ((rows'.mergeSort_perm le).trans h).trans (rows.mergeSort_perm le).symm
  refine List.Perm.eq_of_pairwise ?_ (List.pairwise_mergeSort htrans htotal rows')
    (List.pairwise_mergeSort htrans htotal rows) hperm
  intro a b ha hb
  rw [List.mem_mergeSort] at ha hb
  exact hanti a (h.mem_iff.1 ha) b hb

section Rows
variable {κ : Type} [Ord κ] [Std.TransOrd κ] [Std.LawfulEqOrd κ] {m : Std.TreeMap κ Tally}

theorem row_eq {a b : κ × Tally} (ha : a ∈ m.toList) (hb : b ∈ m.toList) (hkey : a.1 = b.1) :
    a = b := by
  rw [Std.TreeMap.mem_toList_iff_getElem?_eq_some] at ha hb
  rw [hkey] at ha
  exact Prod.ext hkey (Option.some.inj (ha.symm.trans hb))

end Rows

namespace Kernel

/-- The orders do not matter. -/
theorem reportOf_of_perm {t : Traffic} {interfaces : List (Int × Tally)}
    {vlans : List (Nat × Tally)} (hi : interfaces.Perm t.interfaces.toList)
    (hv : vlans.Perm t.vlans.toList) (k : Kernel) :
    k.reportOf interfaces vlans = k.trafficReport t := by
  have hinterfaces : Traffic.sortInterfaces interfaces = t.busiestFirst := by
    apply mergeSort_eq_of_perm Traffic.busier_trans Traffic.busier_total _ hi
    intro a ha b hb hab hba
    rw [Traffic.busier_iff] at hab hba
    exact row_eq ha hb (by omega)
  have hvlans : Traffic.sortVlans vlans = t.byVlan := by
    apply mergeSort_eq_of_perm _ _ _ hv
    · intro a b c hab hbc
      rw [decide_eq_true_eq] at hab hbc ⊢
      exact hab.trans hbc
    · intro a b
      simpa using Nat.le_total a.1 b.1
    · intro a ha b hb hab hba
      rw [decide_eq_true_eq] at hab hba
      exact row_eq ha hb (hab.antisymm hba)
  change _ = k.reportOf t.interfaces.toList t.vlans.toList
  unfold reportOf
  rw [hinterfaces, hvlans]
  rfl

end Kernel

/-- The report has a row for each interface that packets came from and for each VLAN that they
belonged to, with what was counted there: those of interfaces by the number of packets, the most
first, and of as many by index; those of VLANs by number. -/
structure TrafficReport.Lists (report : TrafficReport) (infos : List CaptureInfo) : Prop where
  interfaces : ∀ i, i ∈ report.interfaces.map (·.ifindex) ↔ ∃ info ∈ infos, info.ifindex = i
  once : (report.interfaces.map (·.ifindex)).Nodup
  busiest : report.interfaces.Pairwise fun a b => b.tally.packets < a.tally.packets ∨
    a.tally.packets = b.tally.packets ∧ a.ifindex < b.ifindex
  counts : ∀ row ∈ report.interfaces,
    row.tally.Counts (infos.filter (·.ifindex = row.ifindex))
  vlans : ∀ id, id ∈ report.vlans.map (·.1) ↔ ∃ info ∈ infos, info.vlanId? = some id
  ascending : (report.vlans.map (·.1)).Pairwise (· < ·)
  vlanCounts : ∀ row ∈ report.vlans, row.2.Counts (infos.filter (·.vlanId? = some row.1))

namespace Traffic

variable {infos : List CaptureInfo}

theorem lists_recordAll (h : ∀ info ∈ infos, 0 ≤ info.timestamp.nanos) (k : Kernel) :
    (k.trafficReport (recordAll {} 0 infos)).Lists infos := by
  have hadds := addsUp_recordAll h
  have hrows : (k.trafficReport (recordAll {} 0 infos)).interfaces.map (·.ifindex) =
      (recordAll {} 0 infos).busiestFirst.map Prod.fst := by
    simp [Kernel.trafficReport, Kernel.reportOf, busiestFirst]
  have hvlans : (k.trafficReport (recordAll {} 0 infos)).vlans =
      (recordAll {} 0 infos).vlans.toList := byVlan_eq _
  have hperm := (recordAll {} 0 infos).interfaces.toList.mergeSort_perm busier
  have hnodup : ((recordAll {} 0 infos).busiestFirst.map Prod.fst).Nodup := by
    rw [busiestFirst, sortInterfaces, (hperm.map Prod.fst).nodup_iff,
      Std.TreeMap.map_fst_toList_eq_keys]
    exact Std.TreeMap.nodup_keys
  refine ⟨?_, ?_, ?_, ?_, ?_, ?_, ?_⟩
  · intro i
    rw [hrows, busiestFirst, sortInterfaces, (hperm.map Prod.fst).mem_iff,
      Std.TreeMap.map_fst_toList_eq_keys, Std.TreeMap.mem_keys, interfaces_recordAll,
      mem_foldl_tallied]
    simp
  · rw [hrows]
    exact hnodup
  · have hsorted := List.pairwise_mergeSort busier_trans busier_total
      (recordAll {} 0 infos).interfaces.toList
    have hboth := hsorted.and (List.pairwise_map.1 hnodup)
    rw [Kernel.trafficReport, Kernel.reportOf, List.pairwise_map]
    apply hboth.imp
    rintro a b ⟨hab, hne⟩
    rw [busier_iff] at hab
    dsimp only
    omega
  · intro row hrow
    simp only [Kernel.trafficReport, Kernel.reportOf, List.mem_map] at hrow
    obtain ⟨⟨i, tally⟩, hmem, rfl⟩ := hrow
    exact hadds.interfaces i tally (List.mem_mergeSort.1 hmem)
  · intro id
    rw [hvlans, Std.TreeMap.map_fst_toList_eq_keys, Std.TreeMap.mem_keys, vlans_recordAll,
      mem_foldl_tallied]
    simp
  · rw [hvlans, Std.TreeMap.map_fst_toList_eq_keys]
    apply Std.TreeMap.ordered_keys.imp
    intro a b hab
    exact Nat.compare_eq_lt.1 hab
  · intro row hrow
    rw [hvlans] at hrow
    exact hadds.vlans row.1 row.2 hrow

end Traffic

/-- The report does not show in what order the packets came, nor in what order the tallies are gone
through. -/
theorem Kernel.reportOf_of_reordered {infos infos' : List CaptureInfo}
    {interfaces : List (Int × Tally)} {vlans : List (Nat × Tally)} (h : infos'.Perm infos)
    (hi : interfaces.Perm (Traffic.recordAll {} 0 infos').interfaces.toList)
    (hv : vlans.Perm (Traffic.recordAll {} 0 infos').vlans.toList) (k : Kernel) :
    k.reportOf interfaces vlans = k.trafficReport (Traffic.recordAll {} 0 infos) := by
  obtain ⟨hinterfaces, hvlans⟩ := Traffic.toList_eq_of_perm h
  rw [hinterfaces] at hi
  rw [hvlans] at hv
  exact reportOf_of_perm hi hv k

/-- To the route of the traffic, counters with the same report are answered alike. -/
theorem Service.respond_eq_of_report {r : Request} {k : Kernel} {t t' : Traffic}
    (hroute : Route.ofPath? (Route.path r.target) = some .interfaces)
    (hreport : k.trafficReport t' = k.trafficReport t) (s : Service) (uptime : Nat) (h : Handle) :
    s.respond r t' uptime h k = s.respond r t uptime h k := by
  unfold respond
  simp only [hroute, handle, hreport]

namespace Traffic

/-- **The traffic counters add up, in whatever order packets come.** Of packets captured from the
epoch on, the totals are the sums of the tallies by interface, those by VLAN add up to the packets
with a tag, and each tally counts the packets of its interface or VLAN and shows the time of the
newest of them that a signed word of 64 bits has. A request for the traffic is answered with JSON
that shows the rows of a report that lists all this. Another order of the same packets, and any
order in which their tallies are gone through, gives the same report and the same answer. -/
theorem counting_adds_up (updates : List (Int × CaptureInfo))
    (hepoch : ∀ update ∈ updates, 0 ≤ update.2.timestamp.nanos) :
    let t := counting updates
    let infos := updates.map (·.2)
    t.AddsUp infos ∧ (∀ k : Kernel, (k.trafficReport t).Lists infos) ∧
    (∀ (s : Service) r uptime h k, r.method = "GET" → s.allowlist.admits r.client = true →
      Route.ofPath? (Route.path r.target) = some .interfaces → ∃ j,
      s.respond r t uptime h k =
        ({ status := 200, contentType := some "application/json", body := .json j }, s, h, k) ∧
      j.ShowsTraffic (k.trafficReport t)) ∧
    ∀ updates', (updates'.map (·.2)).Perm infos →
      (∀ (k : Kernel) interfaces vlans,
        interfaces.Perm (counting updates').interfaces.toList →
        vlans.Perm (counting updates').vlans.toList →
        k.reportOf interfaces vlans = k.trafficReport t) ∧
      ∀ (s : Service) r uptime h k, Route.ofPath? (Route.path r.target) = some .interfaces →
        s.respond r (counting updates') uptime h k = s.respond r t uptime h k := by
  intro t infos
  have hinfos : ∀ info ∈ infos, 0 ≤ info.timestamp.nanos := by
    intro info hinfo
    obtain ⟨update, hupdate, rfl⟩ := List.mem_map.1 hinfo
    exact hepoch update hupdate
  have ht : t = recordAll {} 0 infos := counting_eq hepoch
  refine ⟨?_, ?_, ?_, ?_⟩
  · rw [ht]
    exact addsUp_recordAll hinfos
  · intro k
    rw [ht]
    exact lists_recordAll hinfos k
  · intro s r uptime h k hmethod hadmits hroute
    rw [Service.respond_of_get hmethod hroute hadmits]
    exact ⟨_, rfl, (k.trafficReport t).showsTraffic_toJson⟩
  · intro updates' hperm
    have hepoch' : ∀ update ∈ updates', 0 ≤ update.2.timestamp.nanos := by
      intro update hupdate
      exact hinfos _ (hperm.mem_iff.1 (List.mem_map_of_mem hupdate))
    rw [counting_eq hepoch', ht]
    constructor
    · intro k interfaces vlans hi hv
      exact Kernel.reportOf_of_reordered hperm hi hv k
    · intro s r uptime h k hroute
      apply Service.respond_eq_of_report hroute
      rw [← Kernel.reportOf_of_reordered hperm (.refl _) (.refl _)]
      exact (Kernel.reportOf_of_perm (.refl _) (.refl _) k).symm

/-- A packet of 60 bytes from the interface `ifindex`, captured `nanos` nanoseconds after the
epoch. -/
def packetAt (nanos : Int) (ifindex : Int) (vlan : Option VlanTag) : CaptureInfo where
  timestamp := ⟨nanos⟩
  captureLength := 60
  length := 60
  ifindex
  vlan

/-- Two interfaces with as many packets, whose tallies are gone through backwards after the packets
came in backwards. -/
theorem counting_adds_up_tie :
    let updates : List (Int × CaptureInfo) := [(0, packetAt 5000000 7 (some ⟨0x2064⟩)),
      (0, packetAt 3000000 2 none), (0, packetAt 1999999 3 (some ⟨0x0064⟩)),
      (0, packetAt 0 3 none)]
    let t := counting updates
    let t' := counting updates.reverse
    let r : Request := { method := "GET", target := "/api/interfaces", client := none }
    (∀ update ∈ updates, 0 ≤ update.2.timestamp.nanos) ∧
      t.AddsUp (updates.map (·.2)) ∧
      (∀ k : Kernel, k.reportOf t'.interfaces.toList.reverse t'.vlans.toList.reverse =
        k.trafficReport t) ∧
      t.byVlan.map (·.1) = [0x064] ∧
      ∀ h k, ∃ j, Service.respond { allowlist := .everyone } r t' 0 h k =
          ({ status := 200, contentType := some "application/json", body := .json j },
            { allowlist := .everyone }, h, k) ∧
        j.ShowsTraffic (k.trafficReport t) := by
  intro updates t t' r
  have hepoch : ∀ update ∈ updates, 0 ≤ update.2.timestamp.nanos := by decide
  obtain ⟨hadds, -, hanswer, horder⟩ := counting_adds_up updates hepoch
  obtain ⟨hreport, hsame⟩ := horder updates.reverse ((List.reverse_perm _).map _)
  refine ⟨hepoch, hadds, ?_, by decide +kernel, ?_⟩
  · intro k
    exact hreport k _ _ (List.reverse_perm _) (List.reverse_perm _)
  · intro h k
    rw [hsame { allowlist := .everyone } r 0 h k (by decide +kernel)]
    exact hanswer _ r 0 h k rfl rfl (by decide +kernel)

/-- A packet captured 2 ^ 63 milliseconds after the epoch, or a little later, leaves the time of its
interface at zero. -/
theorem lastSeen_of_far_time :
    let info := packetAt 9223372036854776000000000 2 none
    0 ≤ info.timestamp.nanos ∧ info.timestamp.wholeMillis = 9223372036854776000 ∧
      ∃ tally, (counting [(0, info)]).interfaces.toList = [(2, tally)] ∧ tally.lastSeen = 0 ∧
        ¬ IsGreatest {n | ∃ info' ∈ [info], n = info'.timestamp.wholeMillis} tally.lastSeen := by
  intro info
  refine ⟨by decide, by decide, ⟨1, 60, 60, 0⟩, by decide +kernel, rfl, ?_⟩
  rintro ⟨⟨info', hinfo', htime⟩, -⟩
  rw [List.mem_singleton.1 hinfo'] at htime
  exact absurd htime (by decide)

end Traffic

end PacketRing
