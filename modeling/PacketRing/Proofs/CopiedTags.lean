import Mathlib
import PacketRing.Proofs.CaptureRuns
import PacketRing.Proofs.Spans

/-!
# What copying adds to the counters

A loop that copies packets out reads the same packets as one that leaves them in the ring, but
counts as captured what it copies: of a packet that gets its tag put back, four bytes more than the
ring held.

* `CaptureInfo.gainsTag`, `CaptureInfo.copied` : the packets that do, and what is counted of a copy;
* `Handle.Loops.copied` : a run of the one loop is a run of the other, with copies counted;
* `Traffic.Exceeds` : counters that differ by the tags put back;
* `Session.copying_adds_tags` : how the counters of the two loops differ, and when they do not;
* `Session.tag_counted_as_captured` : a packet of 14 bytes of which a copying loop counts 18.
-/

namespace PacketRing

/-! ## Copies -/

@[simp] theorem length_toBE (w n : Nat) : (toBE w n).length = w := by
  rw [toBE, List.length_reverse, length_toLE]

theorem length_withVlanHeader (data : Bytes) (tci : Nat) : (withVlanHeader data tci).length =
    data.length + if tci ≠ 0 ∧ ethernetHeaderLength ≤ data.length then 4 else 0 := by
  unfold withVlanHeader
  by_cases h : tci = 0 ∨ data.length < ethernetHeaderLength
  · rw [if_pos h, if_neg (by omega), Nat.add_zero]
  · rw [if_neg h, if_pos (by omega)]
    simp only [List.length_append, List.length_take, List.length_drop, length_toBE]
    unfold ethernetHeaderLength at h ⊢
    omega

namespace CaptureInfo

/-- A copy of the packet gets a tag put back: the handle does so, the packet was tagged, with a tag
other than zero, and as much as an Ethernet header was captured. -/
def gainsTag (addVlanHeader : Bool) (info : CaptureInfo) : Bool :=
  addVlanHeader && info.vlan.any (·.tci ≠ 0) && decide (ethernetHeaderLength ≤ info.captureLength)

/-- What is counted of a copy of the packet. -/
def copied (addVlanHeader : Bool) (info : CaptureInfo) : CaptureInfo :=
  { info with captureLength := info.captureLength + if info.gainsTag addVlanHeader then 4 else 0 }

theorem copied_of_not_gainsTag {addVlanHeader : Bool} {info : CaptureInfo}
    (h : info.gainsTag addVlanHeader = false) : info.copied addVlanHeader = info := by
  unfold copied
  rw [h]
  rfl

end CaptureInfo

/-! ## Two runs of the loop -/

/-- The reader is between two reads of a ring that is mapped as a whole. -/
structure Reader.Rests (r : Reader) (k : Kernel) : Prop where
  settled : r.cursor.Free ∨ r.cursor.Holding
  mapping : 0 < r.cursor.geometry.mappingSize
  size : k.memory.size = r.cursor.geometry.mappingSize

theorem Reader.Rests.next {r : Reader} {k : Kernel} (h : r.Rests k) :
    (r.next k).2.1.Rests (r.next k).2.2 := by
  have hgeometry : (r.next k).2.1.cursor.geometry = r.cursor.geometry :=
    Cursor.geometry_of_start (r.start_next k)
  refine ⟨settled_next h.settled, hgeometry ▸ h.mapping, ?_⟩
  rw [(waited_next r k).size, hgeometry, h.size]

namespace Handle

variable {h h' : Handle} {k k' : Kernel} {f : Frame} {infos : List CaptureInfo} {ending : Ending}

/-- Unless the handle is closed, its reader rests. -/
def Rests (h : Handle) (k : Kernel) : Prop := h.closed = false → h.reader.Rests k

theorem Rests.read (hr : h.Rests k) {x : Except CaptureError Frame}
    (hread : h.read k = (x, h', k')) : h'.Rests k' ∧ h'.addVlanHeader = h.addVlanHeader := by
  cases hc : h.closed with
  | true =>
    rw [read_of_closed hc] at hread
    cases hread
    exact ⟨hr, rfl⟩
  | false =>
    rw [read_of_open hc] at hread
    cases hread
    exact ⟨fun _ => (hr hc).next, rfl⟩

theorem Rests.length_data (hr : h.Rests k) (hread : h.read k = (.ok f, h', k')) :
    (data k' f).length = f.info.captureLength := by
  cases hc : h.closed with
  | true =>
    rw [read_of_closed hc] at hread
    cases hread
  | false =>
    have hends := Reader.next_settles (k := k) (hr hc).settled
    have hnext := (hr hc).next
    rw [read_of_open hc] at hread
    obtain ⟨hok, hrest⟩ := Prod.mk.inj hread
    obtain ⟨rfl, rfl⟩ := Prod.mk.inj hrest
    unfold Reader.Settles at hends
    rw [hok] at hends
    rw [hends.2]
    exact hends.1.length_data hnext.mapping hnext.size

theorem length_copyOut (hd : (data k f).length = f.info.captureLength) :
    (h.copyOut k f).data.length =
      f.info.captureLength + if f.info.gainsTag h.addVlanHeader then 4 else 0 := by
  unfold copyOut CaptureInfo.gainsTag
  cases hv : f.info.vlan with
  | none => simp [hd]
  | some tag =>
    cases ha : h.addVlanHeader with
    | false => simp [hd]
    | true => simp [length_withVlanHeader, hd]

theorem counted_of_copy (hd : (data k f).length = f.info.captureLength) :
    h.counted k true f = (h.counted k false f).copied h.addVlanHeader := by
  show { f.info with captureLength := (h.copyOut k f).data.length } = f.info.copied h.addVlanHeader
  rw [length_copyOut hd]
  rfl

/-- A loop that copies packets out reads as one that does not. -/
theorem Loops.copied (hl : Loops false h k infos ending h' k') (hr : h.Rests k) :
    Loops true h k (infos.map (·.copied h.addVlanHeader)) ending h' k' := by
  induction hl with
  | stopped hrun => exact .stopped hrun
  | packet hrun hi _ ih =>
    obtain ⟨f, hread, rfl⟩ := read_of_inspect hi
    obtain ⟨hrests, hadd⟩ := hr.read hread
    have hcopy : inspect _ true _ = _ := inspect_of_read hread
    rw [counted_of_copy (hr.length_data hread), hadd] at hcopy
    rw [hadd] at ih
    exact .packet hrun hcopy (ih hrests)
  | timedOut hrun hi _ ih =>
    have hread := read_of_inspect_error hi
    obtain ⟨hrests, hadd⟩ := hr.read hread
    rw [← hadd]
    exact .timedOut hrun (inspect_of_read_error hread) (ih hrests)
  | closed hrun hi => exact .closed hrun (inspect_of_read_error (read_of_inspect_error hi))
  | failed hrun hi htimeout hclosed =>
    exact .failed hrun (inspect_of_read_error (read_of_inspect_error hi)) htimeout hclosed

end Handle

/-! ## Counters -/

/-- The tally with `n` more bytes captured. -/
def Tally.plusCaptured (t : Tally) (n : Nat) : Tally :=
  { t with capturedBytes := t.capturedBytes + n }

theorem Tally.addAll_copied (t : Tally) (n : Nat) (wallClock : Int) (addVlanHeader : Bool)
    (infos : List CaptureInfo) :
    (t.plusCaptured n).addAll wallClock (infos.map (·.copied addVlanHeader)) =
      (t.addAll wallClock infos).plusCaptured
        (n + 4 * infos.countP (·.gainsTag addVlanHeader)) := by
  induction infos generalizing t n with
  | nil => rfl
  | cons info infos ih =>
    have hone : (t.plusCaptured n).add (info.copied addVlanHeader)
        (info.timestamp.toMillis wallClock) =
          (t.add info (info.timestamp.toMillis wallClock)).plusCaptured
            (n + if info.gainsTag addVlanHeader then 4 else 0) := by
      unfold plusCaptured add CaptureInfo.copied
      simp only [Tally.mk.injEq, true_and, and_true]
      omega
    have hsum : n + (if info.gainsTag addVlanHeader then 4 else 0) +
        4 * infos.countP (·.gainsTag addVlanHeader) =
          n + 4 * (info :: infos).countP (·.gainsTag addVlanHeader) := by
      rw [List.countP_cons]
      split <;> omega
    rw [← hsum]
    refine Eq.trans ?_ (ih (t.add info (info.timestamp.toMillis wallClock)) _)
    rw [← hone]
    rfl

theorem sum_captureLength_copied (addVlanHeader : Bool) (infos : List CaptureInfo) :
    ((infos.map (·.copied addVlanHeader)).map (·.captureLength)).sum =
      (infos.map (·.captureLength)).sum + 4 * infos.countP (·.gainsTag addVlanHeader) := by
  have hsum := (Tally.gains_addAll {} 0 infos).capturedBytes
  have hsum' := (Tally.gains_addAll {} 0 (infos.map (·.copied addVlanHeader))).capturedBytes
  have hall := congrArg Tally.capturedBytes (Tally.addAll_copied {} 0 0 addVlanHeader infos)
  change (Tally.addAll {} 0 _).capturedBytes = (Tally.addAll {} 0 infos).capturedBytes + _ at hall
  simp only [Nat.zero_add] at hsum hsum' hall
  rw [← hsum', hall, hsum]

section Tallied
variable {κ : Type} [Ord κ] [Std.TransOrd κ] [Std.LawfulEqOrd κ] {key : CaptureInfo → Option κ}
  {wallClock : Int} {m : Std.TreeMap κ Tally} {addVlanHeader : Bool} {infos : List CaptureInfo}

theorem getD_foldl_copied [DecidableEq κ]
    (hkey : ∀ info, key (info.copied addVlanHeader) = key info) (x : κ) :
    ((infos.map (·.copied addVlanHeader)).foldl (tallied key wallClock) m).getD x {} =
      ((infos.foldl (tallied key wallClock) m).getD x {}).plusCaptured
        (4 * ((infos.filter (·.gainsTag addVlanHeader)).filter (key · = some x)).length) := by
  have hcopies : (infos.map (·.copied addVlanHeader)).filter (key · = some x) =
      (infos.filter (key · = some x)).map (·.copied addVlanHeader) := by
    rw [List.filter_map]
    simp only [Function.comp_def, hkey]
  have hcount : (infos.filter (key · = some x)).countP (·.gainsTag addVlanHeader) =
      ((infos.filter (·.gainsTag addVlanHeader)).filter (key · = some x)).length := by
    rw [List.countP_eq_length_filter, List.filter_comm]
  rw [getD_foldl_tallied, getD_foldl_tallied, hcopies, ← hcount, ← Nat.zero_add (4 * _),
    ← Tally.addAll_copied]
  rfl

theorem mem_foldl_copied (hkey : ∀ info, key (info.copied addVlanHeader) = key info) (x : κ) :
    x ∈ (infos.map (·.copied addVlanHeader)).foldl (tallied key wallClock) m ↔
      x ∈ infos.foldl (tallied key wallClock) m := by
  rw [mem_foldl_tallied, mem_foldl_tallied]
  simp only [List.mem_map, exists_exists_and_eq_and, hkey]

end Tallied

namespace Traffic

/-- `t'` counts as `t` does, and of each packet of `tagged` four more bytes as captured. -/
structure Exceeds (t t' : Traffic) (tagged : List CaptureInfo) : Prop where
  totalPackets : t'.totalPackets = t.totalPackets
  totalBytes : t'.totalBytes = t.totalBytes
  capturedBytes : t'.capturedBytes = t.capturedBytes + 4 * tagged.length
  readErrors : t'.readErrors = t.readErrors
  interfaces : ∀ i, t'.interfaces.getD i {} =
    (t.interfaces.getD i {}).plusCaptured (4 * (tagged.filter (·.ifindex = i)).length)
  vlans : ∀ id, t'.vlans.getD id {} =
    (t.vlans.getD id {}).plusCaptured (4 * (tagged.filter (·.vlanId? = some id)).length)
  mem_interfaces : ∀ i, i ∈ t'.interfaces ↔ i ∈ t.interfaces
  mem_vlans : ∀ id, id ∈ t'.vlans ↔ id ∈ t.vlans

variable {t t' : Traffic} {tagged : List CaptureInfo}

theorem Exceeds.conclude (h : t.Exceeds t' tagged) (ending : Ending) :
    (t.conclude ending).Exceeds (t'.conclude ending) tagged := by
  cases ending with
  | stopped | closed => exact h
  | failed e =>
    exact ⟨h.totalPackets, h.totalBytes, h.capturedBytes, congrArg (· + 1) h.readErrors,
      h.interfaces, h.vlans, h.mem_interfaces, h.mem_vlans⟩

theorem exceeds_recordAll (t : Traffic) (wallClock : Int) (addVlanHeader : Bool)
    (infos : List CaptureInfo) :
    (t.recordAll wallClock infos).Exceeds
      (t.recordAll wallClock (infos.map (·.copied addVlanHeader)))
      (infos.filter (·.gainsTag addVlanHeader)) := by
  obtain ⟨hpackets, hbytes, hcaptured, herrors⟩ := t.totals_recordAll wallClock infos
  obtain ⟨hpackets', hbytes', hcaptured', herrors'⟩ :=
    t.totals_recordAll wallClock (infos.map (·.copied addVlanHeader))
  refine ⟨?_, ?_, ?_, herrors'.trans herrors.symm, fun i => ?_, fun id => ?_, fun i => ?_,
    fun id => ?_⟩
  · rw [hpackets', hpackets, List.length_map]
  · rw [hbytes', hbytes, List.map_map]
    rfl
  · rw [hcaptured', hcaptured, sum_captureLength_copied, List.countP_eq_length_filter,
      Nat.add_assoc]
  · rw [interfaces_recordAll, interfaces_recordAll, getD_foldl_copied fun _ => rfl]
    simp only [Option.some.injEq]
  · rw [vlans_recordAll, vlans_recordAll, getD_foldl_copied fun _ => rfl]
  · rw [interfaces_recordAll, interfaces_recordAll, mem_foldl_copied fun _ => rfl]
  · rw [vlans_recordAll, vlans_recordAll, mem_foldl_copied fun _ => rfl]

theorem conclude_copied_eq_iff (t : Traffic) (wallClock : Int) (addVlanHeader : Bool)
    (infos : List CaptureInfo) (ending : Ending) :
    (t.recordAll wallClock (infos.map (·.copied addVlanHeader))).conclude ending =
      (t.recordAll wallClock infos).conclude ending ↔
        ∀ info ∈ infos, info.gainsTag addVlanHeader = false := by
  constructor
  · intro hsame
    have hcaptured :=
      ((t.exceeds_recordAll wallClock addVlanHeader infos).conclude ending).capturedBytes
    rw [hsame] at hcaptured
    have hnone : (infos.filter (·.gainsTag addVlanHeader)).length = 0 := by omega
    intro info hinfo
    exact Bool.eq_false_iff.2
      (List.filter_eq_nil_iff.1 (List.eq_nil_of_length_eq_zero hnone) info hinfo)
  · intro hnone
    have hcopies : infos.map (·.copied addVlanHeader) = infos := by
      refine (List.map_congr_left fun info hinfo => ?_).trans infos.map_id
      exact CaptureInfo.copied_of_not_gainsTag (hnone info hinfo)
    rw [hcopies]

end Traffic

/-! ## Sessions -/

theorem Effect.addVlanHeader {s s' : Session} (he : Effect s s') :
    s'.handle.addVlanHeader = s.handle.addVlanHeader := by
  cases he with
  | queries n service hc =>
    obtain ⟨totals, statistics, hend⟩ := Handle.queried_of_open (k := s.kernel) hc n
    rw [hend]
  | _ => rfl

namespace Session

variable {s : Session} {o : Options} {pageSize : Nat} {k : Kernel}

theorem addVlanHeader_after (s : Session) (steps : List (Surroundings × Act)) :
    (s.after steps).handle.addVlanHeader = s.handle.addVlanHeader := by
  have hsettled : ∀ s : Session, s.settled.handle.addVlanHeader = s.handle.addVlanHeader := by
    intro s
    unfold settled
    split <;> rfl
  induction steps generalizing s with
  | nil => rfl
  | cons step steps ih =>
    refine (ih _).trans ((hsettled _).trans ?_)
    exact (effect_perform { s with kernel := s.kernel.within step.1 } step.1 step.2).addVlanHeader

theorem Begins.rests (hb : s.Begins o pageSize k) (steps : List (Surroundings × Act))
    (w : Surroundings) (running : Bool) (idle : Idle) :
    (s.after steps).handle.Rests { (s.after steps).kernel.within w with running, idle } := by
  obtain ⟨hcheck, -⟩ := hb.state
  obtain ⟨hsound, -⟩ := hb.sound_after steps
  intro hc
  have hsettled := hsound.reader.settled
  have hgeometry : (s.after steps).handle.reader.cursor.geometry = o.geometry :=
    Cursor.geometry_of_start hsettled.1
  refine ⟨hsettled.2, ?_, ?_⟩
  · rw [hgeometry]
    exact Options.mappingSize_of_check hcheck
  · rw [hgeometry]
    exact (waited_within _ w).size.trans (hsound.size hc)

/-! ### A tagged packet -/

/-- The options of a small ring whose handle puts tags back. -/
def taggingOptions : Options := { smallOptions .v2 with addVlanHeader := true }

def tagging : Session where
  handle := opened taggingOptions 0 .v2
  kernel := (Handle.acquire taggingOptions 4096 {}).2
  service := { allowlist := .everyone }

theorem begins_tagging : tagging.Begins taggingOptions 4096 {} :=
  ⟨rfl, rfl, rfl, Prod.ext (by decide +kernel) rfl, rfl⟩

/-- The kernel writes a frame of 60 bytes, 14 of them captured, that belongs to VLAN 5. -/
def taggedFrame : Surroundings where
  writes :=
    [⟨0, [17, 0, 0, 0, 60, 0, 0, 0, 14, 0, 0, 0, 48, 0, 0, 0, 0, 0, 0, 0, 0, 0, 0, 0, 5, 0]⟩]

def taggedInfo : CaptureInfo where
  timestamp := ⟨0⟩
  captureLength := 14
  length := 60
  ifindex := 0
  vlan := some ⟨5⟩

/-- The loop reads it, finds nothing more, and is woken. -/
theorem loops_tagging : ∃ h' k', tagging.handle.Loops false
    { tagging.kernel.within taggedFrame with running := true, idle := .stopping } [taggedInfo]
    .closed h' k' := by
  let k : Kernel :=
    { tagging.kernel.within taggedFrame with running := true, idle := .stopping }
  let r : Reader := Reader.countPacket
    { tagging.handle.reader with cursor := tagging.handle.reader.cursor.take k.memory }
  have hnext := Reader.next_of_packet (r := tagging.handle.reader) (k := k) nofun rfl
    (by decide +kernel) (by decide +kernel)
  have hread := Handle.read_of_open (h := tagging.handle) (k := k) rfl
  rw [hnext] at hread
  have hinfo : (tagging.handle.reader.cursor.frame k.memory
      (tagging.handle.reader.cursor.header k.memory)).info = taggedInfo := by decide +kernel
  have hwalk : (r.cursor.walk k.memory).2 = none := by decide +kernel
  have hstop := Reader.claim_of_stop (e := .closed)
    (r := { r with cursor := (r.cursor.walk k.memory).1 }) (k := k) (by decide +kernel)
    (by rw [Kernel.wait_of_stopping (Reader.script_release ..) (Reader.idle_release ..)]; rfl)
  have hlast : (r.next k).1 = .error .closed :=
    congrArg Prod.fst ((Reader.next_of_walk_none hwalk).trans hstop)
  have hend := Handle.read_of_open (h := { tagging.handle with reader := r }) (k := k) rfl
  dsimp only at hend
  rw [hlast] at hend
  rw [← hinfo]
  exact ⟨_, _, .packet rfl (Handle.inspect_of_read hread)
    (.closed rfl (Handle.inspect_of_read_error hend))⟩

theorem captured_tagging :
    (tagging.act taggedFrame (.capture false true)).2.traffic.capturedBytes = 14 ∧
      (tagging.act taggedFrame (.capture true true)).2.traffic.capturedBytes = 18 := by
  obtain ⟨h', k', hl⟩ := loops_tagging
  have hl' := hl.copied (begins_tagging.rests [] taggedFrame true .stopping)
  rw [act_capture_of_loops hl, act_capture_of_loops hl']
  exact ⟨rfl, rfl⟩

/-! ### Both loops -/

/-- **A loop that copies counts the tags it puts back.** At any point of a session, a loop that
copies packets out and one that leaves them in the ring read the same packets, and leave the same
handle and the same kernel. Of each packet whose tag it puts back the copying loop counts four bytes
more as captured, in all, for the packet's interface and for its VLAN; all else it counts alike. So
the two count the same just if there is no such packet. -/
theorem copying_adds_tags (hb : s.Begins o pageSize k) (steps : List (Surroundings × Act))
    (w : Surroundings) (running : Bool) :
    let inPlace := ((s.after steps).act w (.capture false running)).2
    let copying := ((s.after steps).act w (.capture true running)).2
    copying.handle = inPlace.handle ∧ copying.kernel = inPlace.kernel ∧
    ∃ infos ending h' k',
      (s.after steps).handle.Loops false
        { (s.after steps).kernel.within w with running, idle := .stopping } infos ending h' k' ∧
      inPlace.traffic = ((s.after steps).traffic.recordAll w.wallClock infos).conclude ending ∧
      inPlace.traffic.Exceeds copying.traffic (infos.filter (·.gainsTag o.addVlanHeader)) ∧
      (copying.traffic = inPlace.traffic ↔
        ∀ info ∈ infos, info.gainsTag o.addVlanHeader = false) := by
  have hadd : (s.after steps).handle.addVlanHeader = o.addVlanHeader := by
    obtain ⟨-, ifindex, v, hh, -⟩ := hb.state
    rw [addVlanHeader_after, hh]
    rfl
  obtain ⟨infos, ending, h', k', hl⟩ := (s.after steps).handle.exists_loops false
    { (s.after steps).kernel.within w with running, idle := .stopping } rfl
  have hl' := hl.copied (hb.rests steps w running .stopping)
  rw [hadd] at hl'
  dsimp only
  rw [act_capture_of_loops hl, act_capture_of_loops hl']
  exact ⟨rfl, rfl, infos, ending, h', k', hl, rfl,
    ((s.after steps).traffic.exceeds_recordAll w.wallClock o.addVlanHeader infos).conclude ending,
    Traffic.conclude_copied_eq_iff ..⟩

/-- One tag is put back. -/
theorem copying_adds_tags_once :
    let inPlace := (tagging.act taggedFrame (.capture false true)).2
    let copying := (tagging.act taggedFrame (.capture true true)).2
    tagging.Begins taggingOptions 4096 {} ∧ copying.handle = inPlace.handle ∧
      ∃ tagged, tagged.length = 1 ∧ inPlace.traffic.Exceeds copying.traffic tagged := by
  intro inPlace copying
  obtain ⟨hhandle, -, infos, -, -, -, -, -, hexceeds, -⟩ :=
    copying_adds_tags begins_tagging [] taggedFrame true
  obtain ⟨hcaptured, hcaptured'⟩ := captured_tagging
  refine ⟨begins_tagging, hhandle, _, ?_, hexceeds⟩
  have hmore := hexceeds.capturedBytes
  change copying.traffic.capturedBytes = inPlace.traffic.capturedBytes + _ at hmore
  rw [hcaptured, hcaptured'] at hmore
  omega

/-- A frame of which 14 bytes were captured counts as 18 bytes captured where it is copied. -/
theorem tag_counted_as_captured :
    let inPlace := (tagging.act taggedFrame (.capture false true)).2
    let copying := (tagging.act taggedFrame (.capture true true)).2
    tagging.Begins taggingOptions 4096 {} ∧ copying.traffic ≠ inPlace.traffic ∧
      inPlace.traffic.capturedBytes = 14 ∧ copying.traffic.capturedBytes = 18 := by
  intro inPlace copying
  obtain ⟨hcaptured, hcaptured'⟩ := captured_tagging
  refine ⟨begins_tagging, fun hsame => ?_, hcaptured, hcaptured'⟩
  have hboth := congrArg Traffic.capturedBytes hsame
  rw [hcaptured, hcaptured'] at hboth
  cases hboth

end Session

end PacketRing
