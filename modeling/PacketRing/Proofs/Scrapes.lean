import Mathlib
import PacketRing.Proofs.CaptureRuns
import PacketRing.Proofs.Totals

/-!
# The metrics

The metrics are counters of their own, moved forward only when they are asked for. Each time they
show what is true at that moment.

* `Session.Records` : the packets that the captures of a run count;
* `Session.scrapes` : the requests that move the metrics and whose query of the kernel succeeds, and
  `Session.throughScrape` a run up to the last of these;
* `Session.Behind` : the metrics are not ahead of what they are moved to;
* `Session.Shown` : what the metrics show at the end of a run;
* `Session.scrapes_show_totals` : they show it whenever they are asked for, and never go back.
-/

namespace PacketRing

/-! ## Polls -/

theorem Effect.polls {s s' : Session} (he : Effect s s') :
    s.handle.reader.Polls s.kernel s'.handle.reader s'.kernel := by
  cases he with
  | idle => exact .refl _ s.kernel
  | reads traffic hc hgoes => exact hgoes.polls
  | @asks c hc hreq =>
    refine ⟨[c], rfl, ?_⟩
    cases c <;> first | rfl | cases hreq
  | queries n service hc =>
    obtain ⟨totals, statistics, hend⟩ := Handle.queried_of_open (k := s.kernel) hc n
    refine ⟨List.replicate n (statisticsCall s.handle.version), by rw [hend], ?_⟩
    rw [hend, List.countP_replicate]
    rfl
  | closes hc =>
    exact ⟨[wakeCall, .unmap s.handle.geometry.mappingSize], List.append_assoc .., rfl⟩

namespace Session

variable {s : Session}

theorem polls_act (s : Session) (w : Surroundings) (a : Act) :
    s.handle.reader.Polls s.kernel (s.act w a).2.handle.reader (s.act w a).2.kernel := by
  have hsettled : ∀ s : Session,
      s.handle.reader.Polls s.kernel s.settled.handle.reader s.settled.kernel := by
    intro s
    unfold settled
    split
    · exact ⟨[.unmap s.handle.geometry.mappingSize], rfl, rfl⟩
    · exact .refl _ s.kernel
  have hperform := (effect_perform { s with kernel := s.kernel.within w } w a).polls
  exact hperform.trans (hsettled _)

theorem polls_after (s : Session) (steps : List (Surroundings × Act)) :
    s.handle.reader.Polls s.kernel (s.after steps).handle.reader (s.after steps).kernel := by
  induction steps generalizing s with
  | nil => exact .refl _ s.kernel
  | cons step steps ih => exact (s.polls_act step.1 step.2).trans (ih _)

end Session

/-! ## What the captures count -/

namespace Session

/-- `s.Records steps infos` : the captures among the steps count the packets `infos`. -/
inductive Records : Session → List (Surroundings × Act) → List CaptureInfo → Prop where
  | nil {s} : Records s [] []
  | capture {s w copyOut running infos ending h' k' steps rest} :
      s.handle.Loops copyOut { s.kernel.within w with running, idle := .stopping } infos ending
        h' k' →
      Records (s.act w (.capture copyOut running)).2 steps rest →
      Records s ((w, .capture copyOut running) :: steps) (infos ++ rest)
  | other {s w a steps rest} : (∀ copyOut running, a ≠ .capture copyOut running) →
      Records (s.act w a).2 steps rest → Records s ((w, a) :: steps) rest

theorem traffic_act {a : Act} (ha : ∀ copyOut running, a ≠ .capture copyOut running) (s : Session)
    (w : Surroundings) : (s.act w a).2.traffic = s.traffic := by
  have hsettled : ∀ s : Session, s.settled.traffic = s.traffic := by
    intro s
    unfold settled
    split <;> rfl
  refine (hsettled _).trans ?_
  cases a with
  | capture copyOut running => exact absurd rfl (ha copyOut running)
  | _ => rfl

/-- The counters gain what the captures count. -/
theorem exists_records (s : Session) (steps : List (Surroundings × Act)) :
    ∃ infos errors, s.Records steps infos ∧
      s.traffic.Gains (s.after steps).traffic infos errors := by
  induction steps generalizing s with
  | nil => exact ⟨[], 0, .nil, .refl s.traffic⟩
  | cons step steps ih =>
    obtain ⟨w, a⟩ := step
    obtain ⟨rest, errors, hrecords, hgains⟩ := ih (s.act w a).2
    by_cases ha : ∀ copyOut running, a ≠ .capture copyOut running
    · rw [traffic_act ha] at hgains
      exact ⟨rest, errors, .other ha hrecords, hgains⟩
    · push Not at ha
      obtain ⟨copyOut, running, rfl⟩ := ha
      obtain ⟨infos, ending, h', k', hl⟩ := s.handle.exists_loops copyOut
        { s.kernel.within w with running, idle := .stopping } rfl
      have hone : s.traffic.Gains (s.act w (.capture copyOut running)).2.traffic infos
          ending.errors := by
        rw [act_capture_of_loops hl]
        exact (s.traffic.gains_recordAll w.wallClock infos).conclude ending
      exact ⟨infos ++ rest, ending.errors + errors, .capture hl hrecords, hone.trans hgains⟩

end Session

namespace Traffic

variable {t t' : Traffic} {infos : List CaptureInfo} {errors : Nat}

/-- There is a row for each interface that packets came from. -/
theorem Gains.size_interfaces (h : t.Gains t' infos errors) : t'.interfaces.size =
    (t.interfaces.keys ++ infos.map (·.ifindex)).toFinset.card := by
  have hkeys : (t.interfaces.keys ++ infos.map (·.ifindex)).toFinset =
      t'.interfaces.keys.toFinset := by
    ext i
    simp [Std.TreeMap.mem_keys, h.mem_interfaces]
  rw [hkeys, List.toFinset_card_of_nodup Std.TreeMap.nodup_keys, Std.TreeMap.length_keys]

theorem Gains.size_le (h : t.Gains t' infos errors) : t.interfaces.size ≤ t'.interfaces.size := by
  rw [(Gains.refl t).size_interfaces, h.size_interfaces, List.map_nil, List.append_nil]
  refine Finset.card_le_card fun i hi => ?_
  rw [List.mem_toFinset] at hi ⊢
  exact List.mem_append_left _ hi

end Traffic

/-! ## Requests that move the metrics -/

namespace Session

variable {s : Session} {w : Surroundings} {a : Act} {cs : List Counts}
  {steps : List (Surroundings × Act)}

/-- The act moves the metrics, and its query of the kernel succeeds. -/
def scrapes (s : Session) (w : Surroundings) : Act → Bool
  | .request r => s.service.exposes r && (s.handle.fault? (s.kernel.within w)).isNone
  | _ => false

/-- The steps up to the last of them that moves the metrics and whose query of the kernel succeeds;
none if there is no such step. -/
def throughScrape (s : Session) : List (Surroundings × Act) → List (Surroundings × Act)
  | [] => []
  | (w, a) :: steps =>
    match (s.act w a).2.throughScrape steps with
    | [] => if s.scrapes w a then [(w, a)] else []
    | step :: rest => (w, a) :: step :: rest

theorem throughScrape_append_singleton (s : Session) (steps : List (Surroundings × Act))
    (w : Surroundings) (a : Act) : s.throughScrape (steps ++ [(w, a)]) =
      if (s.after steps).scrapes w a then steps ++ [(w, a)] else s.throughScrape steps := by
  induction steps generalizing s with
  | nil => rfl
  | cons step steps ih =>
    have hafter : s.after (step :: steps) = (s.act step.1 step.2).2.after steps := rfl
    rw [List.cons_append, throughScrape, ih, hafter]
    by_cases hs : ((s.act step.1 step.2).2.after steps).scrapes w a = true
    · rw [if_pos hs, if_pos hs]
      cases steps <;> rfl
    · rw [if_neg hs, if_neg hs]
      rfl

theorem after_append (s : Session) (steps more : List (Surroundings × Act)) :
    s.after (steps ++ more) = (s.after steps).after more := List.foldl_append

theorem after_append_singleton (s : Session) (steps : List (Surroundings × Act))
    (w : Surroundings) (a : Act) : s.after (steps ++ [(w, a)]) = ((s.after steps).act w a).2 :=
  s.after_append steps [(w, a)]

/-! ## The metrics of a run -/

/-- The metrics are not ahead of what they are moved to. -/
structure Behind (s : Session) : Prop where
  packets : s.service.metrics.packets ≤ s.traffic.totalPackets
  bytes : s.service.metrics.bytes ≤ s.traffic.totalBytes
  drops : s.Metered
  polls : s.service.metrics.polls ≤ s.handle.reader.counts.polls
  interfacesSeen : s.service.metrics.interfacesSeen ≤ s.traffic.interfaces.size

end Session

theorem Handle.reader_socketStats (h : Handle) (k : Kernel) :
    (h.socketStats k).2.1.reader = h.reader := by
  cases hc : h.closed with
  | true => rw [socketStats_of_closed hc]
  | false => rw [socketStats_of_open hc]

/-- No metric of `m'` is less than that of `m`. -/
structure Metrics.Le (m m' : Metrics) : Prop where
  packets : m.packets ≤ m'.packets
  bytes : m.bytes ≤ m'.bytes
  kernelDrops : m.kernelDrops ≤ m'.kernelDrops
  polls : m.polls ≤ m'.polls
  interfacesSeen : m.interfacesSeen ≤ m'.interfacesSeen

theorem Metrics.Le.refl (m : Metrics) : m.Le m := ⟨le_rfl, le_rfl, le_rfl, le_rfl, le_rfl⟩

theorem Metrics.Le.trans {m m' m'' : Metrics} (h : m.Le m') (h' : m'.Le m'') : m.Le m'' :=
  ⟨h.packets.trans h'.packets, h.bytes.trans h'.bytes, h.kernelDrops.trans h'.kernelDrops,
    h.polls.trans h'.polls, h.interfacesSeen.trans h'.interfacesSeen⟩

namespace Session

variable {s : Session} {w : Surroundings} {a : Act} {cs : List Counts}
  {steps : List (Surroundings × Act)}

theorem Behind.drops_le (hb : s.Behind) {k : Kernel} {x : KernelTotals}
    (hx : x ∈ (s.handle.socketStats k).1.toOption) : s.service.metrics.kernelDrops ≤ x.drops := by
  cases hq : (s.handle.socketStats k).1 with
  | error e =>
    rw [hq] at hx
    cases hx
  | ok y =>
    rw [hq] at hx
    cases hx
    exact hb.drops.trans (Handle.totals_of_ok hq).2

/-- What the metrics show once they are moved. -/
theorem Behind.metrics_of_exposes (hb : s.Behind) {r : Request} (hr : s.service.exposes r = true)
    (w : Surroundings) : (s.act w (.request r)).2.service.metrics =
      { packets := s.traffic.totalPackets
        bytes := s.traffic.totalBytes
        kernelDrops :=
          ((s.handle.socketStats (s.kernel.within w)).1.toOption.map (·.drops)).getD
            s.service.metrics.kernelDrops
        polls := s.handle.reader.counts.polls
        interfacesSeen := s.traffic.interfaces.size } := by
  have hdrops := Service.drops_observe (s := s.service)
    (h := (s.handle.socketStats (s.kernel.within w)).2.1) s.traffic
    fun x hx => hb.drops_le (k := s.kernel.within w) hx
  rw [service_of_exposes hr, ← hdrops]
  unfold Service.observe Metrics.advanceTo
  dsimp only
  rw [Handle.reader_socketStats, Nat.max_eq_right hb.packets, Nat.max_eq_right hb.bytes,
    Nat.max_eq_right hb.polls]

theorem Behind.act (hb : s.Behind) (ht : s.handle.totals = .sum cs) (w : Surroundings) (a : Act) :
    (s.act w a).2.Behind ∧ s.service.metrics.Le (s.act w a).2.service.metrics := by
  obtain ⟨infos, errors, -, hgains⟩ := s.exists_records [(w, a)]
  obtain ⟨added, -, hpolls⟩ := s.polls_act w a
  change s.traffic.Gains (s.act w a).2.traffic infos errors at hgains
  have hpackets : s.traffic.totalPackets ≤ (s.act w a).2.traffic.totalPackets := by
    rw [hgains.totalPackets]
    exact Nat.le_add_right ..
  have hbytes : s.traffic.totalBytes ≤ (s.act w a).2.traffic.totalBytes := by
    rw [hgains.totalBytes]
    exact Nat.le_add_right ..
  have hcounts : s.handle.reader.counts.polls ≤ (s.act w a).2.handle.reader.counts.polls := by
    rw [hpolls]
    exact Nat.le_add_right ..
  have hdrops := hb.drops.act ht w a
  obtain ⟨r, rfl, hr⟩ | hnone := exposes_or_not s a
  · have hshown := hb.metrics_of_exposes hr w
    refine ⟨⟨?_, ?_, hdrops, ?_, ?_⟩, ?_⟩
    · rwa [hshown]
    · rwa [hshown]
    · rwa [hshown]
    · rw [hshown]
      exact hgains.size_le
    · rw [hshown]
      refine ⟨hb.packets, hb.bytes, ?_, hb.polls, hb.interfacesSeen⟩
      cases hx : (s.handle.socketStats (s.kernel.within w)).1.toOption with
      | none => exact le_rfl
      | some x => exact hb.drops_le hx
  · have hsame := service_of_not_exposes hnone w
    refine ⟨⟨?_, ?_, hdrops, ?_, ?_⟩, ?_⟩
    · rw [hsame]
      exact hb.packets.trans hpackets
    · rw [hsame]
      exact hb.bytes.trans hbytes
    · rw [hsame]
      exact hb.polls.trans hcounts
    · rw [hsame]
      exact hb.interfacesSeen.trans hgains.size_le
    · rw [hsame]
      exact .refl _

theorem Behind.after (hb : s.Behind) (ht : s.handle.totals = .sum cs)
    (steps : List (Surroundings × Act)) :
    (s.after steps).Behind ∧ s.service.metrics.Le (s.after steps).service.metrics := by
  induction steps generalizing s cs with
  | nil => exact ⟨hb, .refl _⟩
  | cons step steps ih =>
    obtain ⟨hone, hle⟩ := hb.act ht step.1 step.2
    obtain ⟨hrest, hle'⟩ := ih hone (totals_act ht step.1 step.2).2
    exact ⟨hrest, hle.trans hle'⟩

theorem drops_of_scrapes (hb : s.Behind) (hs : s.scrapes w a = true) :
    (s.act w a).2.service.metrics.kernelDrops = (s.act w a).2.handle.totals.drops := by
  cases a with
  | request r =>
    simp only [scrapes, Bool.and_eq_true, Option.isNone_iff_eq_none] at hs
    obtain ⟨hr, hf⟩ := hs
    obtain ⟨c, -, hend, -⟩ := Handle.socketStats_of_ok hf
    rw [hb.metrics_of_exposes hr, totals_of_exposes hr, hend]
    rfl
  | _ => cases hs

theorem drops_of_not_scrapes (hb : s.Behind) (hs : s.scrapes w a = false) :
    (s.act w a).2.service.metrics.kernelDrops = s.service.metrics.kernelDrops := by
  obtain ⟨r, rfl, hr⟩ | hnone := exposes_or_not s a
  · cases hf : s.handle.fault? (s.kernel.within w) with
    | none =>
      simp only [scrapes, hr, hf] at hs
      cases hs
    | some e =>
      rw [hb.metrics_of_exposes hr, (Handle.socketStats_of_fault hf).1]
      rfl
  · rw [service_of_not_exposes hnone]

/-- The drops that the metrics show are those known at the last scrape whose query succeeded. -/
theorem kernelDrops_after (hb : s.Behind) (ht : s.handle.totals = .sum [])
    (hzero : s.service.metrics.kernelDrops = 0) (steps : List (Surroundings × Act)) :
    (s.after steps).service.metrics.kernelDrops =
      (KernelTotals.sum (s.deltasOf (s.throughScrape steps))).drops := by
  induction steps using List.reverseRecOn with
  | nil => exact hzero
  | append_singleton steps step ih =>
    obtain ⟨w, a⟩ := step
    have hbehind := (hb.after ht steps).1
    have htotals := (totals_after ht (steps ++ [(w, a)])).2
    rw [after_append_singleton] at htotals ⊢
    rw [throughScrape_append_singleton]
    by_cases hs : (s.after steps).scrapes w a = true
    · rw [if_pos hs, drops_of_scrapes hbehind hs, htotals]
      rfl
    · rw [if_neg hs, drops_of_not_scrapes hbehind (Bool.eq_false_iff.2 hs), ih]

/-! ## What a scrape shows -/

/-- What the metrics `m` and their text show to a scrape behind `steps`, whose captures counted
`recorded` and which logged `life`. -/
structure Shown (s : Session) (steps : List (Surroundings × Act)) (scrape : Surroundings × Act)
    (recorded : List CaptureInfo) (life : List Call) (m : Metrics) (text : String) : Prop where
  samples : Exposition.samples text =
    [("ringtap_packets_total_total", toString m.packets),
      ("ringtap_bytes_total_total", toString m.bytes),
      ("ringtap_kernel_drops_total_total", toString m.kernelDrops),
      ("ringtap_polls_total_total", toString m.polls),
      ("ringtap_interfaces_seen", toString m.interfacesSeen)]
  packets : m.packets = (s.after steps).traffic.totalPackets
  bytes : m.bytes = (s.after steps).traffic.totalBytes
  polls : m.polls = life.countP Call.isPoll
  interfacesSeen : m.interfacesSeen =
    (s.traffic.interfaces.keys ++ recorded.map (·.ifindex)).toFinset.card
  kernelDrops : m.kernelDrops =
    (KernelTotals.sum (s.deltasOf (s.throughScrape (steps ++ [scrape])))).drops

theorem Begins.behind {o : Options} {pageSize : Nat} {k : Kernel} (hb : s.Begins o pageSize k) :
    s.Behind := by
  constructor <;> simp [Metered, hb.metrics]

/-- **Each scrape shows the true totals, and none goes back.** At any point of a session that began
with metrics at zero, a client that is let in and asks for the metrics gets a text with one sample
for each of them: the packets and bytes counted as traffic by then, as many polls as the kernel
logged since the open, as many interfaces as packets were counted from, and of drops the sum of all
counts given away up to the last scrape whose query succeeded, which may be this one; none if there
is no such scrape. From any point of the session to a later one no metric gets less. -/
theorem scrapes_show_totals {o : Options} {pageSize : Nat} {k : Kernel}
    (hb : s.Begins o pageSize k) (steps : List (Surroundings × Act)) :
    (∃ recorded errors life, s.Records steps recorded ∧
      s.traffic.Gains (s.after steps).traffic recorded errors ∧
      (s.after steps).kernel.calls = s.kernel.calls ++ life ∧
      ∀ w r, (s.after steps).Gets r .metrics → ∃ m text,
        ((s.after steps).act w (.request r)).1 = .response
          { status := 200
            contentType := some "text/plain; version=0.0.4"
            body := .text text } ∧
        ((s.after steps).act w (.request r)).2.service.metrics = m ∧
        s.Shown steps (w, .request r) recorded life m text) ∧
    ∀ more, (s.after steps).service.metrics.Le (s.after (steps ++ more)).service.metrics := by
  obtain ⟨-, ifindex, v, hh, -⟩ := hb.state
  have hstart : s.handle.totals = .sum [] := by rw [hh]; rfl
  have hzero : s.handle.reader.counts.polls = 0 := by rw [hh]; rfl
  have htotals := (totals_after hstart steps).2
  obtain ⟨hbehind, -⟩ := hb.behind.after hstart steps
  obtain ⟨recorded, errors, hrecords, hgains⟩ := s.exists_records steps
  obtain ⟨life, hcalls, hpolls⟩ := s.polls_after steps
  refine ⟨⟨recorded, errors, life, hrecords, hgains, hcalls, fun w r hr => ?_⟩, fun more => ?_⟩
  · have hshown := hbehind.metrics_of_exposes hr.exposes w
    have hdrops := kernelDrops_after hb.behind hstart (by rw [hb.metrics])
      (steps ++ [(w, .request r)])
    rw [after_append_singleton] at hdrops
    refine ⟨_, _, exposition_of_gets hr w, rfl, Metrics.samples_text _, ?_, ?_, ?_, ?_, hdrops⟩
    · rw [hshown]
    · rw [hshown]
    · rw [hshown, hpolls, hzero, Nat.zero_add]
    · rw [hshown]
      exact hgains.size_interfaces
  · rw [after_append]
    exact (hbehind.after htotals more).2

/-- A scrape whose query fails shows the drops of the scrape before it, not those that another query
took meanwhile. -/
theorem scrapes_show_totals_unasked :
    let s := small .v3
    let r : Request := { method := "GET", target := "/metrics", client := none }
    let steps : List (Surroundings × Act) :=
      [({ statistics := [⟨5, 1, 2⟩, ⟨3, 4, 0⟩] }, .request r), ({}, .socketStats)]
    s.Begins (smallOptions .v3) 4096 {} ∧ (s.after steps).handle.totals.drops = 5 ∧
      ∃ text, ((s.after steps).act { failures := [(.statistics, 22)] } (.request r)).1 = .response
          { status := 200
            contentType := some "text/plain; version=0.0.4"
            body := .text text } ∧
        (Exposition.samples text).lookup "ringtap_kernel_drops_total_total" = some "1" := by
  intro s r steps
  obtain ⟨⟨recorded, errors, life, -, -, -, hshown⟩, -⟩ :=
    scrapes_show_totals (begins_small .v3) steps
  obtain ⟨m, text, hanswer, -, hm⟩ := hshown { failures := [(.statistics, 22)] } r
    ⟨rfl, by decide +kernel, by decide +kernel⟩
  have hdrops : m.kernelDrops = 1 := by
    rw [hm.kernelDrops]
    decide +kernel
  refine ⟨begins_small .v3, by decide +kernel, text, hanswer, ?_⟩
  rw [hm.samples, hdrops]
  rfl

end Session

end PacketRing
