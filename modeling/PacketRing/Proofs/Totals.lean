import Mathlib
import PacketRing.Proofs.Answers
import PacketRing.Proofs.Closing

/-!
# The kernel's totals

The kernel forgets its counts as it gives them away, so what one query takes has to show in the
answers of all others.

* `KernelTotals.sum` : the sums of counts;
* `Kernel.answers` : the counts that the kernel gives away in a number of queries;
* `Session.deltas`, `Session.deltasOf` : those that it gives away in a step, and in a run of steps;
* `Service.exposes` : the requests that move the metrics;
* `Session.Shows` : what a step answers wherever the totals are shown;
* `Session.totals_sum_deltas` : the totals are the sums of all counts given away since the open,
  and all that shows them shows these.
-/

namespace PacketRing

namespace KernelTotals

/-- The sums of counts. -/
def sum (cs : List Counts) : KernelTotals where
  packets := (cs.map (·.packets)).sum
  drops := (cs.map (·.drops)).sum
  queueFreezes := (cs.map (·.freezes)).sum

variable {cs : List Counts}

theorem add_of_eq_sum {t : KernelTotals} (h : t = sum cs) (c : Counts) :
    t.add c = sum (cs ++ [c]) := by
  simp [h, sum, add]

theorem drops_sum_le (cs cs' : List Counts) : (sum cs).drops ≤ (sum (cs ++ cs')).drops := by
  simp [sum]

theorem freezes_sum (h : ∀ c ∈ cs, c.freezes = 0) : (sum cs).queueFreezes = 0 := by
  refine List.sum_eq_zero fun n hn => ?_
  obtain ⟨c, hc, rfl⟩ := List.mem_map.1 hn
  exact h c hc

end KernelTotals

/-! ## Queries -/

namespace Kernel

/-- The counts that the kernel gives away in `n` queries, one for each that succeeds. -/
def answers (v : Version) : Nat → Kernel → List Counts
  | 0, _ => []
  | n + 1, k => (k.queryStatistics v).1.toOption.toList ++ answers v n (k.queryStatistics v).2

variable {v : Version} {k : Kernel} {e : Errno} {n : Nat}

theorem failure?_queryStatistics (v : Version) (k : Kernel) :
    (k.queryStatistics v).2.failure? = k.failure? := by
  unfold queryStatistics attempt
  cases k.failure? .statistics <;> rfl

theorem queryStatistics_of_fault (h : k.failure? .statistics = some e) :
    (k.queryStatistics v).1 = .error e := by
  unfold queryStatistics attempt
  rw [h]

theorem queryStatistics_of_ok (h : k.failure? .statistics = none) :
    ∃ c, (k.queryStatistics v).1 = .ok c ∧ (v ≠ .v3 → c.freezes = 0) := by
  unfold queryStatistics attempt
  rw [h]
  exact ⟨_, rfl, fun hv => if_neg hv⟩

theorem counts_of_fault (h : k.failure? .statistics = some e) :
    k.counts v = (.error (.syscall .queryStatistics e), (k.queryStatistics v).2) := by
  have he := queryStatistics_of_fault (v := v) h
  unfold counts
  rcases hq : k.queryStatistics v with ⟨_ | _, k'⟩ <;> rw [hq] at he <;> cases he
  rfl

theorem counts_of_ok {c : Counts} (h : (k.queryStatistics v).1 = .ok c) :
    k.counts v = (.ok c, (k.queryStatistics v).2) := by
  unfold counts
  rcases hq : k.queryStatistics v with ⟨_ | _, k'⟩ <;> rw [hq] at h <;> cases h
  rfl

theorem answers_of_fault (h : k.failure? .statistics = some e) : k.answers v n = [] := by
  induction n generalizing k with
  | zero => rfl
  | succ n ih =>
    have hrest := ih (by rw [failure?_queryStatistics v]; exact h)
    rw [answers, queryStatistics_of_fault h, hrest]
    rfl

theorem freezes_of_mem_answers (hv : v ≠ .v3) {c : Counts} (hc : c ∈ k.answers v n) :
    c.freezes = 0 := by
  induction n generalizing k with
  | zero => cases hc
  | succ n ih =>
    rw [answers, List.mem_append] at hc
    rcases hc with hc | hc
    · cases hf : k.failure? .statistics with
      | some e =>
        rw [queryStatistics_of_fault hf] at hc
        cases hc
      | none =>
        obtain ⟨c', hc', hzero⟩ := queryStatistics_of_ok (v := v) hf
        rw [hc'] at hc
        rw [List.mem_singleton.1 hc]
        exact hzero hv
    · exact ih hc

end Kernel

namespace Handle

/-- Why a query fails, if it does. -/
def fault? (h : Handle) (k : Kernel) : Option CaptureError :=
  if h.closed then some .closed
  else (k.failure? .statistics).map fun e => .syscall .queryStatistics e

/-- What query number `i` of `n`, counted from zero, answers if counts `cs` were given away before
them: their sums with those of the queries up to this one. -/
def known (h : Handle) (k : Kernel) (cs : List Counts) (n i : Nat) :
    Except CaptureError KernelTotals :=
  match h.fault? k with
  | some e => .error e
  | none => .ok (.sum (cs ++ (k.answers h.version n).take (i + 1)))

/-- The report that is made when the kernel's totals are `totals`. -/
def reportOf (h : Handle) (t : Traffic) (uptime : Nat) (totals : Option KernelTotals) :
    StatsReport where
  uptime
  version := h.version
  totalPackets := t.totalPackets
  totalBytes := t.totalBytes
  capturedBytes := t.capturedBytes
  readErrors := t.readErrors
  counts := h.reader.counts
  kernel := totals

variable {h : Handle} {k : Kernel} {e : CaptureError} {n i : Nat} {cs : List Counts}

theorem fault?_of_closed (hc : h.closed = true) : h.fault? k = some .closed := if_pos hc

theorem fault?_of_open (hc : h.closed = false) :
    h.fault? k = (k.failure? .statistics).map fun e => .syscall .queryStatistics e := by
  rw [fault?, if_neg (Bool.eq_false_iff.1 hc)]

theorem fault?_queryStatistics (h : Handle) (k : Kernel) (v : Version) :
    h.fault? (k.queryStatistics v).2 = h.fault? k := by
  unfold fault?
  rw [Kernel.failure?_queryStatistics]

theorem failure?_of_fault (hc : h.closed = false) (hf : h.fault? k = some e) :
    ∃ e', k.failure? .statistics = some e' ∧ e = .syscall .queryStatistics e' := by
  rw [fault?_of_open hc] at hf
  obtain ⟨e', he, heq⟩ := Option.map_eq_some_iff.1 hf
  exact ⟨e', he, heq.symm⟩

theorem open_of_ok (hf : h.fault? k = none) :
    h.closed = false ∧ k.failure? .statistics = none := by
  cases hc : h.closed with
  | true =>
    rw [fault?_of_closed hc] at hf
    cases hf
  | false =>
    rw [fault?_of_open hc, Option.map_eq_none_iff] at hf
    exact ⟨rfl, hf⟩

theorem known_of_fault (hf : h.fault? k = some e) : h.known k cs n i = .error e := by
  unfold known
  rw [hf]

theorem known_of_ok (hf : h.fault? k = none) :
    h.known k cs n i = .ok (.sum (cs ++ (k.answers h.version n).take (i + 1))) := by
  unfold known
  rw [hf]

/-- A query that fails changes nothing, and those behind it fail as well. -/
theorem socketStats_of_fault (hf : h.fault? k = some e) :
    (h.socketStats k).1 = .error e ∧ (h.socketStats k).2.1 = h ∧
      h.fault? (h.socketStats k).2.2 = some e := by
  cases hc : h.closed with
  | true =>
    rw [socketStats_of_closed hc]
    rw [fault?_of_closed hc] at hf ⊢
    cases hf
    exact ⟨rfl, rfl, rfl⟩
  | false =>
    obtain ⟨e', he, rfl⟩ := failure?_of_fault hc hf
    rw [socketStats_of_open hc, Kernel.counts_of_fault he, fault?_queryStatistics]
    exact ⟨rfl, rfl, hf⟩

/-- A query that succeeds adds what the kernel gives away, and those behind it succeed as well. -/
theorem socketStats_of_ok (hf : h.fault? k = none) :
    ∃ c, (k.queryStatistics h.version).1 = .ok c ∧ h.socketStats k =
      (.ok (h.totals.add c), { h with totals := h.totals.add c },
        (k.queryStatistics h.version).2) ∧
      h.fault? (k.queryStatistics h.version).2 = none := by
  obtain ⟨hc, hok⟩ := open_of_ok hf
  obtain ⟨c, hq, -⟩ := Kernel.queryStatistics_of_ok (v := h.version) hok
  rw [socketStats_of_open hc, Kernel.counts_of_ok hq, fault?_queryStatistics]
  exact ⟨c, hq, rfl, hf⟩

theorem totals_of_ok {x : KernelTotals} (hx : (h.socketStats k).1 = .ok x) :
    (h.socketStats k).2.1.totals = x ∧ h.totals.drops ≤ x.drops := by
  cases hf : h.fault? k with
  | some e =>
    rw [(socketStats_of_fault hf).1] at hx
    cases hx
  | none =>
    obtain ⟨c, -, hend, -⟩ := socketStats_of_ok hf
    rw [hend] at hx ⊢
    cases hx
    exact ⟨rfl, Nat.le_add_right ..⟩

theorem socketStats_eq (ht : h.totals = .sum cs) (n : Nat) :
    (h.socketStats k).1 = h.known k cs (n + 1) 0 := by
  cases hf : h.fault? k with
  | some e => rw [(socketStats_of_fault hf).1, known_of_fault hf]
  | none =>
    obtain ⟨c, hq, hend, -⟩ := socketStats_of_ok hf
    rw [hend, known_of_ok hf, Kernel.answers, hq]
    exact congrArg Except.ok (KernelTotals.add_of_eq_sum ht c)

theorem statsReport_eq (ht : h.totals = .sum cs) (t : Traffic) (uptime n : Nat) :
    (h.statsReport t uptime k).1 = h.reportOf t uptime (h.known k cs (n + 1) 0).toOption := by
  rw [← socketStats_eq ht n]
  change (h.socketStats k).2.1.reportOf t uptime (h.socketStats k).1.toOption = _
  cases hf : h.fault? k with
  | some e => rw [(socketStats_of_fault hf).2.1]
  | none =>
    obtain ⟨c, -, hend, -⟩ := socketStats_of_ok hf
    rw [hend]
    rfl

theorem queried_of_fault (hf : h.fault? k = some e) (n : Nat) : (h.queried k n).1 = h := by
  induction n generalizing k with
  | zero => rfl
  | succ n ih =>
    obtain ⟨-, hsame, hf'⟩ := socketStats_of_fault hf
    rw [queried, hsame, ih hf']

/-- The totals go on by what the kernel gives away. -/
theorem totals_queried (hc : h.closed = false) (ht : h.totals = .sum cs) (n : Nat) :
    (h.queried k n).1.totals = .sum (cs ++ k.answers h.version n) := by
  induction n generalizing h k cs with
  | zero =>
    rw [Kernel.answers, List.append_nil]
    exact ht
  | succ n ih =>
    cases hf : h.fault? k with
    | some e =>
      obtain ⟨e', he, -⟩ := failure?_of_fault hc hf
      rw [queried_of_fault hf, Kernel.answers_of_fault he, List.append_nil, ht]
    | none =>
      obtain ⟨c, hq, hend, -⟩ := socketStats_of_ok hf
      rw [queried, Kernel.answers, hend, hq, ← List.append_assoc]
      exact ih (h := { h with totals := h.totals.add c }) hc (KernelTotals.add_of_eq_sum ht c)

end Handle

theorem Service.reports_eq {h : Handle} {k : Kernel} {cs : List Counts}
    (ht : h.totals = .sum cs) (t : Traffic) (uptime n : Nat) :
    (reports t uptime h k n).1 =
      (List.range n).map fun i => h.reportOf t uptime (h.known k cs n i).toOption := by
  induction n generalizing h k cs with
  | zero => rfl
  | succ n ih =>
    rw [List.range_succ_eq_map, List.map_cons, List.map_map, ← Handle.statsReport_eq ht, reports]
    refine congrArg (List.cons _) ?_
    change (reports t uptime (h.socketStats k).2.1 (h.socketStats k).2.2 n).1 = _
    cases hf : h.fault? k with
    | some e =>
      obtain ⟨-, hsame, hf'⟩ := Handle.socketStats_of_fault hf
      rw [hsame, ih ht]
      refine List.map_congr_left fun i _ => ?_
      rw [Function.comp_apply, Handle.known_of_fault hf, Handle.known_of_fault hf']
    | none =>
      obtain ⟨c, hq, hend, hf'⟩ := Handle.socketStats_of_ok hf
      have ht' := KernelTotals.add_of_eq_sum ht c
      rw [hend, ih (h := { h with totals := h.totals.add c }) ht']
      refine List.map_congr_left fun i _ => ?_
      rw [Function.comp_apply, Handle.known_of_ok hf, Kernel.answers, hq]
      change h.reportOf t uptime (h.known _ (cs ++ [c]) n i).toOption = _
      rw [Handle.known_of_ok hf', List.append_assoc]
      rfl

theorem Service.stream_of_admitted {s : Service} {client : Option Address}
    (hadmits : s.allowlist.admits client = true) (n : Nat) (t : Traffic) (uptime : Nat)
    (h : Handle) (k : Kernel) : s.stream client n t uptime h k =
      (101, (reports t uptime h k (n + 1)).1.take n, (reports t uptime h k (n + 1)).2) := by
  unfold stream
  rw [hadmits]
  rfl

theorem Service.drops_observe {s : Service} {h : Handle} (t : Traffic)
    {kernel : Option KernelTotals} (hm : ∀ x ∈ kernel, s.metrics.kernelDrops ≤ x.drops) :
    (s.observe t h kernel).metrics.kernelDrops =
      (kernel.map (·.drops)).getD s.metrics.kernelDrops := by
  cases kernel with
  | none => rfl
  | some x => exact Nat.max_eq_right (hm x rfl)

theorem Service.respond_of_get {s : Service} {r : Request} {route : Route}
    (hmethod : r.method = "GET") (hroute : Route.ofPath? (Route.path r.target) = some route)
    (hadmits : s.allowlist.admits r.client = true) (t : Traffic) (uptime : Nat) (h : Handle)
    (k : Kernel) : s.respond r t uptime h k = s.handle r t uptime h k route := by
  unfold respond
  dsimp only
  rw [hadmits, hroute, hmethod]
  rfl

/-- The request is answered with the metrics, with or without their text. -/
def Service.exposes (s : Service) (r : Request) : Bool :=
  s.allowlist.admits r.client && (r.method == "GET" || r.method == "HEAD") &&
    Route.ofPath? (Route.path r.target) == some .metrics

theorem Service.respond_of_exposes {s : Service} {r : Request} (hr : s.exposes r = true)
    (t : Traffic) (uptime : Nat) (h : Handle) (k : Kernel) :
    (s.respond r t uptime h k).2 =
      (s.observe t (h.socketStats k).2.1 (h.socketStats k).1.toOption, (h.socketStats k).2) := by
  simp only [exposes, Bool.and_eq_true, beq_iff_eq] at hr
  obtain ⟨⟨hadmits, hmethod⟩, hroute⟩ := hr
  unfold respond
  dsimp only
  rw [hadmits, hroute, hmethod]
  simp only [Bool.not_true, Bool.false_eq_true, if_false]
  split <;> rfl

theorem Service.respond_of_not_exposes {s : Service} {r : Request} (hr : s.exposes r = false)
    (t : Traffic) (uptime : Nat) (h : Handle) (k : Kernel) :
    (s.respond r t uptime h k).2.1 = s := by
  unfold exposes at hr
  unfold respond
  dsimp only
  split
  · rfl
  split
  · rfl
  · next route hroute =>
    split
    · rfl
    · next hadmits hknown =>
      cases route with
      | metrics => simp_all
      | _ => split <;> rfl

/-! ## Steps -/

/-- All that a step does to the totals and the counts is a number of queries. -/
theorem Effect.queried {s s' : Session} {cs : List Counts} (he : Effect s s')
    (ht : s.handle.totals = .sum cs) :
    s'.handle.version = s.handle.version ∧ ∃ n,
      s'.kernel.calls.countP Call.isQuery = s.kernel.calls.countP Call.isQuery + n ∧
      s'.handle.totals = .sum (cs ++ s.kernel.answers s.handle.version n) := by
  have hnone : s.handle.totals = .sum (cs ++ s.kernel.answers s.handle.version 0) := by
    rw [ht, Kernel.answers, List.append_nil]
  cases he with
  | idle => exact ⟨rfl, 0, rfl, hnone⟩
  | reads traffic hc hgoes =>
    obtain ⟨added, hcalls, hadded⟩ := hgoes.waited.calls
    refine ⟨rfl, 0, ?_, hnone⟩
    have hquiet : added.filter Call.isQuery = [] := by
      rw [Kernel.filter_of_polls (fun _ => Call.isPoll_of_isQuery) hadded]
      split <;> rfl
    rw [hcalls, List.countP_append, List.countP_eq_length_filter (l := added), hquiet]
    rfl
  | @asks c hc hreq =>
    refine ⟨rfl, 0, ?_, hnone⟩
    change (s.kernel.calls ++ [c]).countP _ = _
    rw [List.countP_append, List.countP_singleton, Call.isQuery_of_isRequest hreq]
    rfl
  | queries n service hc =>
    obtain ⟨totals, statistics, hend⟩ := Handle.queried_of_open (k := s.kernel) hc n
    refine ⟨by rw [hend], n, ?_, Handle.totals_queried hc ht n⟩
    rw [hend, List.countP_append, List.countP_replicate]
    rfl
  | closes hc =>
    refine ⟨rfl, 0, ?_, hnone⟩
    change (s.kernel.calls ++ [wakeCall] ++ [Call.unmap s.handle.geometry.mappingSize]).countP _ = _
    rw [List.countP_append, List.countP_append]
    rfl

namespace Session

variable {s : Session} {w : Surroundings} {a : Act} {cs : List Counts}

/-- How many queries of its counts the kernel gets in a step. -/
def queries (s : Session) (w : Surroundings) (a : Act) : Nat :=
  (s.act w a).2.kernel.calls.countP Call.isQuery - s.kernel.calls.countP Call.isQuery

/-- The counts that the kernel gives away in a step. -/
def deltas (s : Session) (w : Surroundings) (a : Act) : List Counts :=
  (s.kernel.within w).answers s.handle.version (s.queries w a)

/-- The counts that the kernel gives away in a run of steps. -/
def deltasOf (s : Session) : List (Surroundings × Act) → List Counts
  | [] => []
  | (w, a) :: steps => s.deltas w a ++ (s.act w a).2.deltasOf steps

theorem settled_facts (s : Session) :
    s.settled.handle.version = s.handle.version ∧ s.settled.handle.totals = s.handle.totals ∧
      s.settled.kernel.calls.countP Call.isQuery = s.kernel.calls.countP Call.isQuery := by
  unfold settled
  split
  · refine ⟨rfl, rfl, ?_⟩
    change (s.kernel.calls ++ [Call.unmap s.handle.geometry.mappingSize]).countP _ = _
    rw [List.countP_append]
    rfl
  · exact ⟨rfl, rfl, rfl⟩

theorem service_settled (s : Session) : s.settled.service = s.service := by
  unfold settled
  split <;> rfl

theorem totals_act (ht : s.handle.totals = .sum cs) (w : Surroundings) (a : Act) :
    (s.act w a).2.handle.version = s.handle.version ∧
      (s.act w a).2.handle.totals = .sum (cs ++ s.deltas w a) := by
  obtain ⟨hversion, n, hcalls, htotals⟩ :=
    (effect_perform { s with kernel := s.kernel.within w } w a).queried ht
  obtain ⟨hv, hs, hc⟩ := ({ s with kernel := s.kernel.within w }.perform w a).2.settled_facts
  have hn : s.queries w a = n := by
    unfold queries act
    dsimp only
    rw [hc, hcalls]
    exact Nat.add_sub_cancel_left ..
  unfold deltas
  rw [hn]
  exact ⟨hv.trans hversion, hs.trans htotals⟩

theorem totals_after (ht : s.handle.totals = .sum cs) (steps : List (Surroundings × Act)) :
    (s.after steps).handle.version = s.handle.version ∧
      (s.after steps).handle.totals = .sum (cs ++ s.deltasOf steps) := by
  induction steps generalizing s cs with
  | nil =>
    rw [deltasOf, List.append_nil]
    exact ⟨rfl, ht⟩
  | cons step steps ih =>
    obtain ⟨hversion, htotals⟩ := totals_act ht step.1 step.2
    obtain ⟨hversion', htotals'⟩ := ih htotals
    rw [deltasOf, ← List.append_assoc]
    exact ⟨hversion'.trans hversion, htotals'⟩

theorem freezes_of_mem_deltasOf (hv : s.handle.version ≠ .v3) (ht : s.handle.totals = .sum cs)
    {steps : List (Surroundings × Act)} {c : Counts} (hc : c ∈ s.deltasOf steps) :
    c.freezes = 0 := by
  induction steps generalizing s cs with
  | nil => cases hc
  | cons step steps ih =>
    obtain ⟨hversion, htotals⟩ := totals_act ht step.1 step.2
    rw [deltasOf, List.mem_append] at hc
    rcases hc with hc | hc
    · exact Kernel.freezes_of_mem_answers hv hc
    · exact ih (hversion ▸ hv) htotals hc

/-- A step in which queries fail takes nothing from the kernel. -/
theorem deltas_of_fault {e : CaptureError} (a : Act)
    (hf : s.handle.fault? (s.kernel.within w) = some e) : s.deltas w a = [] := by
  unfold deltas
  cases hc : s.handle.closed with
  | true =>
    have hnone : s.queries w a = 0 := by
      unfold queries
      rw [(frozen_act hc w a).calls, Nat.sub_self]
    rw [hnone]
    rfl
  | false =>
    obtain ⟨e', he, -⟩ := Handle.failure?_of_fault hc hf
    exact Kernel.answers_of_fault he

/-! ## The metrics -/

theorem service_of_exposes {r : Request} (hr : s.service.exposes r = true) (w : Surroundings) :
    (s.act w (.request r)).2.service =
      s.service.observe s.traffic (s.handle.socketStats (s.kernel.within w)).2.1
        (s.handle.socketStats (s.kernel.within w)).1.toOption := by
  refine (service_settled _).trans ?_
  exact congrArg Prod.fst (Service.respond_of_exposes hr ..)

theorem service_of_not_exposes (ha : ∀ r, a = .request r → s.service.exposes r = false)
    (w : Surroundings) : (s.act w a).2.service = s.service := by
  refine (service_settled _).trans ?_
  cases a with
  | request r => exact Service.respond_of_not_exposes (ha r rfl) ..
  | _ => rfl

theorem totals_of_exposes {r : Request} (hr : s.service.exposes r = true) (w : Surroundings) :
    (s.act w (.request r)).2.handle.totals =
      (s.handle.socketStats (s.kernel.within w)).2.1.totals := by
  refine (settled_facts _).2.1.trans ?_
  exact congrArg (·.2.1.totals) (Service.respond_of_exposes hr ..)

theorem exposes_or_not (s : Session) (a : Act) :
    (∃ r, a = .request r ∧ s.service.exposes r = true) ∨
      ∀ r, a = .request r → s.service.exposes r = false := by
  cases a with
  | request r =>
    cases hr : s.service.exposes r with
    | true => exact Or.inl ⟨r, rfl, hr⟩
    | false =>
      refine Or.inr ?_
      rintro r' ⟨⟩
      exact hr
  | _ => exact Or.inr nofun

/-- The counter of drops that the metrics show is not ahead of the handle's. -/
def Metered (s : Session) : Prop := s.service.metrics.kernelDrops ≤ s.handle.totals.drops

theorem Metered.act (hm : s.Metered) (ht : s.handle.totals = .sum cs) (w : Surroundings)
    (a : Act) : (s.act w a).2.Metered := by
  have hgrows : s.handle.totals.drops ≤ (s.act w a).2.handle.totals.drops := by
    rw [(totals_act ht w a).2, ht]
    exact KernelTotals.drops_sum_le ..
  have hle := hm.trans hgrows
  unfold Metered at hle ⊢
  obtain ⟨r, rfl, hr⟩ | hnone := exposes_or_not s a
  · rw [service_of_exposes hr]
    rw [totals_of_exposes hr] at hle ⊢
    cases hx : (s.handle.socketStats (s.kernel.within w)).1 with
    | error e => exact hle
    | ok x =>
      rw [(Handle.totals_of_ok hx).1] at hle ⊢
      rw [Service.drops_observe s.traffic fun y hy => by cases hy; exact hle]
      rfl
  · rw [service_of_not_exposes hnone]
    exact hle

/-! ## What is shown -/

/-- What query number `i` of a step answers, counted from zero, if counts `past` were given away
before the step: their sums with those of the queries up to this one. -/
def known (s : Session) (w : Surroundings) (a : Act) (past : List Counts) (i : Nat) :
    Except CaptureError KernelTotals :=
  match s.handle.fault? (s.kernel.within w) with
  | some e => .error e
  | none => .ok (.sum (past ++ (s.deltas w a).take (i + 1)))

/-- The report that a step makes when the kernel's totals are `x`. -/
def report (s : Session) (w : Surroundings) (x : Except CaptureError KernelTotals) : StatsReport :=
  s.handle.reportOf s.traffic w.uptime x.toOption

/-- A request for what a route shows, from a client that is let in. -/
structure Gets (s : Session) (r : Request) (route : Route) : Prop where
  method : r.method = "GET"
  route : Route.ofPath? (Route.path r.target) = some route
  admitted : s.service.allowlist.admits r.client = true

/-- If counts `past` were given away so far, everything that shows the totals shows their sums with
those that are given away meanwhile: the answer to a query, a report that is pushed or asked for,
every report of a stream, and the metrics, which keep what they showed when the query fails. The
JSON of a report has the totals among its members, and the text of the metrics the drops among its
samples. -/
structure Shows (s : Session) (past : List Counts) : Prop where
  inJson (w : Surroundings) (x : Except CaptureError KernelTotals) :
    (s.report w x).toJson.ShowsTotals x.toOption
  queried (w : Surroundings) : (s.act w .socketStats).1 = .totals (s.known w .socketStats past 0)
  pushed (w : Surroundings) :
    (s.act w .push).1 = .report (s.report w (s.known w .push past 0))
  reported (w : Surroundings) (r : Request) : s.Gets r .stats →
    (s.act w (.request r)).1 = .response
      { status := 200
        contentType := some "application/json"
        body := .json (s.report w (s.known w (.request r) past 0)).toJson }
  streamed (w : Surroundings) (client : Option Address) (n : Nat) :
    s.service.allowlist.admits client = true →
      (s.act w (.stream client n)).1 = .messages 101
        ((List.range n).map fun i => s.report w (s.known w (.stream client n) past i))
  exposed (w : Surroundings) (r : Request) : s.Gets r .metrics →
    ∃ m text, (s.act w (.request r)).1 = .response
        { status := 200
          contentType := some "text/plain; version=0.0.4"
          body := .text text } ∧
      (s.act w (.request r)).2.service.metrics = m ∧
      (Exposition.samples text).lookup "ringtap_kernel_drops_total_total" =
        some (toString m.kernelDrops) ∧
      m.kernelDrops = match s.known w (.request r) past 0 with
        | .ok x => x.drops
        | .error _ => s.service.metrics.kernelDrops

theorem queries_eq {n : Nat} (hc : s.handle.closed = false)
    (hn : (({ s with kernel := s.kernel.within w }.perform w a).2.handle,
      ({ s with kernel := s.kernel.within w }.perform w a).2.kernel) =
        s.handle.queried (s.kernel.within w) n) : s.queries w a = n := by
  obtain ⟨totals, statistics, hend⟩ := Handle.queried_of_open (k := s.kernel.within w) hc n
  obtain ⟨-, -, hcalls⟩ :=
    ({ s with kernel := s.kernel.within w }.perform w a).2.settled_facts
  rw [hend] at hn
  unfold queries act
  dsimp only
  rw [hcalls, (Prod.mk.inj hn).2, List.countP_append, List.countP_replicate]
  exact Nat.add_sub_cancel_left ..

theorem known_eq {n : Nat}
    (hn : (({ s with kernel := s.kernel.within w }.perform w a).2.handle,
      ({ s with kernel := s.kernel.within w }.perform w a).2.kernel) =
        s.handle.queried (s.kernel.within w) n) (past : List Counts) (i : Nat) :
    s.known w a past i = s.handle.known (s.kernel.within w) past n i := by
  unfold known
  cases hf : s.handle.fault? (s.kernel.within w) with
  | some e => rw [Handle.known_of_fault hf]
  | none =>
    obtain ⟨hc, -⟩ := Handle.open_of_ok hf
    unfold deltas
    rw [Handle.known_of_ok hf, queries_eq hc hn]

theorem perform_get {r : Request} {route : Route} (hr : s.Gets r route) (w : Surroundings) :
    { s with kernel := s.kernel.within w }.perform w (.request r) =
      let shown := s.service.handle r s.traffic w.uptime s.handle (s.kernel.within w) route
      (.response shown.1,
        { s with service := shown.2.1, handle := shown.2.2.1, kernel := shown.2.2.2 }) := by
  unfold perform
  dsimp only
  rw [Service.respond_of_get hr.method hr.route hr.admitted]

theorem perform_stream {client : Option Address}
    (hadmits : s.service.allowlist.admits client = true) (w : Surroundings) (n : Nat) :
    { s with kernel := s.kernel.within w }.perform w (.stream client n) =
      let made := Service.reports s.traffic w.uptime s.handle (s.kernel.within w) (n + 1)
      (.messages 101 (made.1.take n), { s with handle := made.2.1, kernel := made.2.2 }) := by
  unfold perform
  dsimp only
  rw [Service.stream_of_admitted hadmits]

theorem Gets.exposes {r : Request} (hr : s.Gets r .metrics) : s.service.exposes r = true := by
  unfold Service.exposes
  rw [hr.admitted, hr.method, hr.route]
  rfl

/-- A request for the metrics is answered with the text of those that it leaves. -/
theorem exposition_of_gets {r : Request} (hr : s.Gets r .metrics) (w : Surroundings) :
    (s.act w (.request r)).1 =
      .response (.exposition (s.act w (.request r)).2.service.metrics.text) := by
  rw [service_of_exposes hr.exposes]
  unfold act
  rw [perform_get hr]
  rfl

theorem shows_of_totals (ht : s.handle.totals = .sum cs) (hm : s.Metered) : s.Shows cs where
  inJson w x := (s.report w x).showsTotals_toJson
  queried w := by
    rw [known_eq (n := 1) rfl]
    exact congrArg Answer.totals (Handle.socketStats_eq ht 0)
  pushed w := by
    rw [known_eq (n := 1) rfl]
    exact congrArg Answer.report (Handle.statsReport_eq ht s.traffic w.uptime 0)
  reported w r hr := by
    rw [known_eq (n := 1) (by rw [perform_get hr]; rfl)]
    unfold act
    rw [perform_get hr]
    exact congrArg (fun x => Answer.response (.json x.toJson))
      (Handle.statsReport_eq ht s.traffic w.uptime 0)
  streamed w client n hadmits := by
    have hn := known_eq (w := w) (a := .stream client n) (n := n + 1) (by
      rw [perform_stream hadmits]
      exact Service.reports_snd ..) cs
    unfold act
    rw [perform_stream hadmits]
    dsimp only
    rw [Service.reports_eq ht, ← List.map_take, List.take_range, Nat.min_eq_left (Nat.le_succ n)]
    simp only [hn, report]
  exposed w r hr := by
    refine ⟨_, _, exposition_of_gets hr w, rfl, ?_, ?_⟩
    · rw [Metrics.samples_text]
      rfl
    · rw [known_eq (n := 1) (by rw [perform_get hr]; rfl), ← Handle.socketStats_eq ht 0,
        service_of_exposes hr.exposes]
      cases hx : (s.handle.socketStats (s.kernel.within w)).1 with
      | error e => rfl
      | ok x =>
        have hle := hm.trans (Handle.totals_of_ok hx).2
        rw [Service.drops_observe s.traffic fun y hy => by cases hy; exact hle]
        rfl

theorem freezes_known (hv : s.handle.version ≠ .v3) (hcs : ∀ c ∈ cs, c.freezes = 0) {i : Nat}
    {x : KernelTotals} (hx : s.known w a cs i = .ok x) : x.queueFreezes = 0 := by
  unfold known at hx
  split at hx
  · cases hx
  · cases hx
    refine KernelTotals.freezes_sum fun c hc => ?_
    rcases List.mem_append.1 hc with hc | hc
    · exact hcs c hc
    · exact Kernel.freezes_of_mem_answers hv (List.mem_of_mem_take hc)

theorem metered_after (hm : s.Metered) (ht : s.handle.totals = .sum cs)
    (steps : List (Surroundings × Act)) : (s.after steps).Metered := by
  induction steps generalizing s cs with
  | nil => exact hm
  | cons step steps ih => exact ih (hm.act ht step.1 step.2) (totals_act ht step.1 step.2).2

/-- **No count of the kernel is lost.** A handle starts at zero, without the counts that its open
took. Ever after its totals are the sums of the counts that the kernel gave away since then,
whatever asked for them, and all that shows the totals shows these; freezes are none unless in
version 3. A step in which queries fail takes no counts and leaves the totals as they are. -/
theorem totals_sum_deltas {o : Options} {pageSize : Nat} {k : Kernel}
    (hb : s.Begins o pageSize k) (steps : List (Surroundings × Act)) :
    s.handle.totals = {} ∧ s.kernel.statistics = k.statistics.tail ∧
    (s.after steps).handle.totals = .sum (s.deltasOf steps) ∧
    (s.after steps).Shows (s.deltasOf steps) ∧
    (s.handle.version ≠ .v3 → ∀ w a i x,
      (s.after steps).known w a (s.deltasOf steps) i = .ok x → x.queueFreezes = 0) ∧
    ∀ w a e, (s.after steps).handle.fault? ((s.after steps).kernel.within w) = some e →
      (s.after steps).deltas w a = [] ∧
        ((s.after steps).act w a).2.handle.totals = (s.after steps).handle.totals := by
  obtain ⟨-, ifindex, v, hh, hk⟩ := hb.state
  have hzero : s.handle.totals = {} := by rw [hh]; rfl
  have hstart : s.handle.totals = .sum [] := hzero
  have hm : s.Metered := by
    unfold Metered
    rw [hb.metrics]
    exact Nat.zero_le _
  obtain ⟨hversion, htotals⟩ := totals_after hstart steps
  rw [List.nil_append] at htotals
  refine ⟨hzero, by rw [hk]; rfl, htotals, shows_of_totals htotals (metered_after hm hstart steps),
    fun hv w a i x hx => ?_, fun w a e hf => ?_⟩
  · exact freezes_known (hversion ▸ hv) (fun c hc => freezes_of_mem_deltasOf hv hstart hc) hx
  · have hnone := deltas_of_fault a hf
    refine ⟨hnone, ?_⟩
    rw [(totals_act htotals w a).2, hnone, List.append_nil, htotals]

/-- Counts that the metrics took, after a query that failed, are in the report that comes next. -/
theorem totals_sum_deltas_metrics :
    let s := small .v3
    let steps : List (Surroundings × Act) :=
      [({ statistics := [⟨5, 1, 2⟩, ⟨3, 4, 0⟩] }, .socketStats),
       ({ failures := [(.statistics, 22)] }, .push),
       ({}, .request { method := "GET", target := "/metrics", client := none })]
    s.Begins (smallOptions .v3) 4096 {} ∧ s.deltasOf steps = [⟨5, 1, 2⟩, ⟨3, 4, 0⟩] ∧
      ∃ r, ((s.after steps).act { statistics := [⟨1, 1, 1⟩] } .push).1 = .report r ∧
        r.toJson.ShowsTotals (some ⟨9, 6, 3⟩) := by
  intro s steps
  let w : Surroundings := { statistics := [⟨1, 1, 1⟩] }
  obtain ⟨-, -, -, hshows, -, -⟩ := totals_sum_deltas (begins_small .v3) steps
  have hknown : ((s.after steps).known w .push (s.deltasOf steps) 0).toOption =
      some ⟨9, 6, 3⟩ := by decide +kernel
  refine ⟨begins_small .v3, by decide +kernel, _, hshows.pushed w, ?_⟩
  rw [← hknown]
  exact hshows.inJson w _

end Session

end PacketRing
