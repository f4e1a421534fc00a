import Mathlib
import PacketRing.Proofs.Looks

/-!
# When a read polls

A read polls at every look at a slot of the kernel's and at no other. What the poll answers decides
whether the read looks at the slot again or ends.

* `again_or_halts`, `Halts.not_again`, `Halts.unique` : an answer is of one kind, and says which
  error it stands for;
* `PollOutcome.answer` : what an entry of the script has a poll answer;
* `Kernel.Logs` : polls in the log of the kernel;
* `Reader.polls_follow_policy` : the polls of a read, one by one.
-/

namespace PacketRing

/-! ## Answers -/

/-- Every answer lets the read look again, or ends it. -/
theorem again_or_halts (a : Except Errno (Nat × Nat)) : Again a ∨ ∃ e, Halts a e := by
  rcases a with e | ⟨socket, waker⟩
  · by_cases he : e = interruptedErrno
    · subst he
      exact .inl .interrupted
    · exact .inr ⟨_, .refused he⟩
  · by_cases hzero : (socket, waker) = (0, 0)
    · rw [hzero]
      exact .inr ⟨_, .timedOut⟩
    · cases hw : hasBit waker pollIn with
      | true => exact .inr ⟨_, .woken hw⟩
      | false =>
        cases herr : hasBit socket pollErr with
        | true => exact .inr ⟨_, .failed hw (.inl herr)⟩
        | false =>
          cases hnval : hasBit socket pollNval with
          | true => exact .inr ⟨_, .failed hw (.inr hnval)⟩
          | false => exact .inl (.events hzero hw herr hnval)

namespace Halts

variable {a : Except Errno (Nat × Nat)} {e e' : CaptureError}

theorem not_again (h : Halts a e) : ¬ Again a := by
  intro hagain
  cases h with
  | timedOut =>
    cases hagain with
    | events hzero => exact hzero rfl
  | refused he =>
    cases hagain with
    | interrupted => exact he rfl
  | woken hw =>
    cases hagain with
    | events _ hw' =>
      rw [hw] at hw'
      cases hw'
  | failed _ hs =>
    cases hagain with
    | events _ _ herr hnval =>
      rw [herr, hnval] at hs
      rcases hs with hs | hs <;> cases hs

/-- An answer that ends a read stands for one error. -/
theorem unique (h : Halts a e) (h' : Halts a e') : e = e' := by
  cases h with
  | timedOut =>
    cases h' with
    | timedOut => rfl
    | woken hw => cases hw
    | failed _ hs => rcases hs with hs | hs <;> cases hs
  | refused =>
    cases h' with
    | refused => rfl
  | woken hw =>
    cases h' with
    | timedOut => cases hw
    | woken => rfl
    | failed hw' =>
      rw [hw] at hw'
      cases hw'
  | failed hw hs =>
    cases h' with
    | timedOut => rcases hs with hs | hs <;> cases hs
    | woken hw' =>
      rw [hw'] at hw
      cases hw
    | failed => rfl

end Halts

/-- What a poll answers that ends so. -/
def PollOutcome.answer : PollOutcome → Except Errno (Nat × Nat)
  | .fail e => .error e
  | .timeout => .ok (0, 0)
  | .block => .ok (0, pollIn)
  | .events socket waker => .ok (socket, waker)

/-! ## The log -/

namespace Kernel

variable {k k' k'' : Kernel} {t : Int} {m n : Nat}

theorem poll_of_script {s : PollStep} {rest : List PollStep} (h : k.script = s :: rest)
    (t : Int) : (k.poll t).1 = s.outcome.answer := by
  unfold poll log
  simp only [h]
  cases s.outcome <;> rfl

/-- From `k` to `k'` the kernel logs `n` polls, each for packets and for the wake, with timeout
`t`. -/
def Logs (k : Kernel) (t : Int) (n : Nat) (k' : Kernel) : Prop :=
  ∃ added, k'.calls = k.calls ++ added ∧
    added.filter Call.isPoll = List.replicate n (.poll t pollIn pollIn)

theorem Logs.of_calls (h : k'.calls = k.calls) (t : Int) : k.Logs t 0 k' :=
  ⟨[], by rw [h, List.append_nil], rfl⟩

theorem Logs.trans (h : k.Logs t m k') (h' : k'.Logs t n k'') : k.Logs t (m + n) k'' := by
  obtain ⟨added, hcalls, hadded⟩ := h
  obtain ⟨added', hcalls', hadded'⟩ := h'
  refine ⟨added ++ added', ?_, ?_⟩
  · rw [hcalls', hcalls, List.append_assoc]
  · rw [List.filter_append, hadded, hadded', List.replicate_append_replicate]

end Kernel

namespace Reader

variable {r : Reader} {k : Kernel} {s : Reader × Kernel} {l : Look}
  {result : Except CaptureError Frame × Reader × Kernel}

theorem logs_facing (r : Reader) (k : Kernel) : k.Logs r.cursor.timeout 0 (r.facing k).2 := by
  refine .of_calls ?_ _
  unfold facing release
  split <;> rfl

theorem logs_wait (r : Reader) (k : Kernel) :
    k.Logs r.cursor.timeout 1 ((r.facing k).2.wait (r.facing k).1.cursor.timeout).2 := by
  have hwait : (r.facing k).2.Logs r.cursor.timeout 1
      ((r.facing k).2.wait (r.facing k).1.cursor.timeout).2 := by
    rw [Cursor.timeout_of_start (start_facing r k)]
    exact (r.facing k).2.calls_wait r.cursor.timeout
  exact (logs_facing r k).trans hwait

theorem Turn.logs (h : Turn (r, k) s) :
    k.Logs r.cursor.timeout (r.look k).answer.toList.length s.2 := by
  obtain ⟨r', k'⟩ := s
  rcases h with ⟨-, hu, -, rfl, rfl⟩ | ⟨-, hu, -, rfl, rfl⟩
  · rw [(look_of_user hu).1]
    exact logs_facing r k
  · rw [(look_of_kernel hu).1]
    exact logs_wait r k

theorem logs_of_ends (h : Ends r k result) (hw : (r.cursor.walk k.memory).2 = none) :
    k.Logs r.cursor.timeout (r.look k).answer.toList.length result.2.2 := by
  cases h with
  | record hs => rw [hs] at hw; cases hw
  | packet _ hu =>
    rw [(look_of_user hu).1]
    exact logs_facing r k
  | stopped _ hu =>
    rw [(look_of_kernel hu).1]
    exact logs_wait r k

theorem logs_next (r : Reader) (k : Kernel) :
    k.Logs r.cursor.timeout (r.answers k).length (r.next k).2.2 := by
  induction r, k using next_induct with
  | ends r k h =>
    cases hw : (r.cursor.walk k.memory).2 with
    | some hd =>
      rw [answers_of_walk_some hw, next_of_walk_some hw]
      exact .of_calls rfl _
    | none =>
      rw [answers_of_last h hw]
      exact logs_of_ends h hw
  | turn r k s h ih =>
    rw [Cursor.timeout_of_start h.start] at ih
    rw [answers_of_turn h, List.length_append, h.next_eq]
    exact h.logs.trans ih

/-- The reader counts the polls that it makes. -/
theorem polls_eq_answers (r : Reader) (k : Kernel) :
    (r.next k).2.1.counts.polls = r.counts.polls + (r.answers k).length := by
  obtain ⟨added, hcalls, hadded⟩ := logs_next r k
  obtain ⟨added', hcalls', hpolls⟩ := polls_next r k
  have hsame : added' = added := List.append_cancel_left (hcalls'.symm.trans hcalls)
  rw [hpolls, hsame, List.countP_eq_length_filter, hadded, List.length_replicate]

/-! ## The script -/

/-- A poll answers as the next entry of the script says. -/
theorem answer_look (r : Reader) (k : Kernel) :
    (r.look k).answer.toList.take k.script.length =
      (k.script.take (r.look k).answer.toList.length).map (·.outcome.answer) := by
  by_cases hu : (r.facing k).1.cursor.isUser (r.facing k).2.memory = true
  · rw [(look_of_user hu).1]
    simp
  · rw [(look_of_kernel hu).1]
    cases hs : k.script with
    | nil => rfl
    | cons s rest =>
      have hpoll := Kernel.poll_of_script ((script_facing r k).trans hs)
        (r.facing k).1.cursor.timeout
      rw [hpoll]
      simp

theorem answers_eq (r : Reader) (k : Kernel) :
    (r.answers k).take k.script.length =
      (k.script.take (r.answers k).length).map (·.outcome.answer) := by
  induction r, k using next_induct with
  | ends r k h =>
    cases hw : (r.cursor.walk k.memory).2 with
    | some hd =>
      rw [answers_of_walk_some hw]
      simp
    | none =>
      rw [answers_of_last h hw]
      exact answer_look r k
  | turn r k s h ih =>
    rw [h.script, List.length_drop] at ih
    rw [answers_of_turn h, List.take_append, answer_look, ih, List.length_append, List.take_add,
      List.map_append]

/-! ## The policy -/

/-- What a poll does to the read that makes it at the look `l`: there is another look at the slot,
and a poll again if it still is the kernel's, or the read ends. -/
structure Heeds (c : Cursor) (l : Look) (a : Except Errno (Nat × Nat)) (after : List Look)
    (result : Except CaptureError Frame) : Prop where
  again : Again a → ∃ l' rest, after = l' :: rest ∧ l'.slot = l.slot ∧ l'.released = none ∧
    l'.memory = l.memory.stored l.writes ∧
    (l'.answer.isSome = true ↔ isUserSlot l'.memory c.version (c.offset l.slot) = false)
  halts : ∀ e, Halts a e → after = [] ∧ result = .error e

theorem isSome_answer_of_mem (hl : l ∈ r.looks k) :
    l.answer.isSome = true ↔
      isUserSlot l.memory r.cursor.version (r.cursor.offset l.slot) = false := by
  rw [← isNone_answer_of_mem hl]
  cases l.answer <;> simp

theorem heeds {before after : List Look} {a : Except Errno (Nat × Nat)}
    (h : r.looks k = before ++ l :: after) (ha : l.answer = some a) :
    Heeds r.cursor l a after (r.next k).1 := by
  cases after with
  | nil =>
    -- At the last look no other can follow, and so the answer is one that ends the read.
    obtain ⟨hconcludes, -, -⟩ := next_of_last_look h
    generalize (r.next k).1 = result at hconcludes ⊢
    cases hconcludes with
    | packet hn =>
      rw [hn] at ha
      cases ha
    | stopped ha' hhalts =>
      rw [ha] at ha'
      cases ha'
      refine ⟨fun hagain => absurd hagain hhalts.not_again, fun e he => ⟨rfl, ?_⟩⟩
      rw [he.unique hhalts]
  | cons l' rest =>
    cases follows_of_looks h with
    | passed hp =>
      obtain ⟨hn, -⟩ := hp
      rw [ha] at hn
      cases hn
    | again ha' hagain hreleased hslot hmemory =>
      rw [ha] at ha'
      cases ha'
      have hmem : l' ∈ r.looks k := by
        rw [h]
        simp
      refine ⟨fun _ => ⟨l', rest, rfl, hslot, hreleased, hmemory, ?_⟩,
        fun e he => absurd hagain he.not_again⟩
      rw [← hslot]
      exact isSome_answer_of_mem hmem

/-- A read that fails ends with a poll, and its error is what the poll's answer stands for. -/
theorem exists_of_error {e : CaptureError} (he : (r.next k).1 = .error e) :
    ∃ before l a, r.looks k = before ++ [l] ∧ l.answer = some a ∧ Halts a e := by
  rcases List.eq_nil_or_concat' (r.looks k) with hnil | ⟨before, l, hlooks⟩
  · obtain ⟨hd, hw⟩ := exists_of_looks_nil hnil
    rw [next_of_walk_some hw] at he
    cases he
  · obtain ⟨hconcludes, -, -⟩ := next_of_last_look hlooks
    rw [he] at hconcludes
    cases hconcludes with
    | stopped ha hhalts => exact ⟨before, l, _, hlooks, ha, hhalts⟩

/-- **Polls follow the retry policy.** A read is told by its looks. It logs as many polls as it
counts, each for packets and for the wake, with the timeout that is set, and they answer what the
script says. It polls just at its looks at slots of the kernel's. After each poll, the answer is one
of two kinds: it makes the read look at the slot again, as the kernel left it in the poll, and poll
again if it still is the kernel's; or it ends the read at once, with the error that it stands for.
No read fails in any other way. -/
theorem polls_follow_policy (r : Reader) (k : Kernel) :
    Looked r k ∧
    (∃ added, (r.next k).2.2.calls = k.calls ++ added ∧
      added.filter Call.isPoll =
        List.replicate (r.answers k).length (.poll r.cursor.timeout pollIn pollIn)) ∧
    (r.next k).2.1.counts.polls = r.counts.polls + (r.answers k).length ∧
    (r.answers k).take k.script.length =
      (k.script.take (r.answers k).length).map (·.outcome.answer) ∧
    (∀ l ∈ r.looks k, l.answer.isSome = true ↔
      isUserSlot l.memory r.cursor.version (r.cursor.offset l.slot) = false) ∧
    (∀ before l after a, r.looks k = before ++ l :: after → l.answer = some a →
      (Again a ∨ ∃ e, Halts a e) ∧ Heeds r.cursor l a after (r.next k).1) ∧
    ∀ e, (r.next k).1 = .error e →
      ∃ before l a, r.looks k = before ++ [l] ∧ l.answer = some a ∧ Halts a e :=
  ⟨looked r k, logs_next r k, polls_eq_answers r k, answers_eq r k, fun _ => isSome_answer_of_mem,
    fun _ _ _ a h ha => ⟨again_or_halts a, heeds h ha⟩, fun _ => exists_of_error⟩

end Reader

end PacketRing
