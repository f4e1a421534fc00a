import Mathlib
import PacketRing.Settings.CommandLine

/-!
# What the command line gives, and what it leaves

* `uses` : the flags that the arguments give and their values, read off argument by argument, and
  `given`, the values of one flag;
* `Accepts` : flags taken one after the other, as the reader does in every run that comes to its end
  (`ArgumentReader.accepts_of_run`, `accepts_of_parse`);
* `Sets` : what one flag does to the values so far;
* `Overrides` : a value that is given in place of another, if one is given;
* `Merges` : what the settings of a file become, `merges_of_parse` : they do become that.
-/

namespace PacketRing

/-! ## What the arguments give -/

/-- A flag with its value; a switch has the empty one. -/
abbrev Use := Flag × String

/-- What letters behind one hyphen give, and the flag whose value is the next argument. -/
def letterUses : List Char → List Use × Option Flag
  | [] => ([], none)
  | c :: rest =>
    match Flag.ofLetter? c with
    | none => ([], none)
    | some f =>
      if f.takesValue then
        if rest.isEmpty then ([], some f) else ([(f, ArgumentReader.attached rest)], none)
      else ((f, "") :: (letterUses rest).1, (letterUses rest).2)

/-- What a name behind two hyphens gives, and the flag whose value is the next argument. -/
def nameUses (s : List Char) : List Use × Option Flag :=
  match Flag.ofName? (ArgumentReader.splitValue s).1 with
  | none => ([], none)
  | some f =>
    match (ArgumentReader.splitValue s).2 with
    | some v => ([(f, v)], none)
    | none => if f.takesValue then ([], some f) else ([(f, "")], none)

/-- What one argument gives, and the flag whose value is the next argument. -/
def ownUses : List Char → List Use × Option Flag
  | '-' :: '-' :: s => nameUses s
  | '-' :: s => letterUses s
  | _ => ([], none)

/-- What arguments give of which the first may be the value of a flag. -/
def usesFrom : Option Flag → List String → List Use
  | _, [] => []
  | some f, v :: args => (f, v) :: usesFrom none args
  | none, arg :: args => (ownUses arg.toList).1 ++ usesFrom (ownUses arg.toList).2 args

/-- The flags that the arguments give, with their values. -/
def uses (args : List String) : List Use := usesFrom none args

/-- The values among `us` for a flag. -/
def valuesOf (f : Flag) (us : List Use) : List String :=
  us.filterMap fun u => if u.1 = f then some u.2 else none

/-- The values that the arguments give to a flag, none if it is not among them. -/
def given (args : List String) (f : Flag) : List String := valuesOf f (uses args)

/-! ### Spellings -/

section Spellings
variable {f : Flag}

theorem ofName?_longName (f : Flag) : Flag.ofName? f.longName = some f := by
  cases f <;> decide +kernel

theorem splitValue_longName (f : Flag) :
    ArgumentReader.splitValue f.longName.toList = (f.longName, none) := by
  cases f <;> decide +kernel

theorem splitValue_attached (f : Flag) (v : List Char) :
    ArgumentReader.splitValue (f.longName.toList ++ '=' :: v) =
      (f.longName, some (String.ofList v)) := by
  have hall : f.longName.toList.all (fun c => decide (c ≠ '=')) = true := by
    cases f <;> decide +kernel
  have hname := List.all_eq_true.1 hall
  unfold ArgumentReader.splitValue
  rw [List.takeWhile_append_of_pos hname, List.dropWhile_append_of_pos hname]
  show (String.ofList (f.longName.toList ++ []), some (String.ofList v)) = _
  rw [List.append_nil, String.ofList_toList]

theorem usesFrom_name (s : String) (args : List String) : usesFrom none (("--" ++ s) :: args) =
    (nameUses s.toList).1 ++ usesFrom (nameUses s.toList).2 args := by
  have harg : ("--" ++ s).toList = '-' :: '-' :: s.toList := by simp
  rw [usesFrom, harg]
  rfl

theorem uses_name_attached (f : Flag) (v : String) (args : List String) :
    uses (("--" ++ (f.longName ++ "=" ++ v)) :: args) = (f, v) :: uses args := by
  have hname : nameUses (f.longName ++ "=" ++ v).toList = ([(f, v)], none) := by
    have htext : (f.longName ++ "=" ++ v).toList = f.longName.toList ++ '=' :: v.toList := by simp
    unfold nameUses
    rw [htext, splitValue_attached, ofName?_longName, String.ofList_toList]
  unfold uses
  rw [usesFrom_name, hname]
  rfl

theorem uses_name_next (hf : f.takesValue = true) (v : String) (args : List String) :
    uses (("--" ++ f.longName) :: v :: args) = (f, v) :: uses args := by
  have hname : nameUses f.longName.toList = ([], some f) := by
    unfold nameUses
    rw [splitValue_longName, ofName?_longName]
    exact if_pos hf
  unfold uses
  rw [usesFrom_name, hname]
  rfl

theorem uses_name_switch (hf : f.takesValue = false) (args : List String) :
    uses (("--" ++ f.longName) :: args) = (f, "") :: uses args := by
  have hname : nameUses f.longName.toList = ([(f, "")], none) := by
    unfold nameUses
    rw [splitValue_longName, ofName?_longName]
    exact if_neg (by rw [hf]; exact Bool.false_ne_true)
  unfold uses
  rw [usesFrom_name, hname]
  rfl

theorem uses_letter_next {c : Char} (hc : f.letter? = some c) (hf : f.takesValue = true)
    (v : String) (args : List String) :
    uses (String.ofList ['-', c] :: v :: args) = (f, v) :: uses args := by
  have hletter : ownUses ['-', c] = ([], some f) := by
    cases f <;> cases hc <;> first | decide +kernel | cases hf
  unfold uses
  rw [usesFrom, String.toList_ofList, hletter]
  rfl

end Spellings

/-! ## Flags taken one after the other -/

/-- From the values `a`, with the flags `fs` taken before, taking `us` leads to `a'` and `fs'`. -/
inductive Accepts : Arguments → List Flag → List Use → Arguments → List Flag → Prop where
  | nil {a : Arguments} {fs : List Flag} : Accepts a fs [] a fs
  | cons {a a' a'' : Arguments} {fs fs' : List Flag} {f : Flag} {v : String} {us : List Use} :
    a.set? v f = some a' → (f.isRepeatable = true ∨ f ∉ fs) → Accepts a' (f :: fs) us a'' fs' →
    Accepts a fs ((f, v) :: us) a'' fs'

theorem Accepts.append {a a' a'' : Arguments} {fs fs' fs'' : List Flag} {us us' : List Use}
    (h : Accepts a fs us a' fs') (h' : Accepts a' fs' us' a'' fs'') :
    Accepts a fs (us ++ us') a'' fs'' := by
  induction h with
  | nil => exact h'
  | cons hset hnew _ ih => exact .cons hset hnew (ih h')

namespace ArgumentReader

variable {r r' r'' : ArgumentReader} {f : Flag} {value : Option String} {us us' : List Use}
  {w : Option (Flag × Option String)}

/-- What the flag that waits gives, if it has its value. -/
def pending : Option (Flag × Option String) → List Use
  | some (f, some v) => [(f, v)]
  | _ => []

/-- The flag that waits for its value. -/
def wanting : Option (Flag × Option String) → Option Flag
  | some (f, none) => some f
  | _ => none

/-- Only a flag that takes a value waits for one. -/
def Patient (r : ArgumentReader) : Prop := ∀ f ∈ wanting r.waiting, f.takesValue = true

/-- A reader takes the flag that waits with its value, then `us`, and lets `w` wait. -/
structure Takes (r : ArgumentReader) (us : List Use) (w : Option (Flag × Option String))
    (r' : ArgumentReader) : Prop where
  settled : wanting r.waiting = none
  waiting : r'.waiting = w
  ended : r'.ended = r.ended
  accepts : Accepts r.arguments r.settled (pending r.waiting ++ us) r'.arguments r'.settled

theorem Takes.append (h : r.Takes us none r') (h' : r'.Takes us' w r'') :
    r.Takes (us ++ us') w r'' where
  settled := h.settled
  waiting := h'.waiting
  ended := h'.ended.trans h.ended
  accepts := by
    have hmore := h'.accepts
    rw [h.waiting] at hmore
    rw [← List.append_assoc]
    exact h.accepts.append hmore

theorem of_accept (h : r.accept f value = .ok r') :
    (f.takesValue = true → value ≠ none) ∧ r'.waiting = r.waiting ∧ r'.ended = r.ended ∧
      Accepts r.arguments r.settled [(f, value.getD "")] r'.arguments r'.settled := by
  unfold accept at h
  split_ifs at h with _ _ hvalue hnew
  split at h
  · next a ha =>
    cases h
    refine ⟨fun hf hnone => hvalue ⟨hf, hnone⟩, rfl, rfl, .cons ha ?_ .nil⟩
    by_contra hno
    simp only [not_or, not_not, Bool.not_eq_true] at hno
    exact hnew (by simp [hno])
  · cases h

theorem takes_of_settle (hr : r.Patient) (h : r.settle = .ok r') : r.Takes [] none r' := by
  unfold settle at h
  unfold Patient at hr
  cases hw : r.waiting with
  | none =>
    rw [hw] at h
    cases h
    exact ⟨by rw [hw]; rfl, hw, rfl, by rw [hw]; exact .nil⟩
  | some w =>
    obtain ⟨f, value⟩ := w
    rw [hw] at h hr
    obtain ⟨hvalue, hwait, hended, haccepts⟩ := of_accept h
    cases value with
    | none => exact absurd rfl (hvalue (hr f rfl))
    | some v => exact ⟨by rw [hw]; rfl, hwait, hended, by rw [hw]; exact haccepts⟩

theorem takes_of_give (hr : r.Patient) (h : r.give f value = .ok r') :
    r.Takes [(f, value.getD "")] none r' := by
  unfold give at h
  split at h
  · cases h
  · next r₀ hsettle =>
    have hfirst := takes_of_settle hr hsettle
    obtain ⟨-, hwait, hended, haccepts⟩ := of_accept h
    refine hfirst.append ⟨by rw [hfirst.waiting]; rfl, hwait.trans hfirst.waiting, hended, ?_⟩
    rw [hfirst.waiting]
    exact haccepts

theorem takes_of_await (hr : r.Patient) (h : r.await f = .ok r') :
    r.Takes [] (some (f, none)) r' := by
  unfold await at h
  split at h
  · cases h
  · next r₀ hsettle =>
    have hfirst := takes_of_settle hr hsettle
    cases h
    exact ⟨hfirst.settled, rfl, hfirst.ended, hfirst.accepts⟩

/-- What a reader makes of an argument that gives something and may leave a flag waiting. -/
abbrev TakesOwn (r : ArgumentReader) (own : List Use × Option Flag) (r' : ArgumentReader) : Prop :=
  r.Takes own.1 (own.2.map (·, none)) r' ∧ ∀ f ∈ own.2, f.takesValue = true

theorem patient_of_waiting_none (hw : r.waiting = none) : r.Patient := by
  unfold Patient
  rw [hw]
  exact nofun

theorem takes_of_letters {s : List Char} (hr : r.Patient) (hs : s ≠ [])
    (h : r.letters s = .ok r') : r.TakesOwn (letterUses s) r' := by
  induction s generalizing r with
  | nil => exact absurd rfl hs
  | cons c rest ih =>
    unfold letters at h
    unfold letterUses
    cases hf : Flag.ofLetter? c with
    | none =>
      rw [hf] at h
      cases h
    | some f =>
      rw [hf] at h
      dsimp only at h ⊢
      split_ifs at h ⊢ with htakes hrest
      · exact ⟨takes_of_await hr h, by rintro _ ⟨⟩; exact htakes⟩
      · exact ⟨takes_of_give hr h, nofun⟩
      · split at h
        · cases h
        · next r₀ hgive =>
          have hfirst := takes_of_give hr hgive
          by_cases hnil : rest = []
          · subst hnil
            cases h
            exact ⟨hfirst, nofun⟩
          · obtain ⟨hmore, hwants⟩ := ih (patient_of_waiting_none hfirst.waiting) hnil h
            exact ⟨hfirst.append hmore, hwants⟩

theorem takes_of_long {s : List Char} (hr : r.Patient) (h : r.long s = .ok r') :
    r.TakesOwn (nameUses s) r' := by
  unfold long at h
  unfold nameUses
  generalize splitValue s = cut at h ⊢
  obtain ⟨name, value⟩ := cut
  dsimp only at h ⊢
  cases hf : Flag.ofName? name with
  | none =>
    rw [hf] at h
    cases h
  | some f =>
    rw [hf] at h
    dsimp only at h ⊢
    cases htakes : f.takesValue <;> cases value <;> rw [htakes] at h
    · exact ⟨takes_of_give hr h, nofun⟩
    · cases h
    · exact ⟨takes_of_await hr h, by rintro _ ⟨⟩; exact htakes⟩
    · exact ⟨takes_of_give hr h, nofun⟩

/-- What a reader can make of an argument: the end of the flags, flags that it takes, or the value
of the flag that waits. -/
theorem cases_of_step {arg : String} (hr : r.Patient) (h : r.step arg = .ok r') :
    r.ended = false ∧
      (arg.toList = ['-', '-'] ∧ r' = { r with ended := true } ∨
        r.TakesOwn (ownUses arg.toList) r' ∨
        ∃ f, r.waiting = some (f, none) ∧ r' = { r with waiting := some (f, some arg) }) := by
  unfold step at h
  split_ifs at h with hended
  refine ⟨Bool.not_eq_true _ ▸ hended, ?_⟩
  split at h
  · next harg =>
    cases h
    exact Or.inl ⟨harg, rfl⟩
  · next s _ harg =>
    rw [harg]
    exact Or.inr (Or.inl (takes_of_long hr h))
  · next c s _ hlong harg =>
    have hown : ownUses ('-' :: c :: s) = letterUses (c :: s) := by
      unfold ownUses
      split
      · next s' heq =>
        cases heq
        exact absurd rfl hlong
      · next heq =>
        cases heq
        rfl
      · next _ hno => exact absurd rfl (hno (c :: s))
    rw [harg, hown]
    exact Or.inr (Or.inl (takes_of_letters hr (List.cons_ne_nil c s) h))
  · split at h
    · next f hw =>
      cases h
      exact Or.inr (Or.inr ⟨f, hw, rfl⟩)
    · cases h

theorem pending_map (o : Option Flag) : pending (o.map (·, none)) = [] := by
  cases o <;> rfl

theorem wanting_map (o : Option Flag) : wanting (o.map (·, none)) = o := by
  cases o <;> rfl

theorem nil_of_ended {args : List String} (hr : r.ended = true) (h : args.foldlM step r = .ok r') :
    args = [] := by
  cases args with
  | nil => rfl
  | cons arg args =>
    rw [List.foldlM_cons] at h
    unfold step at h
    rw [if_pos hr] at h
    cases h

theorem accepts_of_run {args : List String} (hr : r.Patient) (h : args.foldlM step r = .ok r')
    (hend : r'.settle = .ok r'') :
    Accepts r.arguments r.settled (pending r.waiting ++ usesFrom (wanting r.waiting) args)
      r''.arguments r''.settled := by
  induction args generalizing r with
  | nil =>
    cases h
    unfold usesFrom
    exact (takes_of_settle hr hend).accepts
  | cons arg args ih =>
    rw [List.foldlM_cons] at h
    cases hstep : r.step arg with
    | error e =>
      rw [hstep] at h
      cases h
    | ok r₁ =>
      rw [hstep] at h
      obtain ⟨-, ⟨harg, rfl⟩ | ⟨hown, hwants⟩ | ⟨f, hw, rfl⟩⟩ := cases_of_step hr hstep
      · obtain rfl := nil_of_ended rfl h
        cases h
        have hpatient : Patient { r with ended := true } := hr
        have hlast := takes_of_settle hpatient hend
        have hnone : usesFrom none [arg] = [] := by
          unfold usesFrom
          rw [harg]
          decide
        rw [hlast.settled, hnone]
        exact hlast.accepts
      · have hpatient : r₁.Patient := by
          unfold Patient
          rw [hown.waiting, wanting_map]
          exact hwants
        have hmore := ih hpatient h
        rw [hown.waiting, pending_map, wanting_map] at hmore
        rw [hown.settled, usesFrom, ← List.append_assoc]
        exact hown.accepts.append hmore
      · have hmore := ih (r := { r with waiting := some (f, some arg) }) nofun h
        rw [hw]
        exact hmore

end ArgumentReader

theorem accepts_of_parse {args : List String} {a : Arguments}
    (h : Arguments.parse args = .ok a) : ∃ fs, Accepts {} [] (uses args) a fs := by
  unfold Arguments.parse at h
  split at h
  · cases h
  · next r hrun =>
    cases hsettle : r.settle with
    | error e =>
      rw [hsettle] at h
      cases h
    | ok r' =>
      rw [hsettle] at h
      cases h
      exact ⟨_, ArgumentReader.accepts_of_run
        (ArgumentReader.patient_of_waiting_none rfl) hrun hsettle⟩

/-! ## The values of one flag -/

variable {α : Type}

/-- A flag with its value replaces a value, if it is the flag `own` for that. -/
def Replaces (own f : Flag) (value : Option α) (x x' : α) : Prop :=
  if f = own then value = some x' else x' = x

/-- A flag with its value adds one to a list, if it is the flag `own` for that. -/
def Appends (own f : Flag) (value : Option α) (xs xs' : List α) : Prop :=
  if f = own then ∃ x, value = some x ∧ xs' = xs ++ [x] else xs' = xs

/-- What a flag with its value does to the values so far. -/
structure Sets (f : Flag) (v : String) (a a' : Arguments) : Prop where
  interface : Replaces .interface f (some (some v)) a.interface a'.interface
  port : Replaces .port f (Arguments.word? v) a.port a'.port
  quiet : Replaces .quiet f (some true) a.quiet a'.quiet
  allowedIps : Appends .allowedIps f (some v) a.allowedIps a'.allowedIps
  tpacketVersion :
    Replaces .tpacketVersion f ((Version.ofText? v).map some) a.tpacketVersion a'.tpacketVersion
  snapLen : Replaces .snapLen f ((Arguments.size? v).map some) a.snapLen a'.snapLen
  addVlanHeader : Replaces .addVlanHeader f (some true) a.addVlanHeader a'.addVlanHeader
  filterFile : Replaces .filterFile f (some (some v)) a.filterFile a'.filterFile
  ebpfObject : Replaces .ebpfObject f (some (some v)) a.ebpfObject a'.ebpfObject
  etherTypes : Appends .etherTypes f (Arguments.word? v) a.etherTypes a'.etherTypes
  fanoutGroup : Replaces .fanoutGroup f ((Arguments.word? v).map some) a.fanoutGroup a'.fanoutGroup
  fanoutType : Replaces .fanoutType f (Fanout.ofText? v) a.fanoutType a'.fanoutType

theorem sets_of_set? {a a' : Arguments} {v : String} {f : Flag} (h : a.set? v f = some a') :
    Sets f v a a' := by
  cases f <;> unfold Arguments.set? at h
  case interface | config | quiet | allowedIps | addVlanHeader | filterFile | ebpfObject | help |
      version =>
    cases h
    constructor <;> first | rfl | exact ⟨_, rfl, rfl⟩
  case port | tpacketVersion | snapLen | etherTypes | fanoutGroup | fanoutType =>
    obtain ⟨x, hx, rfl⟩ := Option.map_eq_some_iff.1 h
    constructor <;>
      first | rfl | exact hx | exact ⟨_, hx, rfl⟩ | exact congrArg (Option.map some) hx

/-- The one value among several, if there is just one, as it is read. -/
def single (read : String → Option α) : List String → Option α
  | [v] => read v
  | _ => none

/-- A value that is read from `values` in place of another, if there are any. -/
def Overrides (read : List String → Option α) (values : List String) (kept x : α) : Prop :=
  if values = [] then x = kept else read values = some x

theorem overrides_nil {read : List String → Option α} {kept x : α} :
    Overrides read [] kept x ↔ x = kept := by
  unfold Overrides
  rw [if_pos rfl]

theorem overrides_of_ne {read : List String → Option α} {values : List String} {kept x : α}
    (h : values ≠ []) : Overrides read values kept x ↔ read values = some x := by
  unfold Overrides
  rw [if_neg h]

section Accepting
variable {own : Flag} {a a' : Arguments} {fs fs' : List Flag} {us : List Use}
  {read : String → Option α}

theorem valuesOf_cons (own f : Flag) (v : String) (us : List Use) :
    valuesOf own ((f, v) :: us) = if f = own then v :: valuesOf own us else valuesOf own us := by
  unfold valuesOf
  rw [List.filterMap_cons]
  split_ifs <;> rfl

/-- A flag that was taken before is not taken again. -/
theorem Accepts.valuesOf_eq_nil (h : Accepts a fs us a' fs') (hown : own.isRepeatable = false)
    (hmem : own ∈ fs) : valuesOf own us = [] := by
  induction h with
  | nil => rfl
  | @cons _ _ _ fs _ f v us _ hnew _ ih =>
    have hne : f ≠ own := by
      rintro rfl
      rcases hnew with hrep | hnot
      · rw [hown] at hrep
        cases hrep
      · exact hnot hmem
    rw [valuesOf_cons, if_neg hne]
    exact ih (List.mem_cons_of_mem f hmem)

theorem Accepts.overrides (own : Flag) (get : Arguments → α) (h : Accepts a fs us a' fs')
    (hown : own.isRepeatable = false)
    (hsets : ∀ {a a' v f}, Sets f v a a' → Replaces own f (read v) (get a) (get a')) :
    Overrides (single read) (valuesOf own us) (get a) (get a') := by
  induction h with
  | nil => exact overrides_nil.2 rfl
  | @cons a₁ a₂ a₃ fs _ f v us hset _ hmore ih =>
    have hstep := hsets (sets_of_set? hset)
    unfold Replaces at hstep
    rw [valuesOf_cons]
    split_ifs at hstep ⊢ with hf
    · have hnil := hmore.valuesOf_eq_nil hown (hf ▸ List.mem_cons_self)
      rw [hnil, overrides_nil] at ih
      rw [hnil, overrides_of_ne (List.cons_ne_nil v []), ih]
      exact hstep
    · rw [← hstep]
      exact ih

theorem Accepts.overrides_list (own : Flag) (get : Arguments → List α)
    (h : Accepts a fs us a' fs')
    (hsets : ∀ {a a' v f}, Sets f v a a' → Appends own f (read v) (get a) (get a')) :
    ∃ xs, (valuesOf own us).mapM read = some xs ∧ get a' = get a ++ xs := by
  induction h with
  | nil => exact ⟨[], rfl, (List.append_nil _).symm⟩
  | @cons a₁ a₂ a₃ fs _ f v us hset _ hmore ih =>
    obtain ⟨xs, hxs, hget⟩ := ih
    have hstep := hsets (sets_of_set? hset)
    unfold Appends at hstep
    rw [valuesOf_cons]
    split_ifs at hstep ⊢ with hf
    · obtain ⟨x, hx, hx'⟩ := hstep
      refine ⟨x :: xs, ?_, by rw [hget, hx', List.append_assoc]; rfl⟩
      rw [List.mapM_cons, hx, hxs]
      rfl
    · exact ⟨xs, hxs, by rw [hget, hstep]⟩

end Accepting

/-! ## Merging -/

section Overriding
variable {read : String → Option α} {values : List String} {kept x : α}

theorem Overrides.eq_or (h : Overrides (single read) values kept x) :
    values = [] ∧ x = kept ∨ values ≠ [] ∧ single read values = some x := by
  by_cases hnil : values = []
  · subst hnil
    exact Or.inl ⟨rfl, overrides_nil.1 h⟩
  · exact Or.inr ⟨hnil, (overrides_of_ne hnil).1 h⟩

theorem eq_singleton_of_single (h : single read values = some x) :
    ∃ v, values = [v] ∧ read v = some x := by
  unfold single at h
  split at h
  · next v => exact ⟨v, rfl, h⟩
  · cases h

theorem Overrides.or {read : String → Option (Option α)} {x : Option α}
    (h : Overrides (single read) values none x) (hread : ∀ v, read v ≠ some none)
    (kept : Option α) : Overrides (single read) values kept (x.or kept) := by
  rcases h.eq_or with ⟨rfl, rfl⟩ | ⟨hne, hx⟩
  · exact overrides_nil.2 rfl
  · obtain ⟨v, rfl, hv⟩ := eq_singleton_of_single hx
    cases x with
    | none => exact absurd hv (hread v)
    | some x => exact (overrides_of_ne hne).2 hx

theorem Overrides.getD {x : Option α}
    (h : Overrides (single fun v => (read v).map some) values none x) (kept : α) :
    Overrides (single read) values kept (x.getD kept) := by
  rcases h.eq_or with ⟨rfl, rfl⟩ | ⟨hne, hx⟩
  · exact overrides_nil.2 rfl
  · obtain ⟨v, rfl, hv⟩ := eq_singleton_of_single hx
    obtain ⟨y, hy, rfl⟩ := Option.map_eq_some_iff.1 hv
    exact (overrides_of_ne hne).2 hy

theorem Overrides.switch {x : Bool}
    (h : Overrides (single fun _ => some true) values false x) (kept : Bool) :
    (x || kept) = true ↔ values ≠ [] ∨ kept = true := by
  rcases h.eq_or with ⟨rfl, rfl⟩ | ⟨hne, hx⟩
  · exact ⟨Or.inr, fun h => h.resolve_left (not_not.2 rfl)⟩
  · obtain ⟨v, rfl, hv⟩ := eq_singleton_of_single hx
    cases hv
    exact iff_of_true rfl (Or.inl hne)

theorem overrides_of_mapM {xs : List α} (h : values.mapM read = some xs) (kept : List α) :
    Overrides (List.mapM read) values kept (if xs.isEmpty then kept else xs) := by
  cases values with
  | nil =>
    cases h
    exact overrides_nil.2 rfl
  | cons v vs =>
    rw [overrides_of_ne (List.cons_ne_nil v vs), h]
    rw [List.mapM_cons] at h
    obtain ⟨y, -, hy⟩ := Option.bind_eq_some_iff.1 h
    obtain ⟨ys, -, hys⟩ := Option.bind_eq_some_iff.1 hy
    cases hys
    rfl

end Overriding

/-- What the settings of a file become under the arguments. -/
structure Merges (args : List String) (file merged : Settings) : Prop where
  interface : Overrides (single fun v => some (some v)) (given args .interface) file.interface
    merged.interface
  /-- The default port, when it is given, is left out. -/
  port : single Arguments.word? (given args .port) ≠ some defaultPort →
    Overrides (single Arguments.word?) (given args .port) file.port merged.port
  allowedIps : Overrides some (given args .allowedIps) file.allowedIps merged.allowedIps
  version : Overrides (single fun v => (Version.ofText? v).map some) (given args .tpacketVersion)
    file.capture.version merged.capture.version
  snapLength : Overrides (single Arguments.size?) (given args .snapLen) file.capture.snapLength
    merged.capture.snapLength
  filterFile : Overrides (single fun v => some (some v)) (given args .filterFile) file.filterFile
    merged.filterFile
  ebpfObject : Overrides (single fun v => some (some v)) (given args .ebpfObject) file.ebpfObject
    merged.ebpfObject
  etherTypes : Overrides (List.mapM Arguments.word?) (given args .etherTypes) file.etherTypes
    merged.etherTypes
  quiet : merged.quiet = true ↔ given args .quiet ≠ [] ∨ file.quiet = true
  addVlanHeader : merged.capture.addVlanHeader = true ↔
    given args .addVlanHeader ≠ [] ∨ file.capture.addVlanHeader = true
  /-- Without a group the command line leaves the fanout of the file alone. -/
  noGroup : given args .fanoutGroup = [] → merged.fanout = file.fanout
  /-- With a group it gives the type as well, which is hash unless it says otherwise. -/
  group : given args .fanoutGroup ≠ [] → ∃ type group,
    single Arguments.word? (given args .fanoutGroup) = some group ∧
      Overrides (single Fanout.ofText?) (given args .fanoutType) .hash type ∧
      merged.fanout = some { type, group }
  /-- What no flag is for stays as it is. -/
  others : { merged.capture with
      version := file.capture.version
      snapLength := file.capture.snapLength
      addVlanHeader := file.capture.addVlanHeader } = file.capture

section Parsing
variable {args : List String} {a : Arguments} (h : Arguments.parse args = .ok a)
include h

theorem overrides_of_parse {own : Flag} {read : String → Option α} (get : Arguments → α)
    (hown : own.isRepeatable = false)
    (hsets : ∀ {a a' v f}, Sets f v a a' → Replaces own f (read v) (get a) (get a')) :
    Overrides (single read) (given args own) (get {}) (get a) := by
  obtain ⟨fs, hall⟩ := accepts_of_parse h
  exact hall.overrides own get hown hsets

theorem mapM_of_parse {own : Flag} {read : String → Option α} (get : Arguments → List α)
    (hnil : get {} = [])
    (hsets : ∀ {a a' v f}, Sets f v a a' → Appends own f (read v) (get a) (get a')) :
    (given args own).mapM read = some (get a) := by
  obtain ⟨fs, hall⟩ := accepts_of_parse h
  obtain ⟨xs, hxs, hget⟩ := hall.overrides_list own get hsets
  rw [hget, hnil]
  exact hxs

/-- **The command line overrides the file, flag by flag.** -/
theorem merges_of_parse (file : Settings) : Merges args file (file.merge a) := by
  have hgroup := overrides_of_parse h (·.fanoutGroup) rfl Sets.fanoutGroup
  constructor
  case interface =>
    exact (overrides_of_parse h (·.interface) rfl Sets.interface).or nofun file.interface
  case port =>
    intro hother
    rcases (overrides_of_parse h (·.port) rfl Sets.port).eq_or with ⟨hnil, hp⟩ | ⟨hne, hp⟩
    · rw [hnil, overrides_nil]
      exact if_neg (not_not.2 hp)
    · have hport : a.port ≠ defaultPort := fun heq => hother (hp.trans (congrArg some heq))
      rw [overrides_of_ne hne, hp]
      exact congrArg some (if_pos hport).symm
  case allowedIps =>
    have hread : List.mapM some = (some : List String → Option (List String)) :=
      funext fun l => by simpa using List.mapM_pure (m := Option) (f := id) (l := l)
    rw [← hread]
    exact overrides_of_mapM (mapM_of_parse h (·.allowedIps) rfl Sets.allowedIps) file.allowedIps
  case version =>
    exact (overrides_of_parse h (·.tpacketVersion) rfl Sets.tpacketVersion).or (by simp)
      file.capture.version
  case snapLength =>
    exact (overrides_of_parse h (·.snapLen) rfl Sets.snapLen).getD file.capture.snapLength
  case filterFile =>
    exact (overrides_of_parse h (·.filterFile) rfl Sets.filterFile).or nofun file.filterFile
  case ebpfObject =>
    exact (overrides_of_parse h (·.ebpfObject) rfl Sets.ebpfObject).or nofun file.ebpfObject
  case etherTypes =>
    exact overrides_of_mapM (mapM_of_parse h (·.etherTypes) rfl Sets.etherTypes) file.etherTypes
  case quiet => exact (overrides_of_parse h (·.quiet) rfl Sets.quiet).switch file.quiet
  case addVlanHeader =>
    exact (overrides_of_parse h (·.addVlanHeader) rfl Sets.addVlanHeader).switch
      file.capture.addVlanHeader
  case noGroup =>
    intro hnil
    rw [hnil, overrides_nil] at hgroup
    unfold Settings.merge
    dsimp only
    rw [hgroup]
  case group =>
    intro hne
    have htype := overrides_of_parse h (·.fanoutType) rfl Sets.fanoutType
    obtain ⟨v, hv, hread⟩ := eq_singleton_of_single ((overrides_of_ne hne).1 hgroup)
    obtain ⟨group, hnumber, hsome⟩ := Option.map_eq_some_iff.1 hread
    refine ⟨a.fanoutType, group, by rw [hv]; exact hnumber, htype, ?_⟩
    unfold Settings.merge
    dsimp only
    rw [← hsome]
  case others => rfl

end Parsing

/-- Some flags are given and some are not; a group alone gives the type as well. -/
theorem merges_of_parse_mixed :
    let args := ["-i", "lo", "--port=8080", "-q", "--snap-len", "0", "--ether-types", "2048",
      "--ether-types=34525", "--fanout-group", "7"]
    let file : Settings :=
      { interface := some "eth1", port := 9000, allowedIps := ["10.0.0.0/8"]
        capture := { snapLength := 128 }, fanout := some { type := .loadBalance, group := 42 } }
    let merged : Settings :=
      { file with
        interface := some "lo", port := 8080, quiet := true, capture := { snapLength := 0 }
        etherTypes := [2048, 34525], fanout := some { type := .hash, group := 7 } }
    Merges args file merged ∧ given args .interface = ["lo"] ∧ given args .allowedIps = [] := by
  intro args file merged
  have hparse : Arguments.parse args = .ok
      { interface := some "lo", port := 8080, quiet := true, snapLen := some 0
        etherTypes := [2048, 34525], fanoutGroup := some 7 } := by decide +kernel
  exact ⟨merges_of_parse hparse file, by decide +kernel, by decide +kernel⟩

/-- A group alone does not keep the type of the file's fanout, a type alone does not replace it, and
the default port does not replace another. -/
theorem not_every_flag_overrides :
    let file : Settings := { port := 8080, fanout := some { type := .loadBalance, group := 42 } }
    (∃ a, Arguments.parse ["--fanout-group", "7"] = .ok a ∧
      given ["--fanout-group", "7"] .fanoutType = [] ∧
      (file.merge a).fanout = some { type := .hash, group := 7 }) ∧
    (∃ a, Arguments.parse ["--fanout-type", "cpu"] = .ok a ∧
      given ["--fanout-type", "cpu"] .fanoutType = ["cpu"] ∧
      (file.merge a).fanout = some { type := .loadBalance, group := 42 }) ∧
    ∃ a, Arguments.parse ["--port", "3000"] = .ok a ∧ given ["--port", "3000"] .port = ["3000"] ∧
      (file.merge a).port = 8080 :=
  ⟨⟨{ fanoutGroup := some 7 }, by decide +kernel, by decide +kernel, rfl⟩,
    ⟨{ fanoutType := .cpu }, by decide +kernel, by decide +kernel, rfl⟩,
    {}, by decide +kernel, by decide +kernel, rfl⟩

end PacketRing
