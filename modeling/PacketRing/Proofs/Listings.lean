import Mathlib
import PacketRing.Capture.Filter

/-!
# The texts that list a program

A grammar of listings that knows nothing of how they are read, and its agreement with the reading.

* `Text.Padded`, `Text.Rows` : the rows of a text, without the white space around them;
* `Text.Spaced` : words with white space between;
* `Text.Decimal` : decimal numerals with their values;
* `Instruction.Line`, `Program.Reads` : the lines of a program, and what comes of lines that are of
  none;
* `Instruction.line`, `Program.toText` : a program written as a listing;
* `Text.trim_eq_iff`, `Text.rows_iff`, `Text.spaced_iff`, `Text.natBelow_eq_some` : the reading of
  rows, words and numerals;
* `Program.ofText_iff` : a text is read as what its rows come to.
-/

namespace PacketRing

namespace Text

/-! ## The grammar -/

/-- White space only. -/
def Blank (s : List Char) : Prop := ∀ c ∈ s, isBlank c = true

/-- The text `s` is `l` with white space around, and `l` has none at its ends. -/
structure Padded (s l : List Char) : Prop where
  head : ∀ c ∈ l.head?, isBlank c = false
  last : ∀ c ∈ l.getLast?, isBlank c = false
  padding : ∃ before after, Blank before ∧ Blank after ∧ s = before ++ l ++ after

/-- Rows with newlines between, and what is in them. The white space at the end of a row may be a
carriage return. -/
inductive Rows : List Char → List (List Char) → Prop where
  | last {s l : List Char} : '\n' ∉ s → Padded s l → Rows s [l]
  | more {s t l : List Char} {ls : List (List Char)} :
    '\n' ∉ s → Padded s l → Rows t ls → Rows (s ++ '\n' :: t) (l :: ls)

/-- At least one character, and no white space. -/
structure IsWord (w : List Char) : Prop where
  nonempty : w ≠ []
  solid : ∀ c ∈ w, isBlank c = false

/-- Words with white space between. -/
inductive Spaced : List Char → List (List Char) → Prop where
  | last {w : List Char} : IsWord w → Spaced w [w]
  | more {w gap t : List Char} {ws : List (List Char)} :
    IsWord w → gap ≠ [] → Blank gap → Spaced t ws → Spaced (w ++ gap ++ t) (w :: ws)

/-- A plus sign or none, and at least one digit. -/
def Decimal (s : List Char) (n : Nat) : Prop :=
  ∃ sign digits, s = sign ++ digits ∧ (sign = [] ∨ sign = ['+']) ∧ digits ≠ [] ∧
    (∀ c ∈ digits, c.isDigit = true) ∧ n = Nat.ofDigitChars 10 digits 0

end Text

/-- Each number is within the width of its field. -/
structure Instruction.Fits (i : Instruction) : Prop where
  code : i.code < 2 ^ 16
  jumpTrue : i.jumpTrue < 2 ^ 8
  jumpFalse : i.jumpFalse < 2 ^ 8
  operand : i.operand < 2 ^ 32

/-- A line of four numbers, which are those of the instruction. -/
def Instruction.Line (line : List Char) (i : Instruction) : Prop :=
  i.Fits ∧ ∃ code jumpTrue jumpFalse operand,
    Text.Spaced line [code, jumpTrue, jumpFalse, operand] ∧ Text.Decimal code i.code ∧
    Text.Decimal jumpTrue i.jumpTrue ∧ Text.Decimal jumpFalse i.jumpFalse ∧
    Text.Decimal operand i.operand

namespace Program

/-- The rows of the text in which there is anything. -/
def Listed (text : String) (ls : List (List Char)) : Prop :=
  ∃ rows, Text.Rows text.toList rows ∧ ls = rows.filter (!·.isEmpty)

/-- A number of instructions. -/
def Count (line : List Char) (n : Nat) : Prop := Text.Decimal line n ∧ n < 2 ^ 64

/-- What the lines of a listing come to: a program, or the first of the problems that there are with
them. Instructions are numbered from one on. -/
inductive Reads : List (List Char) → Except Problem Program → Prop where
  | empty : Reads [] (.error .emptyProgram)
  | noCount {first : List Char} {rest : List (List Char)} :
    (∀ n, ¬ Count first n) → Reads (first :: rest) (.error .noInstructionCount)
  | bad {first line : List Char} {before after : List (List Char)} {n : Nat} {p : Program} :
    Count first n → List.Forall₂ Instruction.Line before p → (∀ i, ¬ Instruction.Line line i) →
    Reads (first :: (before ++ line :: after))
      (.error (.badInstruction (before.length + 1) (String.ofList line)))
  | miscounted {first : List Char} {rest : List (List Char)} {n : Nat} {p : Program} :
    Count first n → List.Forall₂ Instruction.Line rest p → p.length ≠ n →
    Reads (first :: rest) (.error (.instructionCount n p.length))
  | program {first : List Char} {rest : List (List Char)} {p : Program} :
    Count first p.length → List.Forall₂ Instruction.Line rest p → Reads (first :: rest) (.ok p)

end Program

/-! ## White space -/

namespace Text

variable {s t l w : List Char} {ls ws : List (List Char)}

theorem dropEndWhile_cons (p : Char → Bool) (c : Char) (s : List Char) :
    dropEndWhile p (c :: s) =
      if (dropEndWhile p s).isEmpty && p c then [] else c :: dropEndWhile p s := rfl

theorem dropEndWhile_append {p : Char → Bool} (hlast : ∀ c ∈ l.getLast?, p c = false)
    (ht : ∀ c ∈ t, p c = true) : dropEndWhile p (l ++ t) = l := by
  have hnone : dropEndWhile p t = [] := by
    induction t with
    | nil => rfl
    | cons c t ih =>
      obtain ⟨hc, ht⟩ := List.forall_mem_cons.1 ht
      rw [dropEndWhile_cons, ih ht, hc]
      rfl
  induction l with
  | nil => exact hnone
  | cons c l ih =>
    rw [List.cons_append, dropEndWhile_cons]
    cases l with
    | nil =>
      have hc : p c = false := hlast c rfl
      rw [List.nil_append, hnone, hc]
      rfl
    | cons d l =>
      rw [ih fun x hx => hlast x hx]
      rfl

theorem trim_of_padded (h : Padded s l) : trim s = l := by
  obtain ⟨hhead, hlast, before, after, hbefore, hafter, rfl⟩ := h
  unfold trim
  rw [List.append_assoc, List.dropWhile_append_of_pos hbefore]
  cases l with
  | nil =>
    rw [List.nil_append, List.dropWhile_eq_nil_iff.2 hafter]
    rfl
  | cons c l =>
    have hc : ¬ isBlank c = true := by
      rw [hhead c rfl]
      exact Bool.false_ne_true
    rw [List.cons_append, List.dropWhile_cons_of_neg hc, ← List.cons_append]
    exact dropEndWhile_append hlast hafter

theorem head?_dropWhile_eq {p : Char → Bool} {c : Char}
    (h : c ∈ (s.dropWhile p).head?) : p c = false := by
  have hstop := List.head?_dropWhile_not p s
  rwa [Option.mem_def.1 h] at hstop

theorem exists_padded (s : List Char) : ∃ l, Padded s l := by
  let rest := s.dropWhile isBlank
  have hrest : rest.rdropWhile isBlank ++ rest.rtakeWhile isBlank = rest :=
    List.rdropWhile_append_rtakeWhile
  refine ⟨rest.rdropWhile isBlank, ?_, ?_, s.takeWhile isBlank, rest.rtakeWhile isBlank,
    fun c hc => List.mem_takeWhile_imp hc, fun c hc => List.mem_rtakeWhile_imp hc, ?_⟩
  · intro c hc
    apply head?_dropWhile_eq (s := s)
    change c ∈ rest.head?
    rw [← hrest, List.head?_append, Option.mem_def.1 hc]
    rfl
  · intro c hc
    obtain ⟨hne, rfl⟩ := List.mem_getLast?_eq_getLast hc
    simpa using List.rdropWhile_last_not isBlank rest hne
  · rw [List.append_assoc, hrest]
    exact List.takeWhile_append_dropWhile.symm

theorem trim_eq_iff : trim s = l ↔ Padded s l := by
  constructor
  · rintro rfl
    obtain ⟨l, hl⟩ := exists_padded s
    rwa [trim_of_padded hl]
  · exact trim_of_padded

theorem trim_append_blank (ht : Blank t) : trim (s ++ t) = trim s := by
  obtain ⟨hhead, hlast, before, after, hbefore, hafter, hs⟩ := trim_eq_iff.1 (Eq.refl (trim s))
  apply trim_of_padded
  refine ⟨hhead, hlast, before, after ++ t, hbefore, ?_, ?_⟩
  · intro c hc
    rcases List.mem_append.1 hc with hc | hc
    · exact hafter c hc
    · exact ht c hc
  · rw [← List.append_assoc, ← hs]

theorem splitAt_eq_splitOnP (p : Char → Bool) (s : List Char) : splitAt p s = s.splitOnP p := by
  induction s with
  | nil => rw [List.splitOnP_nil]; rfl
  | cons c s ih =>
    rw [List.splitOnP_cons_eq_if_modifyHead, ← ih]
    cases hpieces : splitAt p s with
    | nil => exact absurd (ih.symm.trans hpieces) (List.splitOnP_ne_nil p s)
    | cons w ws =>
      unfold splitAt at hpieces ⊢
      rw [List.foldr_cons, hpieces]
      rfl

/-! ## Rows -/

theorem rows_iff : Rows s ls ↔ ls = (s.splitOnP (· == '\n')).map trim := by
  have hsolid : ∀ {s : List Char}, '\n' ∉ s → s.splitOnP (· == '\n') = [s] := by
    intro s hs
    apply List.splitOnP_eq_singleton
    intro c hc
    exact beq_false_of_ne fun heq => hs (heq ▸ hc)
  constructor
  · intro h
    induction h with
    | last hs hl => rw [hsolid hs, List.map_singleton, trim_of_padded hl]
    | more hs hl _ ih =>
      rw [List.splitOnP_append_cons _ _ rfl, hsolid hs, List.map_append, ← ih,
        List.map_singleton, trim_of_padded hl]
      rfl
  · rintro rfl
    induction hn : s.length using Nat.strong_induction_on generalizing s with
    | _ n ih =>
      by_cases hs : '\n' ∈ s
      · obtain ⟨row, t, rfl, hrow⟩ := List.eq_append_cons_of_mem hs
        rw [List.splitOnP_append_cons _ _ rfl, hsolid hrow]
        refine .more hrow (trim_eq_iff.1 rfl) (ih t.length ?_ rfl)
        rw [← hn, List.length_append, List.length_cons]
        omega
      · rw [hsolid hs]
        exact .last hs (trim_eq_iff.1 rfl)

/-- Without the white space around them, the rows of a text that have anything in them are its
lines. -/
theorem filter_rows (s : List Char) :
    ((s.splitOnP (· == '\n')).map trim).filter (!·.isEmpty) =
      ((lines s).map trim).filter (!·.isEmpty) := by
  have hreturn : ∀ row : List Char,
      trim (if row.getLast? = some '\r' then row.dropLast else row) = trim row := by
    intro row
    split
    · next hlast =>
      have hsplit := List.dropLast_append_getLast? '\r' hlast
      have hblank : Blank ['\r'] := List.forall_mem_singleton.2 rfl
      rw [← trim_append_blank hblank, hsplit]
    · rfl
  obtain ⟨front, row, hrows⟩ := List.eq_nil_or_concat (s.splitOnP (· == '\n')) |>.resolve_left
    (List.splitOnP_ne_nil _ _)
  rw [List.concat_eq_append] at hrows
  unfold lines
  rw [splitAt_eq_splitOnP, hrows]
  simp only [List.dropLast_concat, List.getLast?_concat]
  have hfront : (front.map fun l => if l.getLast? = some '\r' then l.dropLast else l).map trim =
      front.map trim := by
    rw [List.map_map]
    exact List.map_congr_left fun l _ => hreturn l
  cases row with
  | nil =>
    have hnil : trim [] = [] := rfl
    simp only [List.map_append, hfront, List.filter_append, List.map_singleton, hnil]
    simp
  | cons c row => simp only [List.map_append, hfront]

/-! ## Words -/

theorem words_eq (s : List Char) : words s = (s.splitOnP isBlank).filter (!·.isEmpty) := by
  unfold words
  rw [splitAt_eq_splitOnP]

theorem words_append_cons {c : Char} (hc : isBlank c = true) (s t : List Char) :
    words (s ++ c :: t) = words s ++ words t := by
  rw [words_eq, words_eq, words_eq, List.splitOnP_append_cons s t hc, List.filter_append]

theorem words_blank_append (hs : Blank s) (t : List Char) : words (s ++ t) = words t := by
  induction s with
  | nil => rfl
  | cons c s ih =>
    obtain ⟨hc, hs⟩ := List.forall_mem_cons.1 hs
    exact (words_append_cons hc [] (s ++ t)).trans (ih hs)

theorem IsWord.words_eq (h : IsWord w) : words w = [w] := by
  rw [Text.words_eq, List.splitOnP_eq_singleton h.solid]
  obtain ⟨c, w, rfl⟩ := List.exists_cons_of_ne_nil h.nonempty
  rfl

theorem words_of_spaced (h : Spaced s ws) : words s = ws := by
  induction h with
  | last hw => exact hw.words_eq
  | @more w gap t ws hw hne hgap _ ih =>
    obtain ⟨c, gap, rfl⟩ := List.exists_cons_of_ne_nil hne
    obtain ⟨hc, hgap⟩ := List.forall_mem_cons.1 hgap
    calc words (w ++ c :: gap ++ t) = words (w ++ c :: (gap ++ t)) := by
          rw [List.append_assoc, List.cons_append]
      _ = words w ++ words (gap ++ t) := words_append_cons hc w _
      _ = w :: ws := by rw [hw.words_eq, words_blank_append hgap, ih, List.singleton_append]

/-- A line begins and ends with a character that is no white space. -/
structure IsLine (s : List Char) : Prop where
  nonempty : s ≠ []
  head : ∀ c ∈ s.head?, isBlank c = false
  last : ∀ c ∈ s.getLast?, isBlank c = false

/-- A character more at the front belongs to the first word. -/
theorem Spaced.cons {c : Char} (h : Spaced s ws) (hc : isBlank c = false) :
    ∃ ws', Spaced (c :: s) ws' := by
  have hword : ∀ {w : List Char}, IsWord w → IsWord (c :: w) := by
    intro w hw
    exact ⟨List.cons_ne_nil _ _, List.forall_mem_cons.2 ⟨hc, hw.solid⟩⟩
  cases h with
  | last hw => exact ⟨_, .last (hword hw)⟩
  | more hw hne hgap ht => exact ⟨_, .more (hword hw) hne hgap ht⟩

/-- White space may come before the words, but none after them. -/
theorem exists_spaced (hne : s ≠ []) (hlast : ∀ c ∈ s.getLast?, isBlank c = false) :
    ∃ gap t ws, s = gap ++ t ∧ Blank gap ∧ Spaced t ws := by
  induction s with
  | nil => exact absurd rfl hne
  | cons c s ih =>
    cases s with
    | nil =>
      have hword : IsWord [c] := ⟨hne, List.forall_mem_singleton.2 (hlast c rfl)⟩
      exact ⟨[], [c], [[c]], rfl, nofun, .last hword⟩
    | cons d s =>
      obtain ⟨gap, t, ws, hs, hgap, ht⟩ := ih (List.cons_ne_nil d s) hlast
      rw [hs]
      cases hc : isBlank c with
      | true => exact ⟨c :: gap, t, ws, rfl, List.forall_mem_cons.2 ⟨hc, hgap⟩, ht⟩
      | false =>
        by_cases hnone : gap = []
        · obtain ⟨ws', hcons⟩ := ht.cons hc
          rw [hnone]
          exact ⟨[], c :: t, ws', rfl, nofun, hcons⟩
        · have hword : IsWord [c] := ⟨List.cons_ne_nil _ _, List.forall_mem_singleton.2 hc⟩
          exact ⟨[], [c] ++ gap ++ t, [c] :: ws, rfl, nofun, .more hword hnone hgap ht⟩

theorem IsLine.spaced_iff (h : IsLine s) : Spaced s ws ↔ words s = ws := by
  constructor
  · exact words_of_spaced
  · rintro rfl
    obtain ⟨gap, t, ws, rfl, hgap, ht⟩ := exists_spaced h.nonempty h.last
    cases gap with
    | nil =>
      rw [List.nil_append, words_of_spaced ht]
      exact ht
    | cons c gap =>
      have hc := h.head c rfl
      rw [hgap c List.mem_cons_self] at hc
      cases hc

/-! ## Numerals -/

theorem digit?_of_isDigit {c : Char} (h : c.isDigit = true) :
    digit? c = some (c.toNat - '0'.toNat) := by
  obtain ⟨hlow, hhigh⟩ := Char.isDigit_iff_toNat.1 h
  exact if_pos ⟨hlow, hhigh⟩

theorem isDigit_of_digit? {c : Char} {d : Nat} (h : digit? c = some d) : c.isDigit = true := by
  unfold digit? at h
  split at h
  · next hc => exact Char.isDigit_iff_toNat.2 hc
  · cases h

theorem digitsFrom_eq_some {acc n : Nat} : digitsFrom digit? 10 acc s = some n ↔
    (∀ c ∈ s, c.isDigit = true) ∧ n = Nat.ofDigitChars 10 s acc := by
  induction s generalizing acc with
  | nil =>
    constructor
    · intro h
      exact ⟨nofun, (Option.some.inj h).symm⟩
    · rintro ⟨-, rfl⟩
      rfl
  | cons c s ih =>
    by_cases hc : c.isDigit = true
    · unfold digitsFrom
      rw [digit?_of_isDigit hc, Nat.ofDigitChars_cons, List.forall_mem_cons]
      simp only [hc, true_and]
      exact ih
    · have hnone : digit? c = none := by
        rw [Option.eq_none_iff_forall_ne_some]
        intro d hd
        exact hc (isDigit_of_digit? hd)
      unfold digitsFrom
      rw [hnone]
      simp [hc]

theorem digitsValue_eq_some {n : Nat} : digitsValue s = some n ↔
    s ≠ [] ∧ (∀ c ∈ s, c.isDigit = true) ∧ n = Nat.ofDigitChars 10 s 0 := by
  unfold digitsValue
  rw [← digitsFrom_eq_some]
  split
  · next h => simp [List.isEmpty_iff.1 h]
  · next h => simp [List.isEmpty_iff.not.1 h]

theorem dropPlus_cases (s : List Char) : s = '+' :: dropPlus s ∨ s = dropPlus s := by
  unfold dropPlus
  split
  · exact Or.inl rfl
  · exact Or.inr rfl

theorem decimal_iff {n : Nat} : Decimal s n ↔ digitsValue (dropPlus s) = some n := by
  rw [digitsValue_eq_some]
  constructor
  · rintro ⟨sign, digits, rfl, rfl | rfl, hne, hdigits, hn⟩
    · have hplus : dropPlus digits = digits := by
        unfold dropPlus
        split
        · exact absurd (hdigits '+' List.mem_cons_self) (by decide)
        · rfl
      rw [List.nil_append, hplus]
      exact ⟨hne, hdigits, hn⟩
    · exact ⟨hne, hdigits, hn⟩
  · rintro ⟨hne, hdigits, hn⟩
    rcases dropPlus_cases s with hs | hs
    · exact ⟨['+'], dropPlus s, hs, Or.inr rfl, hne, hdigits, hn⟩
    · exact ⟨[], dropPlus s, hs, Or.inl rfl, hne, hdigits, hn⟩

theorem natBelow_eq_some {bound n : Nat} :
    natBelow bound s = some n ↔ Decimal s n ∧ n < bound := by
  unfold natBelow
  rw [decimal_iff, Option.filter_eq_some_iff, decide_eq_true_eq]

end Text

/-! ## Lines -/

section Lines
variable {line first : List Char} {ls before after rest : List (List Char)} {i : Instruction}
  {p : Program} {text : String}

theorem Instruction.ofLine?_iff (h : Text.IsLine line) :
    ofLine? line = some i ↔ Line line i := by
  unfold Line
  simp only [h.spaced_iff]
  constructor
  · intro hi
    unfold ofLine? at hi
    split at hi
    · next code jumpTrue jumpFalse operand hwords =>
      simp only [Option.bind_eq_bind, Option.bind_eq_some_iff, Text.natBelow_eq_some] at hi
      obtain ⟨_, ⟨hcode, hcode'⟩, _, ⟨hjt, hjt'⟩, _, ⟨hjf, hjf'⟩, _, ⟨hop, hop'⟩, hi⟩ := hi
      cases hi
      have hfits : Fits ⟨_, _, _, _⟩ := ⟨hcode', hjt', hjf', hop'⟩
      exact ⟨hfits, code, jumpTrue, jumpFalse, operand, hwords, hcode, hjt, hjf, hop⟩
    · cases hi
  · rintro ⟨hfits, code, jumpTrue, jumpFalse, operand, hwords, hcode, hjt, hjf, hop⟩
    have hcode : Text.natBelow UInt16.size code = some i.code :=
      Text.natBelow_eq_some.2 ⟨hcode, hfits.code⟩
    have hjt : Text.natBelow UInt8.size jumpTrue = some i.jumpTrue :=
      Text.natBelow_eq_some.2 ⟨hjt, hfits.jumpTrue⟩
    have hjf : Text.natBelow UInt8.size jumpFalse = some i.jumpFalse :=
      Text.natBelow_eq_some.2 ⟨hjf, hfits.jumpFalse⟩
    have hop : Text.natBelow UInt32.size operand = some i.operand :=
      Text.natBelow_eq_some.2 ⟨hop, hfits.operand⟩
    unfold ofLine?
    rw [hwords]
    dsimp only
    rw [hcode, hjt, hjf, hop]
    rfl

namespace Program

theorem count_iff {n : Nat} : Text.natBelow UInt64.size line = some n ↔ Count line n :=
  Text.natBelow_eq_some

theorem listed_iff : Listed text ls ↔ ls = listing text := by
  unfold Listed listing
  simp only [Text.rows_iff, ← Text.filter_rows]
  simp

theorem isLine_of_mem_listing (h : line ∈ listing text) : Text.IsLine line := by
  obtain ⟨hmem, hne⟩ := List.mem_filter.1 h
  obtain ⟨row, -, hrow⟩ := List.mem_map.1 hmem
  obtain ⟨hhead, hlast, -⟩ := Text.trim_eq_iff.1 hrow
  exact ⟨by simpa using hne, hhead, hlast⟩

/-- Lines that all read well make a program. -/
theorem ofLines_of_lines (hls : ∀ line ∈ ls, Text.IsLine line)
    (h : List.Forall₂ Instruction.Line ls p) (n : Nat) : ofLines n ls = .ok p := by
  induction h generalizing n with
  | nil => rfl
  | cons hi _ ih =>
    obtain ⟨hline, hls⟩ := List.forall_mem_cons.1 hls
    unfold ofLines
    rw [(Instruction.ofLine?_iff hline).2 hi, ih hls]

/-- A line that does not is told with its number, whatever comes after it. -/
theorem ofLines_of_bad (hls : ∀ line ∈ before, Text.IsLine line)
    (h : List.Forall₂ Instruction.Line before p) (hline : Text.IsLine line)
    (hbad : ∀ i, ¬ Instruction.Line line i) (n : Nat) :
    ofLines n (before ++ line :: after) =
      .error (.badInstruction (n + before.length) (String.ofList line)) := by
  induction h generalizing n with
  | nil =>
    have hnone : Instruction.ofLine? line = none := by
      rw [Option.eq_none_iff_forall_ne_some]
      intro i hi
      exact hbad i ((Instruction.ofLine?_iff hline).1 hi)
    rw [List.nil_append]
    unfold ofLines
    rw [hnone]
    rfl
  | @cons good i before p hi _ ih =>
    obtain ⟨hgood, hls⟩ := List.forall_mem_cons.1 hls
    rw [List.cons_append]
    unfold ofLines
    rw [(Instruction.ofLine?_iff hgood).2 hi, ih hls, List.length_cons, Nat.add_assoc,
      Nat.add_comm 1]

/-- Either all lines read well, or there is a first one that does not. -/
theorem lines_cases (ls : List (List Char)) : (∃ p, List.Forall₂ Instruction.Line ls p) ∨
    ∃ before line after p, ls = before ++ line :: after ∧
      List.Forall₂ Instruction.Line before p ∧ ∀ i, ¬ Instruction.Line line i := by
  induction ls with
  | nil => exact Or.inl ⟨[], .nil⟩
  | cons line ls ih =>
    by_cases hline : ∃ i, Instruction.Line line i
    · obtain ⟨i, hi⟩ := hline
      rcases ih with ⟨p, hp⟩ | ⟨before, bad, after, p, rfl, hp, hbad⟩
      · exact Or.inl ⟨i :: p, .cons hi hp⟩
      · exact Or.inr ⟨line :: before, bad, after, i :: p, rfl, .cons hi hp, hbad⟩
    · exact Or.inr ⟨[], line, ls, [], rfl, .nil, not_exists.1 hline⟩

/-- Whatever the lines are, something comes of them. -/
theorem exists_reads (ls : List (List Char)) : ∃ result, Reads ls result := by
  cases ls with
  | nil => exact ⟨_, .empty⟩
  | cons first rest =>
    by_cases hcount : ∃ n, Count first n
    · obtain ⟨n, hn⟩ := hcount
      rcases lines_cases rest with ⟨p, hp⟩ | ⟨before, line, after, p, rfl, hp, hbad⟩
      · by_cases hlength : p.length = n
        · exact ⟨_, .program (hlength ▸ hn) hp⟩
        · exact ⟨_, .miscounted hn hp hlength⟩
      · exact ⟨_, .bad hn hp hbad⟩
    · exact ⟨_, .noCount (not_exists.1 hcount)⟩

theorem ofText_of_reads {result : Except Problem Program} (h : Reads (listing text) result) :
    ofText text = result := by
  have hlines : ∀ line ∈ listing text, Text.IsLine line := fun line => isLine_of_mem_listing
  unfold ofText
  generalize listing text = ls at h hlines
  cases h with
  | empty => rfl
  | @noCount first rest hnone =>
    have hcount : Text.natBelow UInt64.size first = none := by
      rw [Option.eq_none_iff_forall_ne_some]
      intro n hn
      exact hnone n (count_iff.1 hn)
    dsimp only
    rw [hcount]
  | @bad first line before after n p hn hp hbad =>
    obtain ⟨-, hrest⟩ := List.forall_mem_cons.1 hlines
    obtain ⟨hbefore, hline⟩ := List.forall_mem_append.1 hrest
    dsimp only
    rw [count_iff.2 hn, ofLines_of_bad hbefore hp (hline line List.mem_cons_self) hbad,
      Nat.add_comm]
  | miscounted hn hp hne =>
    obtain ⟨-, hrest⟩ := List.forall_mem_cons.1 hlines
    dsimp only
    rw [count_iff.2 hn, ofLines_of_lines hrest hp]
    exact if_neg hne
  | program hn hp =>
    obtain ⟨-, hrest⟩ := List.forall_mem_cons.1 hlines
    dsimp only
    rw [count_iff.2 hn, ofLines_of_lines hrest hp]
    exact if_pos rfl

theorem reads_iff {result : Except Problem Program} :
    ofText text = result ↔ ∃ ls, Listed text ls ∧ Reads ls result := by
  simp only [listed_iff, exists_eq_left]
  constructor
  · rintro rfl
    obtain ⟨result, hresult⟩ := exists_reads (listing text)
    rwa [ofText_of_reads hresult]
  · exact ofText_of_reads

end Program

end Lines

/-! ## Programs written as listings -/

/-- The line of an instruction. -/
def Instruction.line (i : Instruction) : List Char :=
  Nat.toDigits 10 i.code ++ [' '] ++ (Nat.toDigits 10 i.jumpTrue ++ [' '] ++
    (Nat.toDigits 10 i.jumpFalse ++ [' '] ++ Nat.toDigits 10 i.operand))

namespace Program

/-- The lines of a program: how many instructions it has, and those. -/
def lines (p : Program) : List (List Char) :=
  Nat.toDigits 10 p.length :: p.map Instruction.line

/-- The lines of a program, each with a newline at its end. -/
def toText (p : Program) : String := String.ofList (p.lines.flatMap (· ++ ['\n']))

/-- Each instruction is within its widths, and so is their number. -/
structure Fits (p : Program) : Prop where
  instructions : ∀ i ∈ p, i.Fits
  length : p.length < 2 ^ 64

end Program

namespace Text

variable {n : Nat}

theorem decimal_toDigits (n : Nat) : Decimal (Nat.toDigits 10 n) n := by
  refine ⟨[], _, rfl, Or.inl rfl, Nat.toDigits_ne_nil, ?_, ?_⟩
  · intro c hc
    exact Nat.isDigit_of_mem_toDigits (by decide) (by decide) hc
  · exact (Nat.ofDigitChars_toDigits (by decide) (by decide)).symm

theorem isBlank_of_isDigit {c : Char} (h : c.isDigit = true) : isBlank c = false := by
  obtain ⟨hlow, hhigh⟩ := Char.isDigit_iff_toNat.1 h
  change 48 ≤ c.toNat at hlow
  change c.toNat ≤ 57 at hhigh
  unfold isBlank
  simp only [Bool.or_eq_false_iff, Bool.and_eq_false_iff, decide_eq_false_iff_not,
    beq_eq_false_iff_ne]
  omega

theorem isWord_toDigits (n : Nat) : IsWord (Nat.toDigits 10 n) := by
  refine ⟨Nat.toDigits_ne_nil, fun c hc => isBlank_of_isDigit ?_⟩
  exact Nat.isDigit_of_mem_toDigits (by decide) (by decide) hc

theorem Spaced.isLine {s : List Char} {ws : List (List Char)} (h : Spaced s ws) : IsLine s := by
  have hfront : ∀ {w t : List Char}, IsWord w → ∀ c ∈ (w ++ t).head?, isBlank c = false := by
    intro w t hw c hc
    obtain ⟨d, w, rfl⟩ := List.exists_cons_of_ne_nil hw.nonempty
    cases hc
    exact hw.solid c List.mem_cons_self
  induction h with
  | @last w hw =>
    refine ⟨hw.nonempty, ?_, fun c hc => hw.solid c (List.mem_of_getLast? hc)⟩
    simpa using hfront (t := []) hw
  | @more w gap t ws hw hne hgap _ ih =>
    refine ⟨by simp [hw.nonempty], ?_, ?_⟩
    · rw [List.append_assoc]
      exact hfront hw
    · rw [List.getLast?_append_of_ne_nil _ ih.nonempty]
      exact ih.last

theorem newline_notMem_toDigits (n : Nat) : '\n' ∉ Nat.toDigits 10 n := by
  intro h
  have hdigit := Nat.isDigit_of_mem_toDigits (by decide) (by decide) h
  exact absurd hdigit (by decide)

theorem rows_of_lines {ls : List (List Char)} (h : ∀ l ∈ ls, IsLine l ∧ '\n' ∉ l) :
    Rows (ls.flatMap (· ++ ['\n'])) (ls ++ [[]]) := by
  induction ls with
  | nil => exact .last nofun ⟨nofun, nofun, [], [], nofun, nofun, rfl⟩
  | cons l ls ih =>
    obtain ⟨⟨hline, hnewline⟩, hls⟩ := List.forall_mem_cons.1 h
    rw [List.flatMap_cons, List.append_assoc, List.singleton_append]
    apply Rows.more hnewline ⟨hline.head, hline.last, [], [], nofun, nofun, ?_⟩ (ih hls)
    rw [List.nil_append, List.append_nil]

end Text

theorem Instruction.spaced_line (i : Instruction) : Text.Spaced i.line
    [Nat.toDigits 10 i.code, Nat.toDigits 10 i.jumpTrue, Nat.toDigits 10 i.jumpFalse,
      Nat.toDigits 10 i.operand] := by
  have hgap : Text.Blank [' '] := List.forall_mem_singleton.2 rfl
  have hne : [' '] ≠ [] := List.cons_ne_nil _ _
  apply Text.Spaced.more (Text.isWord_toDigits _) hne hgap
  apply Text.Spaced.more (Text.isWord_toDigits _) hne hgap
  apply Text.Spaced.more (Text.isWord_toDigits _) hne hgap
  exact .last (Text.isWord_toDigits _)

theorem Instruction.Fits.line {i : Instruction} (h : i.Fits) : Line i.line i :=
  ⟨h, _, _, _, _, i.spaced_line, Text.decimal_toDigits _, Text.decimal_toDigits _,
    Text.decimal_toDigits _, Text.decimal_toDigits _⟩

namespace Program

variable {p : Program}

theorem Fits.reads (h : p.Fits) : Reads p.lines (.ok p) := by
  apply Reads.program ⟨Text.decimal_toDigits _, h.length⟩
  rw [List.forall₂_map_left_iff, List.forall₂_same]
  intro i hi
  exact (h.instructions i hi).line

theorem isLine_of_mem_lines {line : List Char} (h : line ∈ p.lines) :
    Text.IsLine line ∧ '\n' ∉ line := by
  rcases List.mem_cons.1 h with rfl | h
  · exact ⟨(Text.Spaced.last (Text.isWord_toDigits _)).isLine, Text.newline_notMem_toDigits _⟩
  · obtain ⟨i, -, rfl⟩ := List.mem_map.1 h
    refine ⟨i.spaced_line.isLine, ?_⟩
    unfold Instruction.line
    simp [Text.newline_notMem_toDigits]

theorem listed_toText (p : Program) : Listed p.toText p.lines := by
  refine ⟨p.lines ++ [[]], ?_, ?_⟩
  · unfold toText
    rw [String.toList_ofList]
    exact Text.rows_of_lines fun line => isLine_of_mem_lines
  · have hnone : [([] : List Char)].filter (!·.isEmpty) = [] := rfl
    rw [List.filter_append, hnone, List.append_nil, eq_comm, List.filter_eq_self]
    intro line hline
    simpa using (isLine_of_mem_lines hline).1.nonempty

/-- **A text is read as the listing that it is.** The rows of a text in which there is anything come
to a program just if the first is a number and the others are as many instructions, and otherwise to
the first problem: no row at all, no number in the first, an instruction that is none, or a number
that is wrong. A program whose numbers fit is read from its own listing, and from every text with
the same rows. -/
theorem reads_listing (text : String) :
    (∀ result, ofText text = result ↔ ∃ ls, Listed text ls ∧ Reads ls result) ∧
    ∀ p : Program, p.Fits →
      (Listed text p.lines → ofText text = .ok p) ∧ ofText p.toText = .ok p := by
  refine ⟨fun result => reads_iff, ?_⟩
  intro p hp
  constructor
  · intro htext
    exact reads_iff.2 ⟨p.lines, htext, hp.reads⟩
  · exact reads_iff.2 ⟨p.lines, listed_toText p, hp.reads⟩

/-- A listing with blank rows, and with white space of several kinds around its lines. -/
theorem reads_listing_padded :
    let text := "\r\n \u00a02\t\r\n\u2003\n40 0 0 12\r\n\n  6 0 0 65535 "
    let p : Program := [⟨40, 0, 0, 12⟩, ⟨6, 0, 0, 65535⟩]
    p.Fits ∧ Listed text p.lines ∧ ofText text = .ok p ∧ ofText p.toText = .ok p := by
  intro text p
  have hp : p.Fits := by
    refine ⟨List.forall_mem_cons.2 ⟨?_, List.forall_mem_singleton.2 ?_⟩, by decide⟩
    · exact ⟨by decide, by decide, by decide, by decide⟩
    · exact ⟨by decide, by decide, by decide, by decide⟩
  have htext : Listed text p.lines := listed_iff.2 (by decide +kernel)
  obtain ⟨hread, hown⟩ := (reads_listing text).2 p hp
  exact ⟨hp, htext, hread htext, hown⟩

end Program

end PacketRing
