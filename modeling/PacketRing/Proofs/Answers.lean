import Mathlib
import PacketRing.Api.Router

/-!
# What a client reads off an answer

Reading of answers that knows nothing of how they are written, and what the API's answers read as.

* `Json.at?` : the value at a path of member names;
* `Json.ShowsTotals`, `Json.ShowsTally`, `Json.ShowsTraffic` : the members that a client looks for
  (`StatsReport.showsTotals_toJson`, `TrafficReport.showsTraffic_toJson`);
* `Exposition.samples` : the samples of a text exposition, line by line;
* `Metrics.samples_text` : those of the metrics.
-/

namespace PacketRing

/-! ## JSON -/

namespace Json

/-- The value that a path of member names leads to. -/
def at? : Json → List String → Option Json
  | j, [] => some j
  | .obj members, name :: path => (members.lookup name).bind (·.at? path)
  | _, _ :: _ => none

/-- The kernel's totals by their names, or null in their place if they are not known. -/
def ShowsTotals (j : Json) : Option KernelTotals → Prop
  | some t => j.at? ["kernel", "packets"] = some (.int t.packets) ∧
      j.at? ["kernel", "drops"] = some (.int t.drops) ∧
      j.at? ["kernel", "queue_freezes"] = some (.int t.queueFreezes)
  | none => j.at? ["kernel"] = some .null

structure ShowsTally (j : Json) (t : Tally) : Prop where
  packets : j.at? ["packets"] = some (.int t.packets)
  bytes : j.at? ["bytes"] = some (.int t.bytes)
  capturedBytes : j.at? ["captured_bytes"] = some (.int t.capturedBytes)
  lastSeen : j.at? ["last_seen_ms"] = some (.int t.lastSeen)

/-- The row of an interface, whose name is null if it has none. -/
structure ShowsInterface (j : Json) (row : InterfaceRow) : Prop where
  ifindex : j.at? ["ifindex"] = some (.int row.ifindex)
  name : j.at? ["name"] = some (row.name.elim .null .str)
  tally : j.ShowsTally row.tally

structure ShowsVlan (j : Json) (row : Nat × Tally) : Prop where
  vlanId : j.at? ["vlan_id"] = some (.int row.1)
  tally : j.ShowsTally row.2

/-- Two lists, with the rows of the report in their order and no others. -/
structure ShowsTraffic (j : Json) (report : TrafficReport) : Prop where
  interfaces : ∃ rows, j.at? ["interfaces"] = some (.arr rows) ∧
    List.Forall₂ ShowsInterface rows report.interfaces
  vlans : ∃ rows, j.at? ["vlans"] = some (.arr rows) ∧ List.Forall₂ ShowsVlan rows report.vlans

end Json

theorem StatsReport.showsTotals_toJson (r : StatsReport) : r.toJson.ShowsTotals r.kernel := by
  unfold toJson
  cases r.kernel with
  | none => rfl
  | some t => exact ⟨rfl, rfl, rfl⟩

theorem InterfaceRow.showsInterface_toJson (row : InterfaceRow) :
    row.toJson.ShowsInterface row := by
  unfold toJson
  refine ⟨rfl, ?_, ⟨rfl, rfl, rfl, rfl⟩⟩
  cases row.name <;> rfl

theorem TrafficReport.showsTraffic_toJson (r : TrafficReport) : r.toJson.ShowsTraffic r := by
  refine ⟨⟨_, rfl, ?_⟩, ⟨_, rfl, ?_⟩⟩
  · rw [List.forall₂_map_left_iff, List.forall₂_same]
    intro row _
    exact row.showsInterface_toJson
  · rw [List.forall₂_map_left_iff, List.forall₂_same]
    intro row _
    exact ⟨rfl, ⟨rfl, rfl, rfl, rfl⟩⟩

/-! ## Text expositions -/

namespace Exposition

/-- The sample of a line that is neither empty nor a comment: a name, a blank and a value. -/
def sample? : List Char → Option (String × String)
  | [] => none
  | '#' :: _ => none
  | line => some (String.ofList (line.takeWhile (· ≠ ' ')),
      String.ofList ((line.dropWhile (· ≠ ' ')).drop 1))

/-- The samples of the lines. -/
def samplesOf (text : List Char) : List (String × String) :=
  (text.splitOnP (· == '\n')).filterMap sample?

/-- The names and values that a text shows. -/
def samples (text : String) : List (String × String) := samplesOf text.toList

theorem samplesOf_line {line : List Char} (h : '\n' ∉ line) (rest : List Char) :
    samplesOf (line ++ '\n' :: rest) = (sample? line).toList ++ samplesOf rest := by
  have hsolid : line.splitOnP (· == '\n') = [line] := by
    apply List.splitOnP_eq_singleton
    intro c hc
    exact beq_false_of_ne fun heq => h (heq ▸ hc)
  unfold samplesOf
  rw [List.splitOnP_append_cons _ _ rfl, hsolid, List.filterMap_append]
  cases hs : sample? line <;> simp [hs]

/-- What can stand for the name of a sample. -/
@[mk_iff]
structure IsName (name : List Char) : Prop where
  nonempty : name ≠ []
  hash : name.head? ≠ some '#'
  blank : ' ' ∉ name
  newline : '\n' ∉ name

instance (name : List Char) : Decidable (IsName name) := decidable_of_iff' _ (isName_iff name)

theorem sample?_of_isName {name : List Char} (h : IsName name) (value : List Char) :
    sample? (name ++ ' ' :: value) = some (String.ofList name, String.ofList value) := by
  have hall : ∀ c ∈ name, decide (c ≠ ' ') = true := by
    intro c hc
    exact decide_eq_true fun heq => h.blank (heq ▸ hc)
  have hsome : sample? (name ++ ' ' :: value) =
      some (String.ofList ((name ++ ' ' :: value).takeWhile (· ≠ ' ')),
        String.ofList (((name ++ ' ' :: value).dropWhile (· ≠ ' ')).drop 1)) := by
    obtain ⟨c, rest, rfl⟩ := List.exists_cons_of_ne_nil h.nonempty
    unfold sample?
    split
    · next hnil => cases hnil
    · next hcons =>
      cases hcons
      exact absurd rfl h.hash
    · rfl
  rw [hsome, List.takeWhile_append_of_pos hall, List.dropWhile_append_of_pos hall,
    List.takeWhile_cons_of_neg (by simp), List.dropWhile_cons_of_neg (by simp), List.append_nil]
  rfl

/-- The lines of a metric: two comments and its sample. -/
theorem toList_lines (name help kind sample : String) (value : Nat) (rest : String) :
    (Metrics.lines name help kind sample value ++ rest).toList =
      ("# HELP ".toList ++ (name.toList ++ ' ' :: help.toList ++ ['.'])) ++ '\n' ::
        (("# TYPE ".toList ++ (name.toList ++ ' ' :: kind.toList)) ++ '\n' ::
          ((sample.toList ++ ' ' :: (toString value).toList) ++ '\n' :: rest.toList)) := by
  have hself : ∀ s : String, toString s = s := fun _ => rfl
  have hend : ".\n# TYPE ".toList = '.' :: '\n' :: "# TYPE ".toList := rfl
  have hblank : " ".toList = [' '] := rfl
  have hnewline : "\n".toList = ['\n'] := rfl
  unfold Metrics.lines
  simp only [String.toList_append, hself, hend, hblank, hnewline, List.append_assoc,
    List.cons_append, List.nil_append]

theorem newline_notMem_toString (n : Nat) : '\n' ∉ (toString n).toList := by
  rw [Nat.toString_eq_repr, Nat.toList_repr]
  intro h
  have hdigit := Nat.isDigit_of_mem_toDigits (by decide) (by decide) h
  exact absurd hdigit (by decide)

theorem samples_lines {name help kind sample : String} (hname : '\n' ∉ name.toList)
    (hhelp : '\n' ∉ help.toList) (hkind : '\n' ∉ kind.toList) (hsample : IsName sample.toList)
    (value : Nat) (rest : String) :
    samples (Metrics.lines name help kind sample value ++ rest) =
      (sample, toString value) :: samples rest := by
  have hhelpLine : '\n' ∉ "# HELP ".toList ++ (name.toList ++ ' ' :: help.toList ++ ['.']) := by
    simp [hname, hhelp]
  have hkindLine : '\n' ∉ "# TYPE ".toList ++ (name.toList ++ ' ' :: kind.toList) := by
    simp [hname, hkind]
  have hsampleLine : '\n' ∉ sample.toList ++ ' ' :: (toString value).toList := by
    rw [List.mem_append, List.mem_cons]
    rintro (h | h | h)
    · exact hsample.newline h
    · exact absurd h (by decide)
    · exact newline_notMem_toString value h
  unfold samples
  rw [toList_lines, samplesOf_line hhelpLine, samplesOf_line hkindLine, samplesOf_line hsampleLine,
    sample?_of_isName hsample, String.ofList_toList, String.ofList_toList]
  rfl

/-- A counter's sample has the suffix of totals. -/
theorem samples_counter {name help : String} (hname : IsName (name ++ "_total").toList)
    (hhelp : '\n' ∉ help.toList) (value : Nat) (rest : String) :
    samples (Metrics.counter name help value ++ rest) =
      (name ++ "_total", toString value) :: samples rest := by
  have hnewline : '\n' ∉ name.toList := by
    intro h
    exact hname.newline (by simp [h])
  exact samples_lines hnewline hhelp (by decide) hname value rest

theorem samples_gauge {name help : String} (hname : IsName name.toList)
    (hhelp : '\n' ∉ help.toList) (value : Nat) (rest : String) :
    samples (Metrics.gauge name help value ++ rest) = (name, toString value) :: samples rest :=
  samples_lines hname.newline hhelp (by decide) hname value rest

end Exposition

open Exposition in
/-- The metrics' text shows one sample for each of them. -/
theorem Metrics.samples_text (m : Metrics) : samples m.text =
    [("ringtap_packets_total_total", toString m.packets),
      ("ringtap_bytes_total_total", toString m.bytes),
      ("ringtap_kernel_drops_total_total", toString m.kernelDrops),
      ("ringtap_polls_total_total", toString m.polls),
      ("ringtap_interfaces_seen", toString m.interfacesSeen)] := by
  have hend : samples "# EOF\n" = [] := by decide
  unfold text
  simp (disch := decide +kernel) only [String.append_assoc, samples_counter, samples_gauge, hend]
  rfl

end PacketRing
