import Mathlib
import PacketRing.Network.Subnet

/-!
# The texts that are subnets

A grammar of addresses and subnets that knows nothing of how they are read, and its agreement with
the reading.

* `Numeral` : digits of some base, with bounds on how many there are and on their value;
* `V4Text`, `V6Text`, `AddressText` : the texts of addresses, with their values;
* `SubnetText` : an address, a slash and a number of leading bits;
* `takeNumber_of_numeral` … `takeV6_of_text` : what is in the grammar is read, up to where it ends;
* `numeral_of_takeNumber` … `text_of_takeV6` : what is read is in the grammar;
* `Subnet.ofText?_iff` : a text is read as a subnet just if it is one.
-/

namespace PacketRing

/-! ## The grammar -/

/-- One to `maxDigits` digits of the given base that make `n`, which is below `bound`. -/
structure Numeral (digit : Char → Option Nat) (base maxDigits bound : Nat) (s : List Char)
    (n : Nat) : Prop where
  nonempty : s ≠ []
  short : s.length ≤ maxDigits
  value : Text.digitsFrom digit base 0 s = some n
  bounded : n < bound

/-- A byte in decimal. -/
abbrev Octet : List Char → Nat → Prop := Numeral Text.digit? 10 3 256

/-- 16 bits in hexadecimal. -/
abbrev HexGroup : List Char → Nat → Prop := Numeral Text.hexDigit? 16 4 UInt16.size

/-- Octets with points between. -/
inductive Dotted : List Char → List Nat → Prop where
  | last {s : List Char} {o : Nat} : Octet s o → Dotted s [o]
  | more {s t : List Char} {o : Nat} {os : List Nat} :
    Octet s o → Dotted t os → Dotted (s ++ '.' :: t) (o :: os)

/-- The number whose digits of the given base are `ns`, leading ones first. -/
def positional (base : Nat) (ns : List Nat) : Nat := ns.foldl (fun acc n => base * acc + n) 0

def V4Text (s : List Char) (value : Nat) : Prop :=
  ∃ octets, Dotted s octets ∧ octets.length = 4 ∧ value = positional 256 octets

/-- Groups with colons between. The last two may be written as an IPv4 address, which is what the
flag says. -/
inductive Groups : List Char → List Nat → Bool → Prop where
  | last {s : List Char} {g : Nat} : HexGroup s g → Groups s [g] false
  | embedded {s : List Char} {v : Nat} :
    V4Text s v → Groups s [v / UInt16.size, v % UInt16.size] true
  | more {s t : List Char} {g : Nat} {gs : List Nat} {e : Bool} :
    HexGroup s g → Groups t gs e → Groups (s ++ ':' :: t) (g :: gs) e

/-- Groups, or nothing at all. -/
def GroupsOrNone (s : List Char) (gs : List Nat) (e : Bool) : Prop :=
  (s = [] ∧ gs = [] ∧ e = false) ∨ Groups s gs e

/-- Eight groups, or fewer and a double colon for the zeros that are left out, before which no IPv4
address may stand. -/
inductive V6Text : List Char → Nat → Prop where
  | full {s : List Char} {gs : List Nat} {e : Bool} :
    Groups s gs e → gs.length = 8 → V6Text s (positional UInt16.size gs)
  | gap {s t : List Char} {head tail : List Nat} {e : Bool} :
    GroupsOrNone s head false → GroupsOrNone t tail e → head.length < 8 →
    head.length + tail.length ≤ 8 →
    V6Text (s ++ ':' :: ':' :: t) (positional UInt16.size
      (head ++ List.replicate (8 - head.length - tail.length) 0 ++ tail))

def AddressText : AddressFamily → List Char → Nat → Prop
  | .v4 => V4Text
  | .v6 => V6Text

/-- The most digits that a number of leading bits may have. -/
def AddressFamily.maxDigits : AddressFamily → Nat
  | .v4 => 2
  | .v6 => 3

/-- An address, a slash and a number of leading bits. -/
def SubnetText (family : AddressFamily) (s : List Char) (value bits : Nat) : Prop :=
  ∃ address digits, s = address ++ '/' :: digits ∧ AddressText family address value ∧
    Numeral Text.digit? 10 family.maxDigits (family.width + 1) digits bits

/-! ## Values -/

theorem positional_lt {base : Nat} {ns : List Nat} (h : ∀ n ∈ ns, n < base) :
    positional base ns < base ^ ns.length := by
  have hacc (acc k : Nat) (hlt : acc < base ^ k) :
      ns.foldl (fun acc n => base * acc + n) acc < base ^ (k + ns.length) := by
    induction ns generalizing acc k with
    | nil => exact hlt
    | cons n ns ih =>
      obtain ⟨hn, hns⟩ := List.forall_mem_cons.1 h
      rw [List.length_cons, Nat.add_comm ns.length, ← Nat.add_assoc]
      refine ih hns _ _ ?_
      calc base * acc + n < base * acc + base := Nat.add_lt_add_left hn _
        _ = base * (acc + 1) := (Nat.mul_succ ..).symm
        _ ≤ base * base ^ k := Nat.mul_le_mul_left _ hlt
        _ = base ^ (k + 1) := (Nat.pow_succ' ..).symm
  have hall := hacc 0 0 (Nat.one_pos)
  rwa [Nat.zero_add] at hall

theorem Dotted.lt {s : List Char} {os : List Nat} (h : Dotted s os) : ∀ o ∈ os, o < 256 := by
  induction h with
  | last ho => exact List.forall_mem_singleton.2 ho.bounded
  | more ho _ ih => exact List.forall_mem_cons.2 ⟨ho.bounded, ih⟩

theorem V4Text.lt {s : List Char} {v : Nat} (h : V4Text s v) : v < 2 ^ 32 := by
  obtain ⟨os, hos, hlen, rfl⟩ := h
  have hlt := positional_lt hos.lt
  rw [hlen] at hlt
  exact hlt

theorem Groups.lt {s : List Char} {gs : List Nat} {e : Bool} (h : Groups s gs e) :
    ∀ g ∈ gs, g < UInt16.size := by
  induction h with
  | last hg => exact List.forall_mem_singleton.2 hg.bounded
  | embedded hv =>
    have hlt : _ < 65536 * 65536 := hv.lt
    exact List.forall_mem_cons.2 ⟨Nat.div_lt_of_lt_mul hlt,
      List.forall_mem_singleton.2 (Nat.mod_lt _ (by decide))⟩
  | more hg _ ih => exact List.forall_mem_cons.2 ⟨hg.bounded, ih⟩

theorem GroupsOrNone.lt {s : List Char} {gs : List Nat} {e : Bool} (h : GroupsOrNone s gs e) :
    ∀ g ∈ gs, g < UInt16.size := by
  rcases h with ⟨-, rfl, -⟩ | h
  · exact nofun
  · exact h.lt

theorem V6Text.lt {s : List Char} {v : Nat} (h : V6Text s v) : v < 2 ^ 128 := by
  cases h with
  | full hgs hlen =>
    have hlt := positional_lt hgs.lt
    rw [hlen] at hlt
    exact hlt
  | @gap s t head tail e hhead htail hlt hlen =>
    have hzero : ∀ g ∈ List.replicate (8 - head.length - tail.length) 0, g < UInt16.size := by
      intro g hg
      rw [(List.mem_replicate.1 hg).2]
      decide
    have height :
        (head ++ List.replicate (8 - head.length - tail.length) 0 ++ tail).length = 8 := by
      simp only [List.length_append, List.length_replicate]
      omega
    have hall := positional_lt (List.forall_mem_append.2
      ⟨List.forall_mem_append.2 ⟨hhead.lt, hzero⟩, htail.lt⟩)
    rw [height] at hall
    exact hall

theorem SubnetText.value_lt {family : AddressFamily} {s : List Char} {value bits : Nat}
    (h : SubnetText family s value bits) : value < 2 ^ family.width := by
  obtain ⟨address, _, -, haddress, -⟩ := h
  cases family with
  | v4 => exact V4Text.lt haddress
  | v6 => exact V6Text.lt haddress

theorem SubnetText.bits_le {family : AddressFamily} {s : List Char} {value bits : Nat}
    (h : SubnetText family s value bits) : bits ≤ family.width := by
  obtain ⟨_, _, -, -, hnumeral⟩ := h
  exact Nat.le_of_lt_succ hnumeral.bounded

/-! ## Numerals -/

/-- A numeral ends before `rest`. -/
def Stops (digit : Char → Option Nat) (rest : List Char) : Prop :=
  ∀ c ∈ rest.head?, digit c = none

namespace Address

variable {digit : Char → Option Nat} {base maxDigits bound acc n : Nat} {s t rest : List Char}

theorem isSome_of_digitsFrom (h : Text.digitsFrom digit base acc s = some n) :
    ∀ c ∈ s, (digit c).isSome := by
  induction s generalizing acc with
  | nil => exact nofun
  | cons c s ih =>
    unfold Text.digitsFrom at h
    split at h
    · next d hd => exact List.forall_mem_cons.2 ⟨by rw [hd]; rfl, ih h⟩
    · cases h

theorem takeWhile_of_stops (hs : ∀ c ∈ s, (digit c).isSome) (hstop : Stops digit rest) :
    (s ++ rest).takeWhile (fun c => (digit c).isSome) = s := by
  rw [List.takeWhile_append_of_pos hs]
  cases rest with
  | nil => rw [List.takeWhile_nil, List.append_nil]
  | cons c rest =>
    rw [List.takeWhile_cons_of_neg (by rw [hstop c rfl]; exact Bool.false_ne_true), List.append_nil]

theorem takeNumber_of_numeral (h : Numeral digit base maxDigits bound s n)
    (hstop : Stops digit rest) :
    takeNumber digit base maxDigits bound (s ++ rest) = some (n, rest) := by
  unfold takeNumber
  dsimp only
  rw [takeWhile_of_stops (isSome_of_digitsFrom h.value) hstop, h.value,
    if_neg (by simp [h.nonempty, h.short])]
  dsimp only
  rw [if_pos h.bounded, List.drop_left]

theorem takeNumber_of_stops (hstop : Stops digit rest) :
    takeNumber digit base maxDigits bound rest = none := by
  unfold takeNumber
  dsimp only
  rw [show rest.takeWhile _ = [] from takeWhile_of_stops (s := []) nofun hstop]
  rfl

theorem numeral_of_takeNumber (h : takeNumber digit base maxDigits bound s = some (n, rest)) :
    ∃ front, s = front ++ rest ∧ Numeral digit base maxDigits bound front n := by
  unfold takeNumber at h
  dsimp only at h
  split at h
  · cases h
  split at h
  · next hlen _ m hm =>
    split at h
    · next hb =>
      cases h
      obtain ⟨hne, hle⟩ := not_or.1 hlen
      refine ⟨s.takeWhile fun c => (digit c).isSome, ?_, ?_, Nat.le_of_not_lt hle, hm, hb⟩
      · exact (List.prefix_iff_eq_append.1 (List.takeWhile_prefix _)).symm
      · simpa using hne
    · cases h
  · cases h

theorem takeChar_eq_some {c : Char} (h : takeChar c s = some t) : s = c :: t := by
  unfold takeChar at h
  split at h
  · split at h
    · next hc => cases h; rw [hc]
    · cases h
  · cases h

theorem takeChar_self (c : Char) (s : List Char) : takeChar c (c :: s) = some s := if_pos rfl

/-! ## IPv4 addresses -/

/-- The first of several octets, and those behind it. -/
theorem takeOctets_of_dotted {os : List Nat} (h : Dotted s os) (hstop : Stops Text.digit? rest)
    (acc : Nat) (hlen : os.length = n + 1) :
    (takeDecimal 3 256 (s ++ rest) >>= fun p => takeOctets (256 * acc + p.1) p.2 n) =
      some (os.foldl (fun acc o => 256 * acc + o) acc, rest) := by
  induction h generalizing acc n with
  | last ho =>
    obtain rfl : n = 0 := by simpa using hlen.symm
    unfold takeDecimal
    rw [takeNumber_of_numeral ho hstop]
    rfl
  | @more s t o os ho hos ih =>
    obtain ⟨n, rfl⟩ : ∃ m, n = m + 1 := by
      cases hos <;> exact ⟨_, Nat.succ.inj hlen.symm⟩
    unfold takeDecimal
    rw [List.append_assoc, takeNumber_of_numeral ho (by rintro _ ⟨⟩; rfl)]
    show (takeChar '.' ('.' :: (t ++ rest)) >>= fun s => _) = _
    rw [takeChar_self]
    exact ih _ (by simpa using hlen)

theorem takeV4_of_text {v : Nat} (h : V4Text s v) (hstop : Stops Text.digit? rest) :
    takeV4 (s ++ rest) = some (v, rest) := by
  obtain ⟨os, hos, hlen, rfl⟩ := h
  have htake := takeOctets_of_dotted hos hstop 0 hlen
  simp only [Nat.mul_zero, Nat.zero_add] at htake
  exact htake

theorem dotted_of_takeOctets {v : Nat}
    (h : (takeDecimal 3 256 s >>= fun p => takeOctets (256 * acc + p.1) p.2 n) = some (v, rest)) :
    ∃ front os, s = front ++ rest ∧ Dotted front os ∧ os.length = n + 1 ∧
      v = os.foldl (fun acc o => 256 * acc + o) acc := by
  induction n generalizing acc s with
  | zero =>
    obtain ⟨⟨o, s'⟩, ho, hrest⟩ := Option.bind_eq_some_iff.1 h
    obtain ⟨front, rfl, hoctet⟩ := numeral_of_takeNumber ho
    cases hrest
    exact ⟨front, [o], rfl, .last hoctet, rfl, rfl⟩
  | succ n ih =>
    obtain ⟨⟨o, s'⟩, ho, hrest⟩ := Option.bind_eq_some_iff.1 h
    obtain ⟨front, rfl, hoctet⟩ := numeral_of_takeNumber ho
    obtain ⟨s'', hpoint, hmore⟩ := Option.bind_eq_some_iff.1 hrest
    obtain rfl := takeChar_eq_some hpoint
    obtain ⟨t, os, rfl, hos, hlen, rfl⟩ := ih hmore
    exact ⟨front ++ '.' :: t, o :: os, by simp, .more hoctet hos, by simp [hlen], rfl⟩

theorem text_of_takeV4 {v : Nat} (h : takeV4 s = some (v, rest)) :
    ∃ front, s = front ++ rest ∧ V4Text front v := by
  have h' : (takeDecimal 3 256 s >>= fun p => takeOctets (256 * 0 + p.1) p.2 3) =
      some (v, rest) := by
    simp only [Nat.mul_zero, Nat.zero_add]
    exact h
  obtain ⟨front, os, rfl, hos, hlen, rfl⟩ := dotted_of_takeOctets h'
  exact ⟨front, rfl, os, hos, hlen, rfl⟩

theorem isSome_hexDigit? {c : Char} (h : (Text.digit? c).isSome) : (Text.hexDigit? c).isSome := by
  unfold Text.digit? at h
  unfold Text.hexDigit?
  split at h
  · next hc => rw [if_pos hc]; rfl
  · cases h

/-- What begins with hexadecimal digits, or none, and then something other than a point, is no IPv4
address. -/
theorem takeV4_eq_none (hs : ∀ c ∈ s, (Text.hexDigit? c).isSome)
    (hstop : Stops Text.hexDigit? rest) (hpoint : rest.head? ≠ some '.') :
    takeV4 (s ++ rest) = none := by
  by_contra hne
  obtain ⟨⟨v, r⟩, hv⟩ := Option.ne_none_iff_exists'.1 hne
  obtain ⟨front, hfront, os, hos, hlen, -⟩ := text_of_takeV4 hv
  cases hos with
  | last => cases hlen
  | @more a t o os ho _ =>
    -- The point that ends the first octet ends the digits at the front of `s ++ rest`.
    have hdigits := takeWhile_of_stops hs hstop
    have hdot : Stops Text.hexDigit? ('.' :: t ++ r) := by rintro _ ⟨⟩; rfl
    rw [hfront, List.append_assoc, takeWhile_of_stops (fun c hc => isSome_hexDigit?
      (isSome_of_digitsFrom ho.value c hc)) hdot] at hdigits
    subst hdigits
    rw [List.append_assoc, List.append_cancel_left_eq] at hfront
    exact hpoint (by rw [hfront]; rfl)

/-! ## IPv6 addresses -/

theorem takeSeparator_false (s : List Char) : takeSeparator false s = takeChar ':' s := rfl

section Steps
variable {first : Bool} {u : List Char} {v g : Nat}

theorem takeGroups_of_no_separator (hsep : takeSeparator first s = none) (n : Nat) :
    takeGroups first s n = ([], false, s) := by
  cases n with
  | zero => rfl
  | succ n =>
    have hnone : (if 0 < n then (none : Option (List Char)) >>= takeV4 else none) = none :=
      ite_self _
    rw [takeGroups, hsep, hnone]
    rfl

variable (hsep : takeSeparator first s = some u)
include hsep

theorem takeGroups_succ (n : Nat) : takeGroups first s (n + 1) =
    match if 0 < n then takeV4 u else none with
    | some (v4, s) => ([v4 / UInt16.size, v4 % UInt16.size], true, s)
    | none =>
      match takeNumber Text.hexDigit? 16 4 UInt16.size u with
      | some (group, s) => (group :: (takeGroups false s n).1, (takeGroups false s n).2)
      | none => ([], false, s) := by
  rw [takeGroups, hsep]
  rfl

theorem takeGroups_of_v4 (hn : 0 < n) (hv4 : takeV4 u = some (v, rest)) :
    takeGroups first s (n + 1) = ([v / UInt16.size, v % UInt16.size], true, rest) := by
  rw [takeGroups_succ hsep, if_pos hn, hv4]

theorem takeGroups_of_group (hv4 : takeV4 u = none)
    (hg : takeNumber Text.hexDigit? 16 4 UInt16.size u = some (g, rest)) :
    takeGroups first s (n + 1) =
      (g :: (takeGroups false rest n).1, (takeGroups false rest n).2) := by
  rw [takeGroups_succ hsep, hv4, ite_self, hg]

/-- A text at which no group begins. -/
theorem takeGroups_of_stops (hstop : Stops Text.hexDigit? u) (hpoint : u.head? ≠ some '.')
    (n : Nat) : takeGroups first s n = ([], false, s) := by
  cases n with
  | zero => rfl
  | succ n =>
    have hv4 : takeV4 u = none := takeV4_eq_none (s := []) nofun hstop hpoint
    rw [takeGroups_succ hsep, hv4, ite_self, takeNumber_of_stops hstop]

end Steps

/-- Groups end before `rest`. -/
structure EndsGroups (rest : List Char) : Prop where
  stops : Stops Text.hexDigit? rest
  noPoint : rest.head? ≠ some '.'
  noMore : ∀ n, takeGroups false rest n = ([], false, rest)

theorem endsGroups_slash (s : List Char) : EndsGroups ('/' :: s) :=
  ⟨by rintro _ ⟨⟩; rfl, by simp, takeGroups_of_no_separator rfl⟩

theorem endsGroups_gap (s : List Char) : EndsGroups (':' :: ':' :: s) :=
  ⟨by rintro _ ⟨⟩; rfl, by simp,
    takeGroups_of_stops (u := ':' :: s) rfl (by rintro _ ⟨⟩; rfl) (by simp)⟩

theorem digit?_eq_none {c : Char} (h : Text.hexDigit? c = none) : Text.digit? c = none := by
  by_contra hne
  have hsome := isSome_hexDigit? (Option.isSome_iff_ne_none.2 hne)
  rw [h] at hsome
  cases hsome

theorem takeGroups_of_groups {first : Bool} {u : List Char} {gs : List Nat} {e : Bool}
    (h : Groups u gs e) (hsep : takeSeparator first s = some (u ++ rest)) (hlen : gs.length ≤ n)
    (hend : EndsGroups rest) : takeGroups first s n = (gs, e, rest) := by
  induction h generalizing first s n with
  | last hg =>
    obtain ⟨n, rfl⟩ := Nat.exists_eq_add_of_le' hlen
    rw [List.length_singleton, takeGroups_of_group hsep
      (takeV4_eq_none (isSome_of_digitsFrom hg.value) hend.stops hend.noPoint)
      (takeNumber_of_numeral hg hend.stops), hend.noMore]
  | embedded hv =>
    obtain ⟨n, rfl⟩ := Nat.exists_eq_add_of_le' hlen
    exact takeGroups_of_v4 hsep (Nat.succ_pos _)
      (takeV4_of_text hv fun c hc => digit?_eq_none (hend.stops c hc))
  | @more u t g gs e hg _ ih =>
    obtain ⟨n, rfl⟩ := Nat.exists_eq_add_of_le' hlen
    rw [List.append_assoc] at hsep
    have hcolon : Stops Text.hexDigit? (':' :: t ++ rest) := by rintro _ ⟨⟩; rfl
    have hnext : takeSeparator false (':' :: t ++ rest) = some (t ++ rest) :=
      (takeSeparator_false _).trans (takeChar_self ..)
    rw [List.length_cons, ← Nat.add_assoc, takeGroups_of_group hsep
      (takeV4_eq_none (isSome_of_digitsFrom hg.value) hcolon (by simp))
      (takeNumber_of_numeral hg hcolon), ih hnext (Nat.le_add_left _ _)]

theorem groups_of_takeGroups {first : Bool} {gs : List Nat} {e : Bool}
    (h : takeGroups first s n = (gs, e, rest)) :
    (s = rest ∧ gs = [] ∧ e = false) ∨
      gs.length ≤ n ∧ ∃ u, takeSeparator first s = some (u ++ rest) ∧ Groups u gs e := by
  induction n generalizing first s gs e with
  | zero =>
    cases h
    exact Or.inl ⟨rfl, rfl, rfl⟩
  | succ n ih =>
    cases hsep : takeSeparator first s with
    | none =>
      rw [takeGroups_of_no_separator hsep] at h
      cases h
      exact Or.inl ⟨rfl, rfl, rfl⟩
    | some u =>
      rw [takeGroups_succ hsep] at h
      split at h
      · next v r hv4 =>
        cases h
        split at hv4
        · next hn =>
          obtain ⟨front, rfl, hv⟩ := text_of_takeV4 hv4
          exact Or.inr ⟨Nat.succ_le_succ hn, front, rfl, .embedded hv⟩
        · cases hv4
      · split at h
        · next g r hg =>
          obtain ⟨front, rfl, hgroup⟩ := numeral_of_takeNumber hg
          obtain ⟨rfl, hrest⟩ := Prod.mk.inj h
          have hmore : takeGroups false r n = ((takeGroups false r n).1, e, rest) :=
            Prod.ext rfl hrest
          rcases ih hmore with ⟨hr, hgs, he⟩ | ⟨hlen, t, ht, hgs⟩
          · rw [hgs, he, hr]
            exact Or.inr ⟨Nat.succ_le_succ (Nat.zero_le n), front, rfl, .last hgroup⟩
          · obtain rfl := takeChar_eq_some ht
            refine Or.inr ⟨Nat.succ_le_succ hlen, front ++ ':' :: t, ?_, .more hgroup hgs⟩
            rw [List.append_assoc]
            rfl
        · cases h
          exact Or.inl ⟨rfl, rfl, rfl⟩

theorem takeGroups_of_groupsOrNone {gs : List Nat} {e : Bool} (h : GroupsOrNone s gs e)
    (hlen : gs.length ≤ n) (hend : EndsGroups rest) :
    takeGroups true (s ++ rest) n = (gs, e, rest) := by
  rcases h with ⟨rfl, rfl, rfl⟩ | h
  · exact takeGroups_of_stops rfl hend.stops hend.noPoint n
  · exact takeGroups_of_groups h rfl hlen hend

theorem groupsOrNone_of_takeGroups {gs : List Nat} {e : Bool}
    (h : takeGroups true s n = (gs, e, rest)) :
    gs.length ≤ n ∧ ∃ front, s = front ++ rest ∧ GroupsOrNone front gs e := by
  rcases groups_of_takeGroups h with ⟨rfl, rfl, rfl⟩ | ⟨hlen, u, hu, hgs⟩
  · exact ⟨Nat.zero_le n, [], rfl, Or.inl ⟨rfl, rfl, rfl⟩⟩
  · exact ⟨hlen, u, Option.some.inj hu, Or.inr hgs⟩

theorem takeV6_of_gap {head tail : List Nat} {e : Bool}
    (hhead : takeGroups true s 8 = (head, false, ':' :: ':' :: t)) (hlen : head.length ≠ 8)
    (htail : takeGroups true t (8 - head.length) = (tail, e, rest)) :
    takeV6 s = some (positional UInt16.size
      (head ++ List.replicate (8 - head.length - tail.length) 0 ++ tail), rest) := by
  unfold takeV6
  rw [hhead]
  dsimp only
  rw [if_neg hlen, if_neg Bool.false_ne_true]
  simp only [takeChar_self, Option.bind_eq_bind, Option.bind_some, htail]
  rfl

theorem takeV6_of_text {v : Nat} (h : V6Text s v) (hend : EndsGroups rest) :
    takeV6 (s ++ rest) = some (v, rest) := by
  cases h with
  | full hgs hlen =>
    unfold takeV6
    rw [takeGroups_of_groups hgs rfl hlen.le hend]
    dsimp only
    rw [if_pos hlen]
    rfl
  | @gap s t head tail e hhead htail hlt hlen =>
    rw [List.append_assoc]
    exact takeV6_of_gap (takeGroups_of_groupsOrNone hhead hlt.le (endsGroups_gap _)) hlt.ne
      (takeGroups_of_groupsOrNone htail (by omega) hend)

theorem text_of_takeV6 {v : Nat} (h : takeV6 s = some (v, rest)) :
    ∃ front, s = front ++ rest ∧ V6Text front v := by
  unfold takeV6 at h
  split at h
  next head e s' hhead =>
  obtain ⟨hle, front, rfl, hgroups⟩ := groupsOrNone_of_takeGroups hhead
  split at h
  · next hfull =>
    cases h
    rcases hgroups with ⟨-, rfl, -⟩ | hgroups
    · cases hfull
    · exact ⟨front, rfl, .full hgroups hfull⟩
  · next hlen =>
    split at h
    · cases h
    · next he =>
      obtain ⟨s₁, h₁, hsecond⟩ := Option.bind_eq_some_iff.1 h
      obtain ⟨s₂, h₂, htail⟩ := Option.bind_eq_some_iff.1 hsecond
      obtain rfl := takeChar_eq_some h₁
      obtain rfl := takeChar_eq_some h₂
      split at htail
      next tail e' s₃ hgroups' =>
      obtain ⟨hle', t, rfl, htext⟩ := groupsOrNone_of_takeGroups hgroups'
      cases htail
      rw [Bool.not_eq_true] at he
      subst he
      refine ⟨front ++ ':' :: ':' :: t, by simp, .gap hgroups htext ?_ ?_⟩ <;> omega

/-! ## Subnets -/

theorem takeBits_of_numeral {family : AddressFamily} {digits : List Char} {bits : Nat}
    (h : Numeral Text.digit? 10 family.maxDigits (family.width + 1) digits bits) :
    Subnet.takeBits family ('/' :: digits) = some (bits, []) := by
  have hnil : Stops Text.digit? [] := nofun
  have hend := takeNumber_of_numeral h hnil
  rw [List.append_nil] at hend
  unfold Subnet.takeBits
  rw [takeChar_self]
  cases family <;> exact hend

theorem numeral_of_takeBits {family : AddressFamily} {bits : Nat}
    (h : Subnet.takeBits family s = some (bits, [])) :
    ∃ digits, s = '/' :: digits ∧
      Numeral Text.digit? 10 family.maxDigits (family.width + 1) digits bits := by
  obtain ⟨digits, hslash, h⟩ := Option.bind_eq_some_iff.1 h
  obtain rfl := takeChar_eq_some hslash
  refine ⟨digits, rfl, ?_⟩
  cases family <;>
  · obtain ⟨front, hfront, hnumeral⟩ := numeral_of_takeNumber h
    rw [List.append_nil] at hfront
    rw [hfront]
    exact hnumeral

/-- Before its first colon an IPv6 address has hexadecimal digits only. -/
theorem exists_colon_of_v6 {v : Nat} (h : V6Text s v) :
    ∃ u t, s = u ++ ':' :: t ∧ ∀ c ∈ u, (Text.hexDigit? c).isSome := by
  cases h with
  | full hgs hlen =>
    cases hgs with
    | last => cases hlen
    | embedded => cases hlen
    | more hg => exact ⟨_, _, rfl, isSome_of_digitsFrom hg.value⟩
  | gap hhead =>
    rcases hhead with ⟨rfl, -, -⟩ | hgs
    · exact ⟨[], _, rfl, nofun⟩
    · cases hgs with
      | last hg => exact ⟨_, _, rfl, isSome_of_digitsFrom hg.value⟩
      | more hg => exact ⟨_, _, by rw [List.append_assoc]; rfl, isSome_of_digitsFrom hg.value⟩

end Address

namespace Subnet

open Address

variable {family : AddressFamily} {address : List Char → Option (Nat × List Char)}

theorem take_of_text {a digits : List Char} {value bits : Nat}
    (ha : address (a ++ '/' :: digits) = some (value, '/' :: digits))
    (hbits : Numeral Text.digit? 10 family.maxDigits (family.width + 1) digits bits) :
    take family address (a ++ '/' :: digits) = some (⟨⟨family, value⟩, bits⟩, []) := by
  unfold take
  rw [ha]
  show (takeBits family ('/' :: digits) >>= fun p => _) = _
  rw [takeBits_of_numeral hbits]
  rfl

theorem text_of_take {s : List Char} {net : Subnet} (h : take family address s = some (net, []))
    (hsound : ∀ {s rest v}, address s = some (v, rest) →
      ∃ front, s = front ++ rest ∧ AddressText family front v) :
    SubnetText net.base.family s net.base.value net.bits := by
  obtain ⟨⟨value, s'⟩, ha, hrest⟩ := Option.bind_eq_some_iff.1 h
  obtain ⟨⟨bits, s''⟩, hbits, hnet⟩ := Option.bind_eq_some_iff.1 hrest
  cases hnet
  obtain ⟨front, rfl, htext⟩ := hsound ha
  obtain ⟨digits, rfl, hnumeral⟩ := numeral_of_takeBits hbits
  exact ⟨front, digits, rfl, htext, hnumeral⟩

/-- **A text is read as a subnet just if it is one.** -/
theorem ofText?_iff {e : String} {net : Subnet} :
    ofText? e = some net ↔ SubnetText net.base.family e.toList net.base.value net.bits := by
  unfold ofText?
  constructor
  · intro h
    split at h
    · next net' htake =>
      cases h
      rcases Option.or_eq_some_iff.1 htake with h4 | ⟨-, h6⟩
      · exact text_of_take h4 text_of_takeV4
      · exact text_of_take h6 text_of_takeV6
    · cases h
  · obtain ⟨⟨family, value⟩, bits⟩ := net
    rintro ⟨a, digits, he, htext, hbits⟩
    rw [he]
    cases family with
    | v4 =>
      rw [take_of_text (takeV4_of_text htext (by rintro _ ⟨⟩; rfl)) hbits]
      rfl
    | v6 =>
      -- An IPv4 address would end before the first colon.
      have hnone : take .v4 takeV4 (a ++ '/' :: digits) = none := by
        obtain ⟨u, t, rfl, hu⟩ := exists_colon_of_v6 htext
        unfold take
        rw [List.append_assoc, takeV4_eq_none hu (by rintro _ ⟨⟩; rfl) (by simp)]
        rfl
      rw [hnone, take_of_text (takeV6_of_text htext (endsGroups_slash _)) hbits]
      rfl

end Subnet

end PacketRing
