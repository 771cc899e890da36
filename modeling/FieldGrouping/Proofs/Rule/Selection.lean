import FieldGrouping.Proofs.Rule.Candidates
import FieldGrouping.Proofs.Sorting
import Mathlib.Data.List.Basic
import Mathlib.Data.List.Induction
import Mathlib.Data.Set.Basic

/-!
What taking groups gives. A group that is taken has the fields that no group taken before it has;
for gathered groups in the order of their stems' lengths these are the fields that no taken group
of a longer stem covers, so that what is taken can be told from the taken stems alone.
-/

set_option autoImplicit false

namespace FieldGrouping

def stemSet (stems : List String) : Set String :=
  {stem | stem ∈ stems}

@[simp]
theorem mem_stemSet {stem : String} {stems : List String} : stem ∈ stemSet stems ↔ stem ∈ stems :=
  Iff.rfl

instance (stems : List String) : DecidablePred (· ∈ stemSet stems) :=
  fun stem => inferInstanceAs (Decidable (stem ∈ stems))

/-- Among reported stems, a stem keeps a name that it covers and no reported stem after it does. -/
def Keeps (reported : Set String) (stem name : String) : Prop :=
  Covers stem name ∧ ∀ longer ∈ reported, Covers stem longer → ¬ Covers longer name

section Keeps

variable {reported : Set String}

theorem keeps_iff_stems {stem name : String} :
    Keeps reported stem name ↔
      Covers stem name ∧ ∀ longer ∈ stems name, Covers stem longer → longer ∉ reported := by
  simp only [Keeps, mem_stems]
  constructor
  · rintro ⟨hc, h⟩
    exact ⟨hc, fun q hq hs hr => h q hr hs hq⟩
  · rintro ⟨hc, h⟩
    exact ⟨hc, fun q hr hs hq => h q hq hs hr⟩

/-- Of the reported stems the longest that covers a name keeps it. -/
theorem keeps_iff_longest {stem name : String} :
    Keeps reported stem name ↔
      Covers stem name ∧ ∀ other ∈ reported, Covers other name → other.length ≤ stem.length := by
  constructor
  · rintro ⟨hc, hl⟩
    refine ⟨hc, fun other ho hn => Nat.le_of_not_lt fun hlt => ?_⟩
    exact hl other ho (hc.of_length_lt hn hlt) hn
  · rintro ⟨hc, hl⟩
    refine ⟨hc, fun longer ho hs hn => ?_⟩
    have hlt := hs.length_lt
    have hle := hl longer ho hn
    omega

theorem Keeps.eq {stem other name : String} (hs : stem ∈ reported) (ho : other ∈ reported)
    (h : Keeps reported stem name) (h' : Keeps reported other name) : stem = other := by
  rw [keeps_iff_longest] at h h'
  exact h.1.eq_of_length_eq h'.1 (Nat.le_antisymm (h'.2 stem hs h.1) (h.2 other ho h'.1))

theorem exists_keeps {stem name : String} (hs : stem ∈ reported) (hc : Covers stem name) :
    ∃ longest ∈ reported, Keeps reported longest name ∧ stem.length ≤ longest.length := by
  suffices ∀ n stem, name.length ≤ stem.length + n → stem ∈ reported → Covers stem name →
      ∃ longest ∈ reported, Keeps reported longest name ∧ stem.length ≤ longest.length from
    this name.length stem (by omega) hs hc
  intro n
  induction n with
  | zero =>
    intro stem hn _ hc
    have hlt := hc.length_lt
    omega
  | succ n ih =>
    intro stem hn hs hc
    by_cases hl : ∃ longer ∈ reported, Covers stem longer ∧ Covers longer name
    · obtain ⟨longer, hr, hsl, hln⟩ := hl
      have hlt := hsl.length_lt
      obtain ⟨longest, hm, hk, hle⟩ := ih longer (by omega) hr hln
      exact ⟨longest, hm, hk, by omega⟩
    · exact ⟨stem, hs, ⟨hc, fun q hq hsq hqn => hl ⟨q, hq, hsq, hqn⟩⟩, Nat.le_refl _⟩

instance [DecidablePred (· ∈ reported)] (stem name : String) :
    Decidable (Keeps reported stem name) :=
  decidable_of_iff _ keeps_iff_stems.symm

/-- The fields that a stem keeps, in the order of declaration. -/
def kept (reported : Set String) [DecidablePred (· ∈ reported)] (stem : String)
    (slots : List Slot) : List Slot :=
  slots.filter fun slot => Keeps reported stem slot.field.name

theorem mem_kept [DecidablePred (· ∈ reported)] {stem : String} {slot : Slot} {slots : List Slot} :
    slot ∈ kept reported stem slots ↔ slot ∈ slots ∧ Keeps reported stem slot.field.name := by
  simp [kept]

theorem kept_sublist_covered [DecidablePred (· ∈ reported)] (stem : String) (slots : List Slot) :
    (kept reported stem slots).Sublist (covered stem slots) := by
  refine List.monotone_filter_right slots fun slot h => ?_
  simp only [decide_eq_true_eq] at h ⊢
  exact h.1

end Keeps

/-- Of two stems the longer one comes first; `tie` settles which of two equally long ones does. -/
def LongerFirst (tie : Prop) (stem other : String) : Prop :=
  other.length < stem.length ∨ other.length = stem.length ∧ tie

instance (tie : Prop) [Decidable tie] (stem other : String) :
    Decidable (LongerFirst tie stem other) :=
  inferInstanceAs (Decidable (_ ∨ _))

namespace LongerFirst

variable {tie tie' : Prop} {stem other : String}

theorem length_le (h : LongerFirst tie stem other) : other.length ≤ stem.length :=
  h.elim Nat.le_of_lt fun h => Nat.le_of_eq h.1

theorem asymm (ties : tie → ¬ tie') (h : LongerFirst tie stem other) :
    ¬ LongerFirst tie' other stem := by
  rcases h with hlt | ⟨heq, ht⟩
  · rintro (hlt' | ⟨heq', _⟩) <;> omega
  · rintro (hlt' | ⟨_, ht'⟩)
    · omega
    · exact ties ht ht'

end LongerFirst

namespace Group

abbrev stemsOf (groups : List Group) : Set String :=
  stemSet (groups.map (·.stem))

def taken (groups : List Group) : List Slot :=
  groups.flatMap (·.members)

theorem mem_taken {slot : Slot} {groups : List Group} :
    slot ∈ taken groups ↔ ∃ group ∈ groups, slot ∈ group.members :=
  List.mem_flatMap

section Take

variable (minimum : Int)

theorem takeFrom_congr {claimed claimed' : List Slot}
    (h : ∀ slot, slot ∈ claimed ↔ slot ∈ claimed') (groups : List Group) :
    takeFrom minimum claimed groups = takeFrom minimum claimed' groups := by
  induction groups generalizing claimed claimed' with
  | nil => rfl
  | cons group groups ih =>
    have hf : (group.members.filter fun slot => !claimed.contains slot) =
        group.members.filter fun slot => !claimed'.contains slot :=
      List.filter_congr fun slot _ => by simp [h]
    simp only [takeFrom, hf]
    split
    · exact ih h
    · congr 1
      exact ih fun slot => by simp [h]

theorem takeFrom_append (claimed : List Slot) (groups more : List Group) :
    takeFrom minimum claimed (groups ++ more) =
      takeFrom minimum claimed groups ++
        takeFrom minimum (taken (takeFrom minimum claimed groups) ++ claimed) more := by
  induction groups generalizing claimed with
  | nil => simp [takeFrom, taken]
  | cons group groups ih =>
    simp only [List.cons_append, takeFrom]
    split
    · exact ih claimed
    · rw [ih, List.cons_append]
      congr 2
      refine takeFrom_congr minimum (fun slot => ?_) more
      simp [taken, or_left_comm]

/-- What a group still has after some groups were gone through. -/
def rest (minimum : Int) (earlier : List Group) (group : Group) : Group :=
  ⟨group.stem, group.members.filter fun slot => slot ∉ taken (takeFrom minimum [] earlier)⟩

/-- One step: a last group is taken with the rest of its fields, if these are enough. -/
theorem takeFrom_concat (groups : List Group) (last : Group) :
    takeFrom minimum [] (groups ++ [last]) =
      takeFrom minimum [] groups ++
        if minimum ≤ (rest minimum groups last).members.length then [rest minimum groups last]
        else [] := by
  have hf : (last.members.filter fun slot =>
      !(taken (takeFrom minimum [] groups) ++ []).contains slot) =
        (rest minimum groups last).members :=
    List.filter_congr fun slot _ => by simp
  rw [takeFrom_append]
  simp only [takeFrom, hf]
  by_cases h : minimum ≤ (rest minimum groups last).members.length
  · simp only [h, Int.not_lt.2 h, if_true, if_false]
    rfl
  · simp only [h, Int.not_le.1 h, if_true, if_false]

theorem takeFrom_isPrefix (groups more : List Group) :
    takeFrom minimum [] groups <+: takeFrom minimum [] (groups ++ more) :=
  ⟨_, (takeFrom_append minimum [] groups more).symm⟩

theorem stems_takeFrom_sublist (claimed : List Slot) (groups : List Group) :
    ((takeFrom minimum claimed groups).map (·.stem)).Sublist (groups.map (·.stem)) := by
  induction groups generalizing claimed with
  | nil => simp [takeFrom]
  | cons group groups ih =>
    simp only [takeFrom]
    split
    · exact (ih claimed).cons _
    · exact (ih _).cons_cons _

variable {minimum}

/-- A whole run: what is taken is the rest of a group after those before it, where it is enough. -/
theorem mem_takeFrom {group : Group} {groups : List Group} :
    group ∈ takeFrom minimum [] groups ↔
      ∃ earlier candidate later, groups = earlier ++ candidate :: later ∧
        group = rest minimum earlier candidate ∧ minimum ≤ group.members.length := by
  constructor
  · intro h
    induction groups using List.reverseRecOn with
    | nil => simp [takeFrom] at h
    | append_singleton groups last ih =>
      rw [takeFrom_concat, List.mem_append] at h
      rcases h with h | h
      · obtain ⟨earlier, candidate, later, rfl, hg⟩ := ih h
        exact ⟨earlier, candidate, later ++ [last], by simp, hg⟩
      · by_cases hm : minimum ≤ (rest minimum groups last).members.length
        · obtain rfl : group = rest minimum groups last := by simpa [hm] using h
          exact ⟨groups, last, [], rfl, rfl, hm⟩
        · simp [hm] at h
  · rintro ⟨earlier, candidate, later, rfl, rfl, hm⟩
    have h : rest minimum earlier candidate ∈ takeFrom minimum [] (earlier ++ [candidate]) := by
      simp [takeFrom_concat, hm]
    have hp := takeFrom_isPrefix minimum (earlier ++ [candidate]) later
    rw [List.append_assoc, List.singleton_append] at hp
    exact hp.subset h

end Take

/-- Longer stems stand first, and equally long ones in the order that their groups had. -/
theorem pairwise_byLength {R : Group → Group → Prop} {groups : List Group}
    (h : groups.Pairwise R) :
    (byLength groups).Pairwise fun a b => LongerFirst (R a b) a.stem b.stem := by
  refine (pairwise_sortStable ?_ ?_ h).imp fun {a b} hab => ?_
  · simp only [decide_eq_true_eq, decide_eq_false_iff_not]
    omega
  · simp only [decide_eq_false_iff_not]
    omega
  · simp only [decide_eq_true_eq, decide_eq_false_iff_not] at hab
    rcases hab with hlt | ⟨hle, hr⟩
    · exact .inl hlt
    · rcases Nat.lt_or_eq_of_le (Nat.not_lt.1 hle) with hlt | heq
      · exact .inl hlt
      · exact .inr ⟨heq, hr⟩

/-- Groups of distinct stems that hold all the fields they cover, longer stems first. -/
structure Ordered (slots : List Slot) (groups : List Group) : Prop where
  nodup : (groups.map (·.stem)).Nodup
  members : ∀ group ∈ groups, group.members = covered group.stem slots
  longest : groups.Pairwise fun a b => b.stem.length ≤ a.stem.length

theorem ordered_byLength (allowed : NameSet) (slots : List Slot) :
    Ordered slots (byLength (candidates allowed slots)) where
  nodup := ((sortStable_perm _).map _).nodup_iff.2 (nodup_stems_candidates allowed slots)
  members _ h := (mem_candidates.1 ((sortStable_perm _).mem_iff.1 h)).2.1
  longest := (pairwise_byLength (List.pairwise_of_forall fun _ _ => trivial)).imp
    LongerFirst.length_le

theorem Ordered.left {slots : List Slot} {groups more : List Group}
    (h : Ordered slots (groups ++ more)) : Ordered slots groups where
  nodup := by
    have hn := h.nodup
    rw [List.map_append] at hn
    exact (List.nodup_append.1 hn).1
  members group hg := h.members group (List.mem_append_left _ hg)
  longest := (List.pairwise_append.1 h.longest).1

section Ordered

variable {minimum : Int} {slots : List Slot} {groups : List Group}

theorem Ordered.mem_covered_of_taken (h : Ordered slots groups) {group : Group} {slot : Slot}
    (hg : group ∈ takeFrom minimum [] groups) (hs : slot ∈ group.members) :
    slot ∈ covered group.stem slots := by
  obtain ⟨earlier, candidate, later, rfl, rfl, _⟩ := mem_takeFrom.1 hg
  rw [rest, ← h.members candidate (by simp)]
  exact (List.mem_filter.1 hs).1

/-- All the fields that a taken stem covers are taken, under it or before it. -/
theorem Ordered.mem_taken_of_covered (h : Ordered slots groups) {stem : String} {slot : Slot}
    (hq : stem ∈ (takeFrom minimum [] groups).map (·.stem)) (hs : slot ∈ covered stem slots) :
    slot ∈ taken (takeFrom minimum [] groups) := by
  obtain ⟨group, hg, rfl⟩ := List.mem_map.1 hq
  obtain ⟨earlier, candidate, later, rfl, rfl, _⟩ := mem_takeFrom.1 hg
  by_cases he : slot ∈ taken (takeFrom minimum [] earlier)
  · obtain ⟨other, ho, hso⟩ := mem_taken.1 he
    exact mem_taken.2 ⟨other, (takeFrom_isPrefix minimum earlier _).subset ho, hso⟩
  · refine mem_taken.2 ⟨_, hg, ?_⟩
    have hm : slot ∈ candidate.members := by
      rw [h.members candidate (by simp)]
      exact hs
    simp [rest, hm, he]

section Earlier

variable {earlier later : List Group} {candidate : Group}

theorem Ordered.length_lt_of_taken_earlier (h : Ordered slots (earlier ++ candidate :: later))
    {group : Group} {name : String} (hg : group ∈ takeFrom minimum [] earlier)
    (hc : Covers candidate.stem name) (hcg : Covers group.stem name) :
    candidate.stem.length < group.stem.length := by
  have hmem : group.stem ∈ earlier.map (·.stem) :=
    (stems_takeFrom_sublist minimum [] earlier).subset (List.mem_map_of_mem hg)
  have hle : candidate.stem.length ≤ group.stem.length := by
    obtain ⟨found, hf, he⟩ := List.mem_map.1 hmem
    exact he ▸ (List.pairwise_append.1 h.longest).2.2 found hf candidate (by simp)
  have hne : candidate.stem ≠ group.stem := by
    intro e
    have hn := h.nodup
    rw [List.map_append, List.map_cons, List.nodup_append] at hn
    exact hn.2.2 _ hmem _ (by simp) e.symm
  exact Nat.lt_of_le_of_ne hle fun e => hne (hc.eq_of_length_eq hcg e)

theorem Ordered.mem_stems_earlier (h : Ordered slots (earlier ++ candidate :: later))
    {stem : String}
    (hst : stem ∈ (takeFrom minimum [] (earlier ++ candidate :: later)).map (·.stem))
    (hlt : candidate.stem.length < stem.length) :
    stem ∈ (takeFrom minimum [] earlier).map (·.stem) := by
  have hlong := List.pairwise_cons.1 (List.pairwise_append.1 h.longest).2.1
  rw [takeFrom_append, List.map_append, List.mem_append] at hst
  refine hst.resolve_right fun hr => ?_
  have hr := (stems_takeFrom_sublist minimum _ _).subset hr
  rw [List.map_cons, List.mem_cons] at hr
  rcases hr with rfl | hr
  · omega
  · obtain ⟨found, hf, rfl⟩ := List.mem_map.1 hr
    have hle := hlong.1 found hf
    omega

/-- A field that a stem covers is taken before its group iff a taken stem after it covers it. -/
theorem Ordered.mem_taken_earlier (h : Ordered slots (earlier ++ candidate :: later)) {slot : Slot}
    (hs : slot ∈ covered candidate.stem slots) :
    slot ∈ taken (takeFrom minimum [] earlier) ↔
      ∃ stem ∈ (takeFrom minimum [] (earlier ++ candidate :: later)).map (·.stem),
        Covers candidate.stem stem ∧ Covers stem slot.field.name := by
  obtain ⟨hs, hc⟩ := mem_covered.1 hs
  constructor
  · intro ht
    obtain ⟨group, hg, hsg⟩ := mem_taken.1 ht
    have hcg := (mem_covered.1 (h.left.mem_covered_of_taken hg hsg)).2
    have hlt := h.length_lt_of_taken_earlier hg hc hcg
    have hmem := (takeFrom_isPrefix minimum earlier (candidate :: later)).subset hg
    exact ⟨group.stem, List.mem_map_of_mem hmem, hc.of_length_lt hcg hlt, hcg⟩
  · rintro ⟨stem, hst, hcs, hsn⟩
    have hearlier := h.mem_stems_earlier hst hcs.length_lt
    exact h.left.mem_taken_of_covered hearlier (mem_covered.2 ⟨hs, hsn⟩)

/-- What is left of a group when its turn comes is what its stem keeps beside the taken ones. -/
theorem Ordered.rest_eq (h : Ordered slots (earlier ++ candidate :: later)) :
    rest minimum earlier candidate =
      ⟨candidate.stem,
        kept (stemsOf (takeFrom minimum [] (earlier ++ candidate :: later))) candidate.stem
          slots⟩ := by
  rw [rest, h.members candidate (by simp), kept, covered, List.filter_filter]
  congr 1
  refine List.filter_congr fun slot hs => ?_
  by_cases hc : Covers candidate.stem slot.field.name
  · have ht : slot ∈ taken (takeFrom minimum [] earlier) ↔ _ :=
      h.mem_taken_earlier (mem_covered.2 ⟨hs, hc⟩)
    simp [ht, Keeps, hc]
  · simp [Keeps, hc]

end Earlier

end Ordered

theorem nodup_stems_select (minimum : Int) (allowed : NameSet) (slots : List Slot) :
    ((select minimum (candidates allowed slots)).map (·.stem)).Nodup :=
  (stems_takeFrom_sublist minimum [] _).nodup (ordered_byLength allowed slots).nodup

theorem pairwise_stems_select (minimum : Int) (allowed : NameSet) (slots : List Slot) :
    ((select minimum (candidates allowed slots)).map (·.stem)).Pairwise
      fun p q => q.length ≤ p.length :=
  (List.pairwise_map.2 (ordered_byLength allowed slots).longest).sublist
    (stems_takeFrom_sublist minimum [] _)

/-- What is taken of gathered groups, told from the stems that are taken. -/
theorem mem_select {minimum : Int} {allowed : NameSet} {slots : List Slot} {group : Group} :
    group ∈ select minimum (candidates allowed slots) ↔
      group.stem ∉ allowed ∧ covered group.stem slots ≠ [] ∧
        group.members =
          kept (stemsOf (select minimum (candidates allowed slots))) group.stem slots ∧
        minimum ≤ group.members.length := by
  have ho := ordered_byLength allowed slots
  have hperm : (byLength (candidates allowed slots)).Perm (candidates allowed slots) :=
    sortStable_perm _
  constructor
  · intro h
    obtain ⟨earlier, candidate, later, heq, hg, hm⟩ := mem_takeFrom.1 h
    have hmem : candidate ∈ byLength (candidates allowed slots) := by simp [heq]
    have hc := mem_candidates.1 (hperm.mem_iff.1 hmem)
    rw [heq] at ho
    rw [ho.rest_eq, ← heq] at hg
    subst hg
    exact ⟨hc.1, hc.2.2, rfl, hm⟩
  · rintro ⟨ha, hne, hm, hl⟩
    have hc : (⟨group.stem, covered group.stem slots⟩ : Group) ∈
        byLength (candidates allowed slots) :=
      hperm.mem_iff.2 (mem_candidates.2 ⟨ha, rfl, hne⟩)
    obtain ⟨earlier, later, heq⟩ := List.append_of_mem hc
    refine mem_takeFrom.2 ⟨earlier, _, later, heq, ?_, hl⟩
    rw [heq] at ho
    rw [ho.rest_eq, ← heq]
    cases group
    exact congrArg _ hm

end Group

end FieldGrouping
