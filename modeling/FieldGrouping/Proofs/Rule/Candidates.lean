import FieldGrouping.Proofs.Rule.Stem
import FieldGrouping.Rule.Group
import Mathlib.Data.List.Induction

/-!
What gathering gives: every stem that is not allowed and covers some field has one group, and that
group holds all the fields it covers in the order of declaration. The groups come in the order of
the first fields that their stems cover, and where that is one field in the order of their lengths.
-/

set_option autoImplicit false

namespace FieldGrouping

/-- The fields that a stem covers. -/
def covered (stem : String) (slots : List Slot) : List Slot :=
  slots.filter fun slot => Covers stem slot.field.name

theorem mem_covered {stem : String} {slot : Slot} {slots : List Slot} :
    slot ∈ covered stem slots ↔ slot ∈ slots ∧ Covers stem slot.field.name := by
  simp [covered]

theorem covered_ne_nil_iff {stem : String} {slots : List Slot} :
    covered stem slots ≠ [] ↔ ∃ slot ∈ slots, Covers stem slot.field.name := by
  simp [covered]

/-- Where the first field stands that a stem covers, counted from zero; the number of fields if the
stem covers none. -/
def firstCovered (stem : String) (slots : List Slot) : Nat :=
  slots.findIdx fun slot => Covers stem slot.field.name

/-- A stem is found before another if the first field that it covers stands before the first that
the other covers, or is the same and the stem is shorter. -/
def FoundBefore (slots : List Slot) (stem other : String) : Prop :=
  firstCovered stem slots < firstCovered other slots ∨
    firstCovered stem slots = firstCovered other slots ∧ stem.length < other.length

namespace Group

/-- What the first group of a stem holds. -/
def under (stem : String) : List Group → List Slot
  | [] => []
  | group :: groups => if group.stem = stem then group.members else under stem groups

theorem under_of_mem {groups : List Group} {group : Group} (nodup : (groups.map (·.stem)).Nodup)
    (h : group ∈ groups) : under group.stem groups = group.members := by
  induction groups with
  | nil => simp at h
  | cons first groups ih =>
    simp only [List.map_cons, List.nodup_cons] at nodup
    rcases List.mem_cons.1 h with rfl | h
    · simp [under]
    · have hne : first.stem ≠ group.stem := by
        intro e
        exact nodup.1 (e ▸ List.mem_map_of_mem h)
      simp only [under, hne, if_false]
      exact ih nodup.2 h

section Gather

variable (stem other : String) (slot : Slot) (groups : List Group)

theorem under_gather :
    under other (gather stem slot groups) =
      under other groups ++ if stem = other then [slot] else [] := by
  induction groups with
  | nil => by_cases h : stem = other <;> simp [gather, under, h]
  | cons group groups ih =>
    by_cases hg : group.stem = stem
    · subst hg
      by_cases h : group.stem = other <;> simp [gather, under, h]
    · by_cases h : group.stem = other
      · subst h
        simp [gather, under, hg, Ne.symm hg]
      · simp [gather, under, hg, h, ih]

theorem stems_gather :
    (gather stem slot groups).map (·.stem) =
      if stem ∈ groups.map (·.stem) then groups.map (·.stem)
      else groups.map (·.stem) ++ [stem] := by
  induction groups with
  | nil => simp [gather]
  | cons group groups ih =>
    by_cases hg : group.stem = stem
    · simp [gather, hg]
    · simp only [gather, hg, if_false, List.map_cons, ih, List.mem_cons, Ne.symm hg, false_or]
      split <;> simp

end Gather

/-- The stems of a name that are not allowed. -/
def ownStems (allowed : NameSet) (name : String) : List String :=
  (stems name).filter fun stem => !allowed.contains stem

theorem mem_ownStems {allowed : NameSet} {stem name : String} :
    stem ∈ ownStems allowed name ↔ stem ∉ allowed ∧ Covers stem name := by
  have hc : allowed.contains stem = false ↔ stem ∉ allowed := by
    rw [← NameSet.contains_iff, Bool.not_eq_true]
  simp [ownStems, mem_stems, hc, and_comm]

theorem nodup_ownStems (allowed : NameSet) (name : String) : (ownStems allowed name).Nodup :=
  (nodup_stems name).filter _

theorem gatherSlot_eq (allowed : NameSet) (groups : List Group) (slot : Slot) :
    gatherSlot allowed groups slot =
      (ownStems allowed slot.field.name).foldl (fun groups stem => gather stem slot groups)
        groups := by
  simp only [gatherSlot, ownStems, List.foldl_filter]
  congr
  funext groups stem
  cases allowed.contains stem <;> simp

theorem under_foldl_gather {ps : List String} (nodup : ps.Nodup) (stem : String) (slot : Slot)
    (groups : List Group) :
    under stem (ps.foldl (fun groups p => gather p slot groups) groups) =
      under stem groups ++ if stem ∈ ps then [slot] else [] := by
  induction ps generalizing groups with
  | nil => simp
  | cons p ps ih =>
    obtain ⟨hp, hps⟩ := List.nodup_cons.1 nodup
    rw [List.foldl_cons, ih hps, under_gather]
    by_cases h : p = stem
    · subst h
      simp [hp]
    · simp [h, Ne.symm h]

theorem stems_foldl_gather {ps : List String} (nodup : ps.Nodup) (slot : Slot)
    (groups : List Group) :
    (ps.foldl (fun groups p => gather p slot groups) groups).map (·.stem) =
      groups.map (·.stem) ++ ps.filter (· ∉ groups.map (·.stem)) := by
  induction ps generalizing groups with
  | nil => simp
  | cons p ps ih =>
    obtain ⟨hp, hps⟩ := List.nodup_cons.1 nodup
    rw [List.foldl_cons, ih hps, stems_gather]
    by_cases h : p ∈ groups.map (·.stem)
    · simp only [h, if_true, not_true_eq_false, decide_false, Bool.false_eq_true, not_false_eq_true,
        List.filter_cons_of_neg]
    · have hne : ps.filter (· ∉ groups.map (·.stem) ++ [p]) =
          ps.filter (· ∉ groups.map (·.stem)) := by
        refine List.filter_congr fun q hq => ?_
        have hqp : q ≠ p := fun e => hp (e ▸ hq)
        simp [hqp]
      simp only [h, if_false, hne, not_false_eq_true, decide_true, List.filter_cons_of_pos,
        List.append_assoc, List.singleton_append]

/-- One step: a field adds those of its own stems that are new, at the end and shortest first. -/
theorem stems_gatherSlot (allowed : NameSet) (groups : List Group) (slot : Slot) :
    (gatherSlot allowed groups slot).map (·.stem) =
      groups.map (·.stem) ++
        (ownStems allowed slot.field.name).filter (· ∉ groups.map (·.stem)) := by
  rw [gatherSlot_eq, stems_foldl_gather (nodup_ownStems _ _)]

theorem candidates_concat (allowed : NameSet) (slots : List Slot) (last : Slot) :
    candidates allowed (slots ++ [last]) = gatherSlot allowed (candidates allowed slots) last := by
  simp [candidates]

section Candidates

variable (allowed : NameSet)

/-- Going through more fields adds those that the stem covers to what it holds. -/
theorem under_foldl_gatherSlot (stem : String) (slots : List Slot) (groups : List Group) :
    under stem (slots.foldl (gatherSlot allowed) groups) =
      under stem groups ++ slots.filter fun slot => stem ∈ ownStems allowed slot.field.name := by
  induction slots generalizing groups with
  | nil => simp
  | cons slot slots ih =>
    rw [List.foldl_cons, ih, gatherSlot_eq, under_foldl_gather (nodup_ownStems _ _)]
    by_cases h : stem ∈ ownStems allowed slot.field.name <;> simp [h]

theorem nodup_stems_candidates (slots : List Slot) :
    ((candidates allowed slots).map (·.stem)).Nodup := by
  induction slots using List.reverseRecOn with
  | nil => simp [candidates]
  | append_singleton slots last ih =>
    rw [candidates_concat, stems_gatherSlot, List.nodup_append]
    refine ⟨ih, (nodup_ownStems allowed _).filter _, ?_⟩
    rintro p hp q hq rfl
    have hq := (List.mem_filter.1 hq).2
    simp [hp] at hq

variable {allowed}

theorem mem_stems_candidates {stem : String} {slots : List Slot} :
    stem ∈ (candidates allowed slots).map (·.stem) ↔
      stem ∉ allowed ∧ covered stem slots ≠ [] := by
  rw [covered_ne_nil_iff]
  induction slots using List.reverseRecOn with
  | nil => simp [candidates]
  | append_singleton slots last ih =>
    have hlast : (∃ slot ∈ slots ++ [last], Covers stem slot.field.name) ↔
        (∃ slot ∈ slots, Covers stem slot.field.name) ∨ Covers stem last.field.name := by
      simp [or_and_right, exists_or]
    rw [candidates_concat, stems_gatherSlot, List.mem_append, List.mem_filter, mem_ownStems, hlast]
    simp only [decide_eq_true_eq, ih]
    by_cases ha : stem ∈ allowed
    · simp [ha]
    · by_cases hs : ∃ slot ∈ slots, Covers stem slot.field.name <;> simp [ha, hs]

/-- The groups that gathering gives: one for each stem that is not allowed and covers a field. -/
theorem mem_candidates {group : Group} {slots : List Slot} :
    group ∈ candidates allowed slots ↔
      group.stem ∉ allowed ∧ group.members = covered group.stem slots ∧
        covered group.stem slots ≠ [] := by
  have hu : group.stem ∉ allowed →
      under group.stem (candidates allowed slots) = covered group.stem slots := by
    intro h
    rw [candidates, under_foldl_gatherSlot]
    simp [under, covered, mem_ownStems, h]
  constructor
  · intro h
    obtain ⟨ha, hc⟩ := mem_stems_candidates.1 (List.mem_map_of_mem h)
    exact ⟨ha, (under_of_mem (nodup_stems_candidates allowed slots) h).symm.trans (hu ha), hc⟩
  · rintro ⟨ha, hm, hc⟩
    obtain ⟨found, hf, hs⟩ := List.mem_map.1 (mem_stems_candidates.2 ⟨ha, hc⟩)
    have hfm := under_of_mem (nodup_stems_candidates allowed slots) hf
    rw [hs, hu ha, ← hm] at hfm
    have he : found = group := by
      cases found
      cases group
      simp_all
    exact he ▸ hf

end Candidates

section Order

variable {stem : String} {slots : List Slot}

theorem firstCovered_append (more : List Slot)
    (h : ∃ slot ∈ slots, Covers stem slot.field.name) :
    firstCovered stem (slots ++ more) = firstCovered stem slots ∧
      firstCovered stem slots < slots.length := by
  have hlt : firstCovered stem slots < slots.length := by
    obtain ⟨slot, hs, hc⟩ := h
    exact List.findIdx_lt_length_of_exists ⟨slot, hs, by simpa using hc⟩
  refine ⟨?_, hlt⟩
  rw [firstCovered, List.findIdx_append]
  exact if_pos hlt

theorem firstCovered_concat {last : Slot} (h : ¬ ∃ slot ∈ slots, Covers stem slot.field.name)
    (hc : Covers stem last.field.name) : firstCovered stem (slots ++ [last]) = slots.length := by
  have hnone : firstCovered stem slots = slots.length := by
    refine List.findIdx_eq_length.2 fun slot hs => ?_
    simpa using fun hc => h ⟨slot, hs, hc⟩
  have hlt : ¬ slots.findIdx (fun slot => Covers stem slot.field.name) < slots.length := by
    rw [firstCovered] at hnone
    omega
  rw [firstCovered, List.findIdx_append, if_neg hlt]
  simp [hc]

/-- The stems come in the order in which they are found: a stem that a field adds covers none of the
fields before it, while those that are there already do. -/
theorem pairwise_stems_candidates (allowed : NameSet) (slots : List Slot) :
    ((candidates allowed slots).map (·.stem)).Pairwise (FoundBefore slots) := by
  induction slots using List.reverseRecOn with
  | nil => simp [candidates]
  | append_singleton slots last ih =>
    have hold {p : String} (hp : p ∈ (candidates allowed slots).map (·.stem)) :
        firstCovered p (slots ++ [last]) = firstCovered p slots ∧
          firstCovered p slots < slots.length :=
      firstCovered_append _ (covered_ne_nil_iff.1 (mem_stems_candidates.1 hp).2)
    have hnew {p : String} (hp : p ∈ (ownStems allowed last.field.name).filter
        (· ∉ (candidates allowed slots).map (·.stem))) :
        firstCovered p (slots ++ [last]) = slots.length := by
      simp only [List.mem_filter, decide_eq_true_eq, mem_ownStems, mem_stems_candidates,
        covered_ne_nil_iff] at hp
      exact firstCovered_concat (fun h => hp.2 ⟨hp.1.1, h⟩) hp.1.2
    rw [candidates_concat, stems_gatherSlot]
    refine List.pairwise_append.2 ⟨?_, ?_, fun p hp q hq => .inl ?_⟩
    · refine ih.imp_of_mem fun hp hq h => ?_
      simpa only [FoundBefore, hold hp, hold hq] using h
    · have hlength : (ownStems allowed last.field.name).Pairwise fun p q => p.length < q.length :=
        (pairwise_stems last.field.name).filter _
      refine (hlength.filter _).imp_of_mem fun hp hq h => .inr ⟨?_, h⟩
      rw [hnew hp, hnew hq]
    · rw [(hold hp).1, hnew hq]
      exact (hold hp).2

end Order

/-- Gathering is filtering: there is one group for each stem that is not allowed and covers a field,
the group holds the fields that the stem covers, and the groups come in the order in which their
stems are found. -/
theorem candidates_exact (allowed : NameSet) (slots : List Slot) :
    ((candidates allowed slots).map (·.stem)).Nodup ∧
    (∀ stem, stem ∈ (candidates allowed slots).map (·.stem) ↔
      stem ∉ allowed ∧ ∃ slot ∈ slots, Covers stem slot.field.name) ∧
    (∀ group ∈ candidates allowed slots,
      group.members = slots.filter fun slot => Covers group.stem slot.field.name) ∧
    ((candidates allowed slots).map (·.stem)).Pairwise (FoundBefore slots) := by
  refine ⟨nodup_stems_candidates allowed slots, fun stem => ?_, fun group hg => ?_,
    pairwise_stems_candidates allowed slots⟩
  · rw [mem_stems_candidates, covered_ne_nil_iff]
  · exact (mem_candidates.1 hg).2.1

example :
    (candidates (NameSet.ofList ["a_"])
      (slots [⟨"a__b_", .handle none⟩, ⟨"_x", .handle none⟩])).map (·.stem) =
      ["a", "a__b", ""] := by
  decide +kernel

end Group

end FieldGrouping
