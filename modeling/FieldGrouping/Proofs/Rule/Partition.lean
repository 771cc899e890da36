import FieldGrouping.Proofs.Rule.Selection
import Mathlib.Data.List.Nodup

/-!
Taking groups from any table of distinct stems, also one that gathering never gives: its lists may
share fields, repeat them or cross. The stems take turns, longer ones first; at its turn a stem gets
the fields of its list that are in no group taken before, if these are enough.
-/

set_option autoImplicit false

namespace FieldGrouping

namespace Group

/-- A stem has its turn before another if it is longer, or as long and listed before it. -/
def TurnBefore (groups : List Group) (stem other : String) : Prop :=
  LongerFirst ((groups.map (·.stem)).idxOf stem < (groups.map (·.stem)).idxOf other) stem other

instance (groups : List Group) : DecidableRel (TurnBefore groups) :=
  fun _ _ => inferInstanceAs (Decidable (LongerFirst _ _ _))

theorem TurnBefore.asymm {groups : List Group} {stem other : String}
    (h : TurnBefore groups stem other) : ¬ TurnBefore groups other stem :=
  LongerFirst.asymm (fun hlt hlt' => Nat.lt_asymm hlt hlt') h

section Turns

variable {groups : List Group} (distinct : (groups.map (·.stem)).Nodup)

include distinct

theorem pairwise_turns : ((byLength groups).map (·.stem)).Pairwise (TurnBefore groups) := by
  have hlisted : (groups.map (·.stem)).Pairwise fun p q =>
      (groups.map (·.stem)).idxOf p < (groups.map (·.stem)).idxOf q := by
    refine List.pairwise_iff_getElem.2 fun i j hi hj hij => ?_
    rw [distinct.idxOf_getElem i hi, distinct.idxOf_getElem j hj]
    exact hij
  rw [List.pairwise_map] at hlisted ⊢
  exact pairwise_byLength hlisted

theorem pairwise_turns_select (minimum : Int) :
    (select minimum groups).Pairwise fun a b => TurnBefore groups a.stem b.stem :=
  List.pairwise_map.1 ((pairwise_turns distinct).sublist (stems_takeFrom_sublist minimum [] _))

end Turns

/-- The groups that are taken before the turn of a stem. -/
def takenBefore (minimum : Int) (groups : List Group) (stem : String) : List Group :=
  (select minimum groups).filter fun group => TurnBefore groups group.stem stem

/-- The fields of an entry that are in no group taken before its turn. -/
def unclaimed (minimum : Int) (groups : List Group) (entry : Group) : List Slot :=
  entry.members.filter fun slot => slot ∉ taken (takenBefore minimum groups entry.stem)

section Entries

variable {minimum : Int} {groups earlier later : List Group}

/-- What is taken before a turn is what is taken of the entries that have their turns before. -/
theorem takenBefore_eq (distinct : (groups.map (·.stem)).Nodup) {entry : Group}
    (h : byLength groups = earlier ++ entry :: later) :
    takenBefore minimum groups entry.stem = takeFrom minimum [] earlier := by
  have hturns := pairwise_turns distinct
  rw [h, List.map_append, List.map_cons] at hturns
  obtain ⟨_, hlater, hearlier⟩ := List.pairwise_append.1 hturns
  -- the entries before this one have all their turns before it, itself and the others none
  rw [takenBefore, select, h, takeFrom_append, List.filter_append]
  have hleft : (takeFrom minimum [] earlier).filter
      (fun group => TurnBefore groups group.stem entry.stem) = takeFrom minimum [] earlier := by
    refine List.filter_eq_self.2 fun group hg => decide_eq_true ?_
    have hmem := (stems_takeFrom_sublist minimum [] earlier).subset (List.mem_map_of_mem hg)
    exact hearlier _ hmem _ (by simp)
  have hright : ∀ claimed, (takeFrom minimum claimed (entry :: later)).filter
      (fun group => TurnBefore groups group.stem entry.stem) = [] := by
    refine fun claimed => List.filter_eq_nil_iff.2 fun group hg hturn => ?_
    have hturn : TurnBefore groups group.stem entry.stem := of_decide_eq_true hturn
    have hmem := (stems_takeFrom_sublist minimum claimed _).subset (List.mem_map_of_mem hg)
    rcases List.mem_cons.1 hmem with he | hmem
    · rw [he] at hturn
      exact hturn.asymm hturn
    · exact hturn.asymm ((List.pairwise_cons.1 hlater).1 _ hmem)
  rw [hleft, hright, List.append_nil]

theorem rest_eq_unclaimed (distinct : (groups.map (·.stem)).Nodup) {entry : Group}
    (h : byLength groups = earlier ++ entry :: later) :
    rest minimum earlier entry = ⟨entry.stem, unclaimed minimum groups entry⟩ := by
  rw [rest, unclaimed, takenBefore_eq distinct h]

/-- A whole run: the groups that are taken are what enough is left of at the turns of the entries. -/
theorem mem_select_iff_unclaimed (distinct : (groups.map (·.stem)).Nodup) {group : Group} :
    group ∈ select minimum groups ↔
      ∃ entry ∈ groups, group = ⟨entry.stem, unclaimed minimum groups entry⟩ ∧
        minimum ≤ (unclaimed minimum groups entry).length := by
  have hperm : (byLength groups).Perm groups := sortStable_perm _
  constructor
  · intro h
    obtain ⟨earlier, entry, later, heq, rfl, hm⟩ := mem_takeFrom.1 h
    have hentry : entry ∈ groups := hperm.mem_iff.1 (by simp [heq])
    rw [rest_eq_unclaimed distinct heq] at hm ⊢
    exact ⟨entry, hentry, rfl, hm⟩
  · rintro ⟨entry, hentry, rfl, hm⟩
    obtain ⟨earlier, later, heq⟩ := List.append_of_mem (hperm.mem_iff.2 hentry)
    refine mem_takeFrom.2 ⟨earlier, entry, later, heq, ?_, hm⟩
    exact (rest_eq_unclaimed distinct heq).symm

theorem mem_stems_select_iff (distinct : (groups.map (·.stem)).Nodup) {entry : Group}
    (hentry : entry ∈ groups) :
    entry.stem ∈ (select minimum groups).map (·.stem) ↔
      minimum ≤ (unclaimed minimum groups entry).length := by
  constructor
  · intro h
    obtain ⟨group, hg, hs⟩ := List.mem_map.1 h
    obtain ⟨found, hf, rfl, hm⟩ := (mem_select_iff_unclaimed distinct).1 hg
    obtain rfl : found = entry := List.inj_on_of_nodup_map distinct hf hentry hs
    exact hm
  · intro hm
    exact List.mem_map.2 ⟨_, (mem_select_iff_unclaimed distinct).2 ⟨entry, hentry, rfl, hm⟩, rfl⟩

theorem disjoint_of_turnBefore (distinct : (groups.map (·.stem)).Nodup) {group other : Group}
    (hg : group ∈ select minimum groups) (ho : other ∈ select minimum groups)
    (h : TurnBefore groups group.stem other.stem) : group.members.Disjoint other.members := by
  intro slot hs hso
  obtain ⟨entry, _, rfl, _⟩ := (mem_select_iff_unclaimed distinct).1 ho
  have hfree : slot ∉ taken (takenBefore minimum groups entry.stem) := by
    simpa using (List.mem_filter.1 hso).2
  have hbefore : group ∈ takenBefore minimum groups entry.stem :=
    List.mem_filter.2 ⟨hg, decide_eq_true h⟩
  exact hfree (mem_taken.2 ⟨group, hbefore, hs⟩)

theorem takenBefore_of_select (distinct : (groups.map (·.stem)).Nodup) {group : Group}
    (h : select minimum groups = earlier ++ group :: later) :
    takenBefore minimum groups group.stem = earlier := by
  have hturns := pairwise_turns_select distinct minimum
  rw [h] at hturns
  rw [takenBefore, h]
  exact filter_of_pairwise (fun _ _ => TurnBefore.asymm) hturns

end Entries

/-- Taking groups is a greedy partition by identity, for any table of distinct stems and any
minimum. -/
theorem select_partition (minimum : Int) (groups : List Group)
    (distinct : (groups.map (·.stem)).Nodup) :
    (select minimum groups).Pairwise (fun a b => TurnBefore groups a.stem b.stem) ∧
    (select minimum groups).Pairwise (fun a b => a.members.Disjoint b.members) ∧
    (∀ earlier group later, select minimum groups = earlier ++ group :: later →
      ∃ entry ∈ groups, entry.stem = group.stem ∧
        group.members = entry.members.filter fun slot => slot ∉ taken earlier) ∧
    ∀ entry ∈ groups, entry.stem ∉ (select minimum groups).map (·.stem) ↔
      ((unclaimed minimum groups entry).length : Int) < minimum := by
  have hturns := pairwise_turns_select distinct minimum
  refine ⟨hturns, ?_, ?_, ?_⟩
  · exact hturns.imp_of_mem fun ha hb h => disjoint_of_turnBefore distinct ha hb h
  · intro earlier group later h
    have hg : group ∈ select minimum groups := by simp [h]
    obtain ⟨entry, hentry, rfl, _⟩ := (mem_select_iff_unclaimed distinct).1 hg
    refine ⟨entry, hentry, rfl, ?_⟩
    rw [← takenBefore_of_select distinct h]
    rfl
  · intro entry hentry
    rw [mem_stems_select_iff distinct hentry, Int.not_le]

/-- A table whose lists cross, with one field twice in a list and two equal fields. -/
def crossing : List Group :=
  [⟨"a", [⟨0, ⟨"x", .handle none⟩⟩, ⟨1, ⟨"x", .handle none⟩⟩]⟩,
    ⟨"bb", [⟨1, ⟨"x", .handle none⟩⟩, ⟨2, ⟨"y", .handle none⟩⟩, ⟨1, ⟨"x", .handle none⟩⟩]⟩,
    ⟨"cc", [⟨2, ⟨"y", .handle none⟩⟩, ⟨0, ⟨"x", .handle none⟩⟩]⟩]

theorem select_partition_crossing :
    (crossing.map (·.stem)).Nodup ∧
      (select 0 crossing).map (fun group => (group.stem, group.members.map (·.position))) =
        [("bb", [1, 2, 1]), ("cc", [0]), ("a", [])] ∧
      (select 1 crossing).Pairwise (fun a b => a.members.Disjoint b.members) ∧
      "a" ∉ (select 1 crossing).map (·.stem) := by
  have distinct : (crossing.map (·.stem)).Nodup := by decide
  obtain ⟨_, hdisjoint, _, hleft⟩ := select_partition 1 crossing distinct
  refine ⟨distinct, by decide +kernel, hdisjoint, ?_⟩
  exact (hleft ⟨"a", _⟩ List.mem_cons_self).2 (by decide +kernel)

end Group

end FieldGrouping
