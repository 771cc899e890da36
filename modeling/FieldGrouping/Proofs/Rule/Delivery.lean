import FieldGrouping.Proofs.Rule.Rearrangement

/-!
How a check delivers its diagnostics: in which order, where each is located, and what was delivered
when an empty group ends the check. Longer stems come first, and of equally long ones the one whose
first field stands earlier, also if that field went to a longer stem.
-/

set_option autoImplicit false

namespace FieldGrouping

/-- A stem is reported before another if it is longer, or as long and the first field that it covers
stands earlier. -/
def ReportedBefore (slots : List Slot) (stem other : String) : Prop :=
  LongerFirst (firstCovered stem slots < firstCovered other slots) stem other

instance (slots : List Slot) : DecidableRel (ReportedBefore slots) :=
  fun _ _ => inferInstanceAs (Decidable (LongerFirst _ _ _))

theorem ReportedBefore.asymm {slots : List Slot} {stem other : String}
    (h : ReportedBefore slots stem other) : ¬ ReportedBefore slots other stem :=
  LongerFirst.asymm (fun hlt hlt' => Nat.lt_asymm hlt hlt') h

namespace Group

theorem pairwise_reportedBefore_byLength (allowed : NameSet) (slots : List Slot) :
    ((byLength (candidates allowed slots)).map (·.stem)).Pairwise (ReportedBefore slots) := by
  have hfound := List.pairwise_map.1 (pairwise_stems_candidates allowed slots)
  refine List.pairwise_map.2 ((pairwise_byLength hfound).imp ?_)
  rintro a b (hlt | ⟨heq, hfirst | ⟨_, hlt⟩⟩)
  · exact .inl hlt
  · exact .inr ⟨heq, hfirst⟩
  · -- stems that are first found at one field are not equally long
    omega

theorem pairwise_reportedBefore_select (minimum : Int) (allowed : NameSet) (slots : List Slot) :
    ((select minimum (candidates allowed slots)).map (·.stem)).Pairwise (ReportedBefore slots) :=
  (pairwise_reportedBefore_byLength allowed slots).sublist (stems_takeFrom_sublist minimum [] _)

end Group

section Positions

theorem pairwise_position_slots (fields : List Field) :
    (slots fields).Pairwise fun a b => a.position < b.position := by
  have hpositions : (slots fields).map (·.position) = List.range' 0 fields.length := by
    rw [slots, List.map_map, ← List.zipIdx_map_snd]
    rfl
  rw [← List.pairwise_map, hpositions]
  exact List.pairwise_lt_range'

theorem position_le_of_getLast? {members : List Slot} {last slot : Slot}
    (ordered : members.Pairwise fun a b => a.position < b.position)
    (hlast : members.getLast? = some last) (hslot : slot ∈ members) :
    slot.position ≤ last.position := by
  obtain ⟨before, rfl⟩ := List.getLast?_eq_some_iff.1 hlast
  rcases List.mem_append.1 hslot with hslot | hslot
  · exact Nat.le_of_lt ((List.pairwise_append.1 ordered).2.2 slot hslot last (by simp))
  · rw [List.mem_singleton.1 hslot]

end Positions

theorem pairwise_reportedBefore_reportedGroups (fields : List Field) (options : RuleOptions) :
    ((reportedGroups fields options).map (·.stem)).Pairwise (ReportedBefore (slots fields)) := by
  unfold reportedGroups
  split
  · exact Group.pairwise_reportedBefore_select _ _ _
  · simp

/-- The diagnostics come one for each group, longer stems first and then by the first field that a
stem covers; each names the fields of its group in the order of declaration and is located at the
one declared last. -/
theorem delivered_in_order (fields : List Field) (options : RuleOptions)
    (positive : 1 ≤ options.minimum) :
    (checkFields fields options).fault = none ∧
    (checkFields fields options).delivered.map (·.stem) =
      (reportedGroups fields options).map (·.stem) ∧
    (checkFields fields options).delivered.Pairwise
      (fun d e => ReportedBefore (slots fields) d.stem e.stem) ∧
    ∀ d ∈ (checkFields fields options).delivered,
      ∃ group ∈ reportedGroups fields options,
        group.stem = d.stem ∧ d.fields = group.members.map (·.field.name) ∧
        (∀ slot ∈ group.members, fields[slot.position]? = some slot.field) ∧
        group.members.Pairwise (fun a b => a.position < b.position) ∧
        ∃ last ∈ group.members, d.location = last.field.location ∧
          ∀ slot ∈ group.members, slot.position ≤ last.position := by
  have hstems : (diagnosticsOf (reportedGroups fields options)).map (·.stem) = _ :=
    stems_diagnostics positive
  rw [checkFields, deliver_eq (members_ne_nil_of_reported positive)]
  refine ⟨rfl, hstems, ?_, ?_⟩
  · have hordered := pairwise_reportedBefore_reportedGroups fields options
    rw [← hstems] at hordered
    exact List.pairwise_map.1 hordered
  · intro d hd
    obtain ⟨group, hg, hgd⟩ := mem_diagnosticsOf.1 hd
    obtain ⟨last, hlast, rfl⟩ := Group.diagnostic_eq_ok.1 hgd
    have hsub := members_sublist_of_reported hg
    have hordered := (pairwise_position_slots fields).sublist hsub
    refine ⟨group, hg, rfl, rfl, fun slot hs => mem_slots.1 (hsub.subset hs), hordered, last,
      List.mem_of_getLast? hlast, rfl, fun slot hs => ?_⟩
    exact position_le_of_getLast? hordered hlast hs

theorem delivered_in_order_shared_first :
    ((checkFields (unplaced ["ab_cde_x", "xy_u", "ab_cde_y", "xy_v", "ab_z", "ab_w"])
      ⟨2, NameSet.ofList [], true⟩).delivered.map (·.stem)) = ["ab_cde", "ab", "xy"] ∧
      (checkFields (unplaced ["ab_cde_x", "xy_u", "ab_cde_y", "xy_v", "ab_z", "ab_w"])
        ⟨2, NameSet.ofList [], true⟩).delivered.Pairwise
          (fun d e => ReportedBefore
            (slots (unplaced ["ab_cde_x", "xy_u", "ab_cde_y", "xy_v", "ab_z", "ab_w"]))
            d.stem e.stem) :=
  ⟨by decide +kernel, (delivered_in_order _ ⟨2, NameSet.ofList [], true⟩ (by decide)).2.2.1⟩

def notAllowed (allowed : NameSet) : Set String :=
  {stem | stem ∉ allowed}

@[simp]
theorem mem_notAllowed {allowed : NameSet} {stem : String} :
    stem ∈ notAllowed allowed ↔ stem ∉ allowed :=
  Iff.rfl

instance (allowed : NameSet) : DecidablePred (· ∈ notAllowed allowed) :=
  fun stem => inferInstanceAs (Decidable (¬ stem ∈ allowed.toList))

/-- A stem that is not allowed and covers fields, each of which a longer such stem covers too. -/
def Exhausted (allowed : NameSet) (slots : List Slot) (stem : String) : Prop :=
  stem ∉ allowed ∧ (∃ slot ∈ slots, Covers stem slot.field.name) ∧
    ∀ slot ∈ slots, Covers stem slot.field.name →
      ∃ longer, longer ∉ allowed ∧ stem.length < longer.length ∧ Covers longer slot.field.name

theorem exhausted_iff {allowed : NameSet} {slots : List Slot} {stem : String} :
    Exhausted allowed slots stem ↔
      stem ∉ allowed ∧ covered stem slots ≠ [] ∧ kept (notAllowed allowed) stem slots = [] := by
  rw [Exhausted, covered_ne_nil_iff, kept, List.filter_eq_nil_iff]
  refine and_congr_right fun _ => and_congr_right fun _ => forall₂_congr fun slot _ => ?_
  rw [decide_eq_true_eq, keeps_iff_longest, not_and]
  refine imp_congr_right fun _ => ?_
  simp only [mem_notAllowed, not_forall, Nat.not_le, exists_prop]
  exact exists_congr fun longer => and_congr_right fun _ => and_comm

namespace Group

section Nonpositive

variable {minimum : Int} (nonpositive : minimum ≤ 0)

include nonpositive

/-- With such a minimum every entry is taken, if only with an empty list. -/
theorem stems_takeFrom_of_nonpositive (claimed : List Slot) (groups : List Group) :
    (takeFrom minimum claimed groups).map (·.stem) = groups.map (·.stem) := by
  induction groups generalizing claimed with
  | nil => rfl
  | cons group groups ih =>
    simp only [takeFrom]
    split
    · omega
    · simp [ih]

theorem mem_stems_select_of_nonpositive {allowed : NameSet} {slots : List Slot} {stem : String} :
    stem ∈ (select minimum (candidates allowed slots)).map (·.stem) ↔
      stem ∉ allowed ∧ covered stem slots ≠ [] := by
  have hperm : (byLength (candidates allowed slots)).Perm (candidates allowed slots) :=
    sortStable_perm _
  rw [select, stems_takeFrom_of_nonpositive nonpositive, (hperm.map _).mem_iff,
    mem_stems_candidates]

theorem members_of_nonpositive {allowed : NameSet} {slots : List Slot} {group : Group}
    (h : group ∈ select minimum (candidates allowed slots)) :
    group.members = kept (notAllowed allowed) group.stem slots := by
  rw [(mem_select.1 h).2.2.1]
  refine List.filter_congr fun slot hs => ?_
  have hmem : ∀ longer ∈ stems slot.field.name,
      longer ∈ stemsOf (select minimum (candidates allowed slots)) ↔
        longer ∈ notAllowed allowed := by
    intro longer hl
    have hc : covered longer slots ≠ [] := covered_ne_nil_iff.2 ⟨slot, hs, mem_stems.1 hl⟩
    rw [mem_stemSet, mem_stems_select_of_nonpositive nonpositive]
    simp [hc]
  have hkeeps : Keeps (stemsOf (select minimum (candidates allowed slots))) group.stem
      slot.field.name ↔ Keeps (notAllowed allowed) group.stem slot.field.name := by
    rw [keeps_iff_stems, keeps_iff_stems]
    refine and_congr_right fun _ => forall₂_congr fun longer hl => ?_
    exact imp_congr_right fun _ => not_congr (hmem longer hl)
  simp only [hkeeps]

theorem members_eq_nil_iff_exhausted {allowed : NameSet} {slots : List Slot} {group : Group}
    (h : group ∈ select minimum (candidates allowed slots)) :
    group.members = [] ↔ Exhausted allowed slots group.stem := by
  obtain ⟨ha, hc, _⟩ := mem_select.1 h
  rw [exhausted_iff, members_of_nonpositive nonpositive h]
  simp [ha, hc]

theorem exists_empty_of_exhausted {allowed : NameSet} {slots : List Slot} {stem : String}
    (h : Exhausted allowed slots stem) :
    ∃ group ∈ select minimum (candidates allowed slots), group.stem = stem ∧ group.members = [] := by
  obtain ⟨ha, hc, _⟩ := exhausted_iff.1 h
  have hstem := (mem_stems_select_of_nonpositive nonpositive).2 ⟨ha, hc⟩
  obtain ⟨group, hg, rfl⟩ := List.mem_map.1 hstem
  exact ⟨group, hg, rfl, (members_eq_nil_iff_exhausted nonpositive hg).2 h⟩

end Nonpositive

end Group

section Interruption

/-- What a check has delivered when it comes to the first empty group. -/
theorem deliver_interrupted {earlier later : List Group} {group : Group}
    (h : ∀ other ∈ earlier, other.members ≠ []) (hg : group.members = []) :
    deliver (earlier ++ group :: later) = ⟨diagnosticsOf earlier, some .emptyGroup⟩ := by
  have hlater : deliver (group :: later) = ⟨[], some .emptyGroup⟩ := by
    simp [deliver, Group.diagnostic, hg]
  rw [deliver_append h, hlater, List.append_nil]

theorem exists_first_empty {groups : List Group} (h : ∃ group ∈ groups, group.members = []) :
    ∃ earlier group later, groups = earlier ++ group :: later ∧ group.members = [] ∧
      ∀ other ∈ earlier, other.members ≠ [] := by
  have hsome : (groups.find? (·.members.isEmpty)).isSome := by
    simpa [List.find?_isSome] using h
  obtain ⟨group, hfind⟩ := Option.isSome_iff_exists.1 hsome
  obtain ⟨hg, earlier, later, heq, hearlier⟩ := List.find?_eq_some_iff_append.1 hfind
  refine ⟨earlier, group, later, heq, by simpa using hg, fun other ho => ?_⟩
  simpa using hearlier other ho

theorem fault_deliver_iff {groups : List Group} :
    (deliver groups).fault = some .emptyGroup ↔ ∃ group ∈ groups, group.members = [] := by
  constructor
  · intro h
    by_contra hn
    rw [deliver_eq fun group hg hm => hn ⟨group, hg, hm⟩] at h
    simp at h
  · intro h
    obtain ⟨earlier, group, later, rfl, hg, hearlier⟩ := exists_first_empty h
    rw [deliver_interrupted hearlier hg]

variable {minimum : Int} {allowed : NameSet}

theorem fault_checkFields_iff {fields : List Field} :
    (checkFields fields ⟨minimum, allowed, true⟩).fault = some .emptyGroup ↔
      minimum ≤ 0 ∧ ∃ stem, Exhausted allowed (slots fields) stem := by
  rw [checkFields, fault_deliver_iff]
  constructor
  · rintro ⟨group, hg, hm⟩
    have henough : minimum ≤ group.members.length := (enough_of_reported hg).2
    have nonpositive : minimum ≤ 0 := by simpa [hm] using henough
    rw [reportedGroups_eq rfl] at hg
    exact ⟨nonpositive, group.stem, (Group.members_eq_nil_iff_exhausted nonpositive hg).1 hm⟩
  · rintro ⟨nonpositive, stem, hex⟩
    obtain ⟨group, hg, _, hm⟩ := Group.exists_empty_of_exhausted nonpositive hex
    rw [reportedGroups_eq rfl]
    exact ⟨group, hg, hm⟩

section First

variable {slots : List Slot} {earlier later : List Group} {group : Group} {stem : String}
  (h : Group.select minimum (Group.candidates allowed slots) = earlier ++ group :: later)

include h

theorem mem_stems_earlier_iff :
    stem ∈ earlier.map (·.stem) ↔
      stem ∈ (Group.select minimum (Group.candidates allowed slots)).map (·.stem) ∧
        ReportedBefore slots stem group.stem := by
  have hordered := Group.pairwise_reportedBefore_select minimum allowed slots
  rw [h, List.map_append, List.map_cons] at hordered ⊢
  have hmem := congrArg (stem ∈ ·) (filter_of_pairwise (fun _ _ => ReportedBefore.asymm) hordered)
  simp only [List.mem_filter, decide_eq_true_eq] at hmem
  exact (Iff.of_eq hmem).symm

/-- The first empty group is that of the first exhausted stem. -/
theorem Exhausted.eq_or_reportedBefore (nonpositive : minimum ≤ 0)
    (hearlier : ∀ other ∈ earlier, other.members ≠ []) (hex : Exhausted allowed slots stem) :
    stem = group.stem ∨ ReportedBefore slots group.stem stem := by
  obtain ⟨found, hf, rfl, hempty⟩ := Group.exists_empty_of_exhausted nonpositive hex
  have hordered := List.pairwise_map.1 (Group.pairwise_reportedBefore_select minimum allowed slots)
  rw [h] at hf hordered
  rcases List.mem_append.1 hf with hf | hf
  · exact absurd hempty (hearlier found hf)
  · rcases List.mem_cons.1 hf with rfl | hf
    · exact .inl rfl
    · exact .inr ((List.pairwise_cons.1 (List.pairwise_append.1 hordered).2.1).1 found hf)

end First

end Interruption

/-- A check ends early iff the minimum is below one and some stem is exhausted by longer ones. It
has then delivered the diagnostics of the stems before the first such stem, each on the fields of
which its stem is the longest that is not allowed. -/
theorem checkFields_interrupted (fields : List Field) (minimum : Int) (allowed : NameSet) :
    ((checkFields fields ⟨minimum, allowed, true⟩).fault = some .emptyGroup ↔
      minimum ≤ 0 ∧ ∃ stem, Exhausted allowed (slots fields) stem) ∧
    ((checkFields fields ⟨minimum, allowed, true⟩).fault = some .emptyGroup →
      ∃ first, Exhausted allowed (slots fields) first ∧
        (∀ other, Exhausted allowed (slots fields) other →
          other = first ∨ ReportedBefore (slots fields) first other) ∧
        (checkFields fields ⟨minimum, allowed, true⟩).delivered.Pairwise
          (fun d e => ReportedBefore (slots fields) d.stem e.stem) ∧
        (∀ stem, stem ∈ (checkFields fields ⟨minimum, allowed, true⟩).delivered.map (·.stem) ↔
          stem ∉ allowed ∧ (∃ slot ∈ slots fields, Covers stem slot.field.name) ∧
            ReportedBefore (slots fields) stem first) ∧
        ∀ d ∈ (checkFields fields ⟨minimum, allowed, true⟩).delivered,
          ∃ members, Group.diagnostic ⟨d.stem, members⟩ = .ok d ∧
            members.Sublist (slots fields) ∧
            ∀ slot ∈ slots fields, slot ∈ members ↔
              Covers d.stem slot.field.name ∧ ∀ other, other ∉ allowed →
                Covers other slot.field.name → other.length ≤ d.stem.length) := by
  refine ⟨fault_checkFields_iff, fun hfault => ?_⟩
  have nonpositive := (fault_checkFields_iff.1 hfault).1
  -- from here on the groups are cut at the first empty one
  rw [checkFields, fault_deliver_iff] at hfault
  obtain ⟨earlier, group, later, heq, hempty, hearlier⟩ := exists_first_empty hfault
  have hordered := pairwise_reportedBefore_reportedGroups fields ⟨minimum, allowed, true⟩
  rw [checkFields, heq, deliver_interrupted hearlier hempty]
  rw [heq, List.map_append, ← stems_diagnosticsOf hearlier] at hordered
  rw [reportedGroups_eq rfl] at heq
  have htaken : ∀ other ∈ earlier ++ group :: later,
      other ∈ Group.select minimum (Group.candidates allowed (slots fields)) :=
    fun other ho => by simpa only [heq] using ho
  have hexhausted := (Group.members_eq_nil_iff_exhausted nonpositive (htaken group (by simp))).1
    hempty
  refine ⟨group.stem, hexhausted, fun other hother => ?_,
    List.pairwise_map.1 (List.pairwise_append.1 hordered).1, fun stem => ?_, fun d hd => ?_⟩
  · exact hother.eq_or_reportedBefore heq nonpositive hearlier
  · rw [stems_diagnosticsOf hearlier, mem_stems_earlier_iff heq,
      Group.mem_stems_select_of_nonpositive nonpositive, covered_ne_nil_iff, and_assoc]
  · obtain ⟨other, ho, hod⟩ := mem_diagnosticsOf.1 hd
    have hm := Group.members_of_nonpositive nonpositive (htaken other (by simp [ho]))
    obtain ⟨_, _, rfl⟩ := Group.diagnostic_eq_ok.1 hod
    refine ⟨other.members, hod, ?_, fun slot hs => ?_⟩
    · rw [hm]
      exact List.filter_sublist
    · rw [hm, mem_kept, keeps_iff_longest]
      simp [hs]

theorem checkFields_interrupted_midway :
    (checkFields (unplaced ["c_y", "a_b_x", "e_f_v", "a_b_z", "d_w"])
      ⟨-1, NameSet.ofList ["e"], true⟩).fault = some .emptyGroup ∧
    ∃ first, Exhausted (NameSet.ofList ["e"])
        (slots (unplaced ["c_y", "a_b_x", "e_f_v", "a_b_z", "d_w"])) first ∧
      ∀ stem, stem ∈ ["a_b", "e_f", "c"] ↔ stem ∉ NameSet.ofList ["e"] ∧
        (∃ slot ∈ slots (unplaced ["c_y", "a_b_x", "e_f_v", "a_b_z", "d_w"]),
          Covers stem slot.field.name) ∧
        ReportedBefore (slots (unplaced ["c_y", "a_b_x", "e_f_v", "a_b_z", "d_w"])) stem first := by
  have hfault : (checkFields (unplaced ["c_y", "a_b_x", "e_f_v", "a_b_z", "d_w"])
      ⟨-1, NameSet.ofList ["e"], true⟩).fault = some .emptyGroup := by
    decide +kernel
  obtain ⟨first, hfirst, _, _, hmem, _⟩ := (checkFields_interrupted
    (unplaced ["c_y", "a_b_x", "e_f_v", "a_b_z", "d_w"]) (-1) (NameSet.ofList ["e"])).2 hfault
  have hst : (checkFields (unplaced ["c_y", "a_b_x", "e_f_v", "a_b_z", "d_w"])
      ⟨-1, NameSet.ofList ["e"], true⟩).delivered.map (·.stem) = ["a_b", "e_f", "c"] := by
    decide +kernel
  rw [hst] at hmem
  exact ⟨hfault, first, hfirst, hmem⟩

end FieldGrouping
