import FieldGrouping.Proofs.Rule.Rearrangement

/-!
What is reported under a stem is settled by the fields that the stem covers and by which of the
stems from it on are allowed. All groups are taken from one stock of fields, but a longer stem can
take a field from a shorter one only if it goes on after it, so other stems do not interfere.
-/

set_option autoImplicit false

namespace FieldGrouping

/-- A stem goes on after another if it is the same or is covered by it. -/
def GoesOn (stem longer : String) : Prop :=
  longer = stem ∨ Covers stem longer

theorem Covers.trans {stem longer name : String} (h : Covers stem longer)
    (h' : Covers longer name) : Covers stem name :=
  List.IsPrefix.trans h h'.isPrefix

namespace GoesOn

variable {stem longer name : String}

theorem refl (stem : String) : GoesOn stem stem :=
  .inl rfl

theorem covers (h : GoesOn stem longer) (hc : Covers longer name) : Covers stem name := by
  rcases h with rfl | h
  · exact hc
  · exact h.trans hc

theorem trans (h : GoesOn stem longer) (hc : Covers longer name) : GoesOn stem name :=
  .inr (h.covers hc)

end GoesOn

/-- The fields that a stem covers, whatever their positions. -/
def fieldsUnder (stem : String) (fields : List Field) : List Field :=
  fields.filter fun field => Covers stem field.name

section Under

variable {stem longer : String} (reported : Set String) [DecidablePred (· ∈ reported)]

/-- What a stem keeps, it keeps of the fields that any stem before it covers. -/
theorem map_field_kept (fields : List Field) (h : GoesOn stem longer) :
    (kept reported longer (slots fields)).map (·.field) =
      (fieldsUnder stem fields).filter fun field => Keeps reported longer field.name := by
  have hfilter : (kept reported longer (slots fields)).map (·.field) =
      ((slots fields).map (·.field)).filter fun field => Keeps reported longer field.name := by
    rw [kept, List.filter_map]
    rfl
  rw [hfilter, map_field_slots, fieldsUnder, List.filter_filter]
  refine List.filter_congr fun field _ => ?_
  by_cases hk : Keeps reported longer field.name
  · simp [hk, h.covers hk.1]
  · simp [hk]

theorem length_kept_of_fieldsUnder {fields fields' : List Field} (h : GoesOn stem longer)
    (same : fieldsUnder stem fields = fieldsUnder stem fields') :
    (kept reported longer (slots fields)).length =
      (kept reported longer (slots fields')).length := by
  have hmap := congrArg List.length (map_field_kept reported fields h)
  have hmap' := congrArg List.length (map_field_kept reported fields' h)
  rw [List.length_map] at hmap hmap'
  rw [hmap, hmap', same]

end Under

section Reports

variable {stem : String} {minimum : Int} {fields fields' : List Field} {allowed allowed' : NameSet}
variable {reported reported' : Set String}
variable [DecidablePred (· ∈ reported)] [DecidablePred (· ∈ reported')]

/-- Two reports agree on the stems from one stem on. The induction goes from the longest stems down:
what a stem keeps follows from the longer stems, on which the reports agree already. -/
theorem IsReport.mem_iff_of_goesOn (same : fieldsUnder stem fields = fieldsUnder stem fields')
    (agree : ∀ longer, GoesOn stem longer → (longer ∈ allowed ↔ longer ∈ allowed'))
    (h : IsReport minimum allowed (slots fields) reported)
    (h' : IsReport minimum allowed' (slots fields') reported') {longer : String}
    (hon : GoesOn stem longer) : longer ∈ reported ↔ longer ∈ reported' := by
  obtain ⟨bound, hb⟩ := exists_length_bound (slots fields)
  suffices ∀ n longer, bound ≤ longer.length + n → GoesOn stem longer →
      (longer ∈ reported ↔ longer ∈ reported') from this bound longer (by omega) hon
  intro n
  induction n with
  | zero =>
    intro longer hn hon
    have hnil : ∀ (set : Set String) [DecidablePred (· ∈ set)],
        kept set longer (slots fields) = [] :=
      fun set _ => kept_eq_nil_of_length fun slot hs => Nat.le_trans (hb slot hs) hn
    rw [h longer, h' longer, agree longer hon, ← length_kept_of_fieldsUnder _ hon same, hnil, hnil]
  | succ n ih =>
    intro longer hn hon
    have hk : kept reported longer (slots fields) = kept reported' longer (slots fields) := by
      refine kept_congr fun next hc => ih next ?_ (hon.trans hc)
      have hlt := hc.length_lt
      omega
    rw [h longer, h' longer, agree longer hon, hk, length_kept_of_fieldsUnder _ hon same]

end Reports

/-- What is said of a stem depends only on the fields that it covers and on which of the stems from
it on are allowed. -/
theorem diagnostics_determined_under (stem : String) (minimum : Int) (positive : 1 ≤ minimum)
    (fields fields' : List Field) (allowed allowed' : NameSet)
    (same : fieldsUnder stem fields = fieldsUnder stem fields')
    (agree : ∀ longer, GoesOn stem longer → (longer ∈ allowed ↔ longer ∈ allowed')) :
    ∃ ds ds', diagnostics fields ⟨minimum, allowed, true⟩ = .ok ds ∧
      diagnostics fields' ⟨minimum, allowed', true⟩ = .ok ds' ∧
      (stem ∈ ds.map (·.stem) ↔ stem ∈ ds'.map (·.stem)) ∧
      ∀ d ∈ ds, ∀ d' ∈ ds', d.stem = stem → d'.stem = stem → d = d' := by
  have hreport : IsReport minimum allowed (slots fields)
      (Group.stemsOf (reportedGroups fields ⟨minimum, allowed, true⟩)) :=
    isReport_reportedGroups fields rfl positive
  have hreport' : IsReport minimum allowed' (slots fields')
      (Group.stemsOf (reportedGroups fields' ⟨minimum, allowed', true⟩)) :=
    isReport_reportedGroups fields' rfl positive
  have hmem := fun {longer} (hon : GoesOn stem longer) =>
    hreport.mem_iff_of_goesOn same agree hreport' hon
  refine ⟨_, _, diagnostics_eq positive, diagnostics_eq positive, ?_, ?_⟩
  · rw [stems_diagnostics positive, stems_diagnostics positive]
    exact hmem (.refl stem)
  · intro d hd d' hd' hs hs'
    obtain ⟨group, hg, hgd⟩ := mem_diagnosticsOf.1 hd
    obtain ⟨group', hg', hgd'⟩ := mem_diagnosticsOf.1 hd'
    have hst : group.stem = stem := by
      obtain ⟨_, _, rfl⟩ := Group.diagnostic_eq_ok.1 hgd
      exact hs
    have hst' : group'.stem = stem := by
      obtain ⟨_, _, rfl⟩ := Group.diagnostic_eq_ok.1 hgd'
      exact hs'
    have hf : group.members.map (·.field) = group'.members.map (·.field) := by
      rw [members_of_reported hg, members_of_reported hg', hst, hst',
        kept_congr fun longer hc => hmem (.inr hc), map_field_kept _ fields (.refl stem),
        map_field_kept _ fields' (.refl stem), same]
    rw [Group.diagnostic_congr (hst.trans hst'.symm) hf, hgd'] at hgd
    exact (Except.ok.inj hgd).symm

theorem diagnostics_determined_under_between_others :
    ∃ ds ds',
      diagnostics (unplaced ["b_x", "a_b_x", "b_y", "a_y", "a_b_z", "a_z"])
        ⟨2, NameSet.ofList ["b"], true⟩ = .ok ds ∧
      diagnostics (unplaced ["a_b_x", "a_y", "ab_z", "a_b_z", "ab_y", "a_z"])
        ⟨2, NameSet.ofList ["ab_c", "x"], true⟩ = .ok ds' ∧
      ds.map (·.stem) = ["a_b", "a"] ∧ ∃ d ∈ ds, d.stem = "a" ∧ d ∈ ds' := by
  obtain ⟨ds, ds', hds, hds', hiff, heq⟩ :=
    diagnostics_determined_under "a" 2 (by decide)
      (unplaced ["b_x", "a_b_x", "b_y", "a_y", "a_b_z", "a_z"])
      (unplaced ["a_b_x", "a_y", "ab_z", "a_b_z", "ab_y", "a_z"])
      (NameSet.ofList ["b"]) (NameSet.ofList ["ab_c", "x"]) (by decide +kernel) (by
        have hb : ¬ GoesOn "a" "b" := by unfold GoesOn; decide +kernel
        have hab : ¬ GoesOn "a" "ab_c" := by unfold GoesOn; decide +kernel
        have hx : ¬ GoesOn "a" "x" := by unfold GoesOn; decide +kernel
        intro longer hon
        constructor
        · intro h
          obtain rfl : longer = "b" := by simpa using h
          exact absurd hon hb
        · intro h
          obtain rfl | rfl : longer = "ab_c" ∨ longer = "x" := by simpa using h
          · exact absurd hon hab
          · exact absurd hon hx)
  have hst : (diagnostics (unplaced ["b_x", "a_b_x", "b_y", "a_y", "a_b_z", "a_z"])
      ⟨2, NameSet.ofList ["b"], true⟩).map (·.map (·.stem)) = .ok ["a_b", "a"] := by
    decide +kernel
  rw [hds] at hst
  have hst : ds.map (·.stem) = ["a_b", "a"] := Except.ok.inj hst
  have ha : "a" ∈ ds.map (·.stem) := by simp [hst]
  obtain ⟨d, hd, hda⟩ := List.mem_map.1 ha
  obtain ⟨d', hd', hda'⟩ := List.mem_map.1 (hiff.1 ha)
  exact ⟨ds, ds', hds, hds', hst, d, hd, hda, heq d hd d' hd' hda hda' ▸ hd'⟩

end FieldGrouping
