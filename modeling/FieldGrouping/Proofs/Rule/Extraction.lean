import FieldGrouping.Proofs.Rule.Rearrangement

/-!
Following the advice of the rule. Taking the fields of some reported groups out of a type leaves
the other groups as they were: a field that is left is still kept by the stem that kept it, since
that stem is still reported, and no stem comes to keep more fields than it did.
-/

set_option autoImplicit false

namespace FieldGrouping

/-- The fields that are in none of the groups taken out. -/
def remaining (fields : List Field) (extracted : List Group) : List Slot :=
  (slots fields).filter fun slot => slot ∉ Group.taken extracted

/-- Taking stems out of a report does not change what is kept of the names they do not keep. -/
theorem keeps_diff {reported removed : Set String} {stem name : String}
    (h : ∀ other ∈ removed, ¬ Keeps reported other name) :
    Keeps (reported \ removed) stem name ↔ Keeps reported stem name := by
  constructor
  · rintro ⟨hc, hl⟩
    refine ⟨hc, fun longer hr hs hn => ?_⟩
    obtain ⟨longest, hm, hk, hle⟩ := exists_keeps hr hn
    have hlt := hs.length_lt
    exact hl longest ⟨hm, fun ho => h longest ho hk⟩ (hc.of_length_lt hk.1 (by omega)) hk.1
  · rintro ⟨hc, hl⟩
    exact ⟨hc, fun longer hr => hl longer hr.1⟩

section Extraction

variable {fields : List Field} {options : RuleOptions} {extracted : List Group}

theorem mem_taken_iff_keeps (h : extracted ⊆ reportedGroups fields options) {slot : Slot}
    (hs : slot ∈ slots fields) :
    slot ∈ Group.taken extracted ↔
      ∃ stem ∈ extracted.map (·.stem),
        Keeps (Group.stemsOf (reportedGroups fields options)) stem slot.field.name := by
  rw [Group.mem_taken]
  constructor
  · rintro ⟨group, hg, hm⟩
    rw [members_of_reported (h hg)] at hm
    exact ⟨group.stem, List.mem_map_of_mem hg, (mem_kept.1 hm).2⟩
  · rintro ⟨stem, hst, hk⟩
    obtain ⟨group, hg, rfl⟩ := List.mem_map.1 hst
    refine ⟨group, hg, ?_⟩
    rw [members_of_reported (h hg)]
    exact mem_kept.2 ⟨hs, hk⟩

/-- What a stem keeps of the remaining fields, beside the remaining stems. -/
theorem kept_remaining (h : extracted ⊆ reportedGroups fields options) (stem : String) :
    kept (Group.stemsOf (reportedGroups fields options) \ Group.stemsOf extracted) stem
        (remaining fields extracted) =
      (kept (Group.stemsOf (reportedGroups fields options)) stem (slots fields)).filter
        fun slot => slot ∉ Group.taken extracted := by
  rw [kept, kept, remaining, List.filter_filter, List.filter_filter]
  refine List.filter_congr fun slot hs => ?_
  by_cases ht : slot ∈ Group.taken extracted
  · simp [ht]
  · have hn : ∀ other ∈ Group.stemsOf extracted,
        ¬ Keeps (Group.stemsOf (reportedGroups fields options)) other slot.field.name :=
      fun other ho hk => ht ((mem_taken_iff_keeps h hs).2 ⟨other, ho, hk⟩)
    simp [ht, keeps_diff hn]

theorem kept_remaining_of_reported (h : extracted ⊆ reportedGroups fields options) {stem : String}
    (hr : stem ∈ (reportedGroups fields options).map (·.stem))
    (he : stem ∉ extracted.map (·.stem)) :
    kept (Group.stemsOf (reportedGroups fields options) \ Group.stemsOf extracted) stem
        (remaining fields extracted) =
      kept (Group.stemsOf (reportedGroups fields options)) stem (slots fields) := by
  rw [kept_remaining h]
  refine List.filter_eq_self.2 fun slot hs => decide_eq_true fun ht => he ?_
  obtain ⟨hs, hk⟩ := mem_kept.1 hs
  obtain ⟨other, ho, hk'⟩ := (mem_taken_iff_keeps h hs).1 ht
  obtain ⟨group, hg, rfl⟩ := List.mem_map.1 ho
  rw [hk.eq hr (List.mem_map_of_mem (h hg)) hk']
  exact ho

theorem kept_remaining_of_extracted (h : extracted ⊆ reportedGroups fields options) {stem : String}
    (he : stem ∈ extracted.map (·.stem)) :
    kept (Group.stemsOf (reportedGroups fields options) \ Group.stemsOf extracted) stem
        (remaining fields extracted) = [] := by
  rw [kept_remaining h]
  refine List.filter_eq_nil_iff.2 fun slot hs => ?_
  obtain ⟨hs, hk⟩ := mem_kept.1 hs
  simpa using (mem_taken_iff_keeps h hs).2 ⟨stem, he, hk⟩

theorem isReport_remaining (h : extracted ⊆ reportedGroups fields options)
    (enabled : options.enabled = true) (positive : 1 ≤ options.minimum) :
    IsReport options.minimum options.allowed (remaining fields extracted)
      (Group.stemsOf (reportedGroups fields options) \ Group.stemsOf extracted) := by
  intro stem
  have hreport := isReport_reportedGroups fields enabled positive stem
  constructor
  · rintro ⟨hr, he⟩
    rw [kept_remaining_of_reported h hr he]
    exact hreport.1 hr
  · rintro ⟨ha, hl⟩
    have he : stem ∉ Group.stemsOf extracted := by
      intro he
      rw [kept_remaining_of_extracted h he] at hl
      simp only [List.length_nil] at hl
      omega
    refine ⟨hreport.2 ⟨ha, ?_⟩, he⟩
    rw [kept_remaining h] at hl
    have hf := List.length_filter_le (fun slot => decide (slot ∉ Group.taken extracted))
      (kept (Group.stemsOf (reportedGroups fields options)) stem (slots fields))
    omega

theorem mem_extracted_iff (h : extracted ⊆ reportedGroups fields options) {group : Group}
    (hg : group ∈ reportedGroups fields options) :
    group ∈ extracted ↔ group.stem ∈ extracted.map (·.stem) := by
  constructor
  · exact fun he => List.mem_map_of_mem he
  · intro he
    obtain ⟨found, hf, hs⟩ := List.mem_map.1 he
    have heq := List.inj_on_of_nodup_map (nodup_stems_reportedGroups fields options) (h hf) hg hs
    exact heq ▸ hf

theorem stems_remaining_perm (h : extracted ⊆ reportedGroups fields options)
    (enabled : options.enabled = true) (positive : 1 ≤ options.minimum) :
    ((reportedGroups ((remaining fields extracted).map (·.field)) options).map (·.stem)).Perm
      (((reportedGroups fields options).map (·.stem)).filter
        fun stem => stem ∉ extracted.map (·.stem)) := by
  have hset := stemsOf_reportedGroups_map enabled positive (isReport_remaining h enabled positive)
  refine (List.perm_ext_iff_of_nodup (nodup_stems_reportedGroups _ _)
    ((nodup_stems_reportedGroups _ _).filter _)).2 fun stem => ?_
  have hs := Set.ext_iff.1 hset stem
  simpa using hs

/-- The groups on the remaining fields are the groups that were not taken out. -/
theorem traced_remaining_perm (h : extracted ⊆ reportedGroups fields options)
    (enabled : options.enabled = true) (positive : 1 ≤ options.minimum) :
    ((reportedGroups ((remaining fields extracted).map (·.field)) options).map
        (Group.traced (remaining fields extracted))).Perm
      ((reportedGroups fields options).filter (· ∉ extracted)) := by
  have hstems := stems_remaining_perm h enabled positive
  have hleft : (reportedGroups ((remaining fields extracted).map (·.field)) options).map
      (Group.traced (remaining fields extracted)) =
        ((reportedGroups ((remaining fields extracted).map (·.field)) options).map
          (·.stem)).map (keptGroup fields options) := by
    rw [List.map_map]
    refine List.map_congr_left fun group hg => ?_
    have hmem := hstems.mem_iff.1 (List.mem_map_of_mem hg)
    simp only [List.mem_filter, decide_eq_true_eq] at hmem
    have hm := members_traced enabled positive (isReport_remaining h enabled positive) hg
    rw [kept_remaining_of_reported h hmem.1 hmem.2] at hm
    exact congrArg (Group.mk group.stem) hm
  have hright : (reportedGroups fields options).filter (· ∉ extracted) =
      (((reportedGroups fields options).map (·.stem)).filter
        fun stem => stem ∉ extracted.map (·.stem)).map (keptGroup fields options) := by
    rw [List.filter_map, map_keptGroup (List.filter_subset_self _)]
    exact List.filter_congr fun group hg => by
      simp only [mem_extracted_iff h hg, Function.comp_apply]
  rw [hleft, hright]
  exact hstems.map _

theorem diagnosticsOf_traced (source : List Slot) (options : RuleOptions) :
    diagnosticsOf ((reportedGroups (source.map (·.field)) options).map (Group.traced source)) =
      diagnosticsOf (reportedGroups (source.map (·.field)) options) := by
  rw [diagnosticsOf, List.filterMap_map]
  exact List.filterMap_congr fun group hg => by
    rw [Function.comp_apply, diagnostic_traced hg]

theorem diagnosticsOf_not_extracted (h : extracted ⊆ reportedGroups fields options) :
    diagnosticsOf ((reportedGroups fields options).filter (· ∉ extracted)) =
      (diagnosticsOf (reportedGroups fields options)).filter
        fun d => d.stem ∉ extracted.map (·.stem) := by
  rw [diagnosticsOf, diagnosticsOf, List.filter_filterMap, List.filterMap_filter]
  refine List.filterMap_congr fun group hg => ?_
  cases hd : group.diagnostic with
  | error fault => simp [Except.toOption]
  | ok d =>
    obtain ⟨_, _, rfl⟩ := Group.diagnostic_eq_ok.1 hd
    simp only [Except.toOption, Option.filter_some, mem_extracted_iff h hg]

theorem map_length_eq_of_perm {ps qs : List String} (h : ps.Perm qs)
    (hp : ps.Pairwise fun p q => q.length ≤ p.length)
    (hq : qs.Pairwise fun p q => q.length ≤ p.length) :
    ps.map String.length = qs.map String.length := by
  have hp : (ps.map String.length).Pairwise fun m n => n ≤ m := List.pairwise_map.2 hp
  have hq : (qs.map String.length).Pairwise fun m n => n ≤ m := List.pairwise_map.2 hq
  exact (h.map _).eq_of_pairwise (fun m n _ _ hnm hmn => Nat.le_antisymm hmn hnm) hp hq

end Extraction

/-- Taking the fields of some reported groups out leaves the other groups as they were; only groups
of equally long stems can change places. -/
theorem diagnostics_remaining (fields : List Field) (options : RuleOptions)
    (extracted : List Group) (reported : extracted ⊆ reportedGroups fields options)
    (enabled : options.enabled = true) (positive : 1 ≤ options.minimum) :
    (∃ ds ds', diagnostics fields options = .ok ds ∧
      diagnostics ((remaining fields extracted).map (·.field)) options = .ok ds' ∧
      ds'.Perm (ds.filter fun d => d.stem ∉ extracted.map (·.stem)) ∧
      ds'.map (·.stem.length) =
        (ds.filter fun d => d.stem ∉ extracted.map (·.stem)).map (·.stem.length)) ∧
    ((reportedGroups ((remaining fields extracted).map (·.field)) options).map
        (Group.traced (remaining fields extracted))).Perm
      ((reportedGroups fields options).filter (· ∉ extracted)) ∧
    diagnostics ((remaining fields (reportedGroups fields options)).map (·.field)) options =
      .ok [] := by
  have htraced := traced_remaining_perm reported enabled positive
  refine ⟨⟨_, _, diagnostics_eq positive, diagnostics_eq positive, ?_, ?_⟩, htraced, ?_⟩
  · rw [← diagnosticsOf_traced, ← diagnosticsOf_not_extracted reported]
    exact htraced.filterMap _
  · have hlen := map_length_eq_of_perm (stems_remaining_perm reported enabled positive)
      (pairwise_stems_reportedGroups _ _) ((pairwise_stems_reportedGroups _ _).filter _)
    rw [← stems_diagnostics positive, ← stems_diagnostics positive, List.filter_map,
      List.map_map, List.map_map] at hlen
    exact hlen
  · have hall := traced_remaining_perm (List.Subset.refl (reportedGroups fields options)) enabled
      positive
    have hnil : (reportedGroups fields options).filter (· ∉ reportedGroups fields options) = [] :=
      List.filter_eq_nil_iff.2 fun group hg => by simp [hg]
    rw [hnil, List.perm_nil, List.map_eq_nil_iff] at hall
    rw [diagnostics_eq positive, hall]
    rfl

theorem diagnostics_remaining_nested :
    ∃ ds ds',
      diagnostics (unplaced ["a_home_x", "b_u", "a_home_y", "a_x", "b_v", "a_y"])
        ⟨2, NameSet.ofList [], true⟩ = .ok ds ∧
      diagnostics (unplaced ["b_u", "a_x", "b_v", "a_y"]) ⟨2, NameSet.ofList [], true⟩ = .ok ds' ∧
      ds'.Perm (ds.filter fun d => d.stem ∉ ["a_home"]) := by
  obtain ⟨⟨ds, ds', hds, hds', hperm, _⟩, _⟩ :=
    diagnostics_remaining (unplaced ["a_home_x", "b_u", "a_home_y", "a_x", "b_v", "a_y"])
      ⟨2, NameSet.ofList [], true⟩
      [⟨"a_home", [⟨0, ⟨"a_home_x", .handle none⟩⟩, ⟨2, ⟨"a_home_y", .handle none⟩⟩]⟩]
      (by decide +kernel) rfl (by decide)
  have hrest : (remaining (unplaced ["a_home_x", "b_u", "a_home_y", "a_x", "b_v", "a_y"])
      [⟨"a_home", [⟨0, ⟨"a_home_x", .handle none⟩⟩, ⟨2, ⟨"a_home_y", .handle none⟩⟩]⟩]).map
        (·.field) = unplaced ["b_u", "a_x", "b_v", "a_y"] := by
    decide +kernel
  exact ⟨ds, ds', hds, hrest ▸ hds', hperm⟩

end FieldGrouping
