import FieldGrouping.Proofs.Rule.Report

/-!
The rule on the fields of a type put into another list. The fields then have other positions, so
groups are traced back to where their fields stood; the diagnostics of traced groups are the same.
In particular, what is reported does not depend on the order of declaration.
-/

set_option autoImplicit false

namespace FieldGrouping

theorem mem_slots {slot : Slot} {fields : List Field} :
    slot ∈ slots fields ↔ fields[slot.position]? = some slot.field := by
  simp only [slots, List.mem_map, Prod.exists, List.mem_zipIdx_iff_getElem?]
  constructor
  · rintro ⟨field, position, h, rfl⟩
    exact h
  · exact fun h => ⟨slot.field, slot.position, h, rfl⟩

namespace Group

/-- A group with its fields put back to where they stood in the list that the fields of a type were
taken from. -/
def traced (source : List Slot) (group : Group) : Group :=
  ⟨group.stem, group.members.filterMap fun slot => source[slot.position]?⟩

theorem map_field_traced {source : List Slot} {group : Group}
    (h : ∀ slot ∈ group.members, slot ∈ slots (source.map (·.field))) :
    (group.traced source).members.map (·.field) = group.members.map (·.field) := by
  rw [traced, List.map_filterMap, ← List.filterMap_eq_map]
  refine List.filterMap_congr fun slot hs => ?_
  have hm := mem_slots.1 (h slot hs)
  rw [List.getElem?_map] at hm
  exact hm

theorem message_congr {group other : Group} (hs : group.stem = other.stem)
    (hn : group.names = other.names) : group.message = other.message := by
  unfold message
  rw [hs, hn]

/-- A diagnostic shows the fields of its group, not their positions. -/
theorem diagnostic_congr {group other : Group} (hs : group.stem = other.stem)
    (hf : group.members.map (·.field) = other.members.map (·.field)) :
    group.diagnostic = other.diagnostic := by
  have hn : group.names = other.names := by
    have hn := congrArg (List.map (·.name)) hf
    simpa [names, List.map_map, Function.comp_def] using hn
  have hl := congrArg List.getLast? hf
  rw [List.getLast?_map, List.getLast?_map] at hl
  unfold diagnostic
  rw [message_congr hs hn, hn, hs]
  cases hg : group.members.getLast? with
  | none =>
    cases ho : other.members.getLast? with
    | none => rfl
    | some last => simp [hg, ho] at hl
  | some last =>
    cases ho : other.members.getLast? with
    | none => simp [hg, ho] at hl
    | some last' =>
      have he : last.field = last'.field := by simpa [hg, ho] using hl
      simp [he]

end Group

section Source

variable {reported : Set String} [DecidablePred (· ∈ reported)]

theorem length_kept (stem : String) (slots : List Slot) :
    (kept reported stem slots).length =
      (slots.map (·.field)).countP fun field => Keeps reported stem field.name := by
  rw [kept, ← List.countP_eq_length_filter, List.countP_map]
  rfl

theorem isReport_congr {minimum : Int} {allowed : NameSet} {slots slots' : List Slot}
    (h : (slots.map (·.field)).Perm (slots'.map (·.field))) :
    IsReport minimum allowed slots reported ↔ IsReport minimum allowed slots' reported := by
  simp only [IsReport, length_kept, h.countP_eq]

theorem kept_traced (stem : String) (source : List Slot) :
    (kept reported stem (slots (source.map (·.field)))).filterMap
        (fun slot => source[slot.position]?) =
      kept reported stem source := by
  have hkept : kept reported stem (slots (source.map (·.field))) =
      (source.zipIdx.filter fun entry => Keeps reported stem entry.1.field.name).map
        fun entry => ⟨entry.2, entry.1.field⟩ := by
    simp only [kept, slots, List.zipIdx_map, List.map_map, List.filter_map]
    rfl
  have htrace : ∀ entry ∈ source.zipIdx.filter fun entry =>
      Keeps reported stem entry.1.field.name, source[entry.2]? = some entry.1 :=
    fun entry h => List.mem_zipIdx_iff_getElem?.1 (List.mem_filter.1 h).1
  rw [hkept, List.filterMap_map]
  calc
    _ = (source.zipIdx.filter fun entry => Keeps reported stem entry.1.field.name).filterMap
          (fun entry => some entry.1) := List.filterMap_congr htrace
    _ = kept reported stem (source.zipIdx.map (·.1)) := by
      rw [kept, List.filter_map, List.filterMap_eq_map']
      rfl
    _ = kept reported stem source := by rw [List.zipIdx_map_fst]

variable {source : List Slot} {options : RuleOptions}

theorem stemsOf_reportedGroups_map (enabled : options.enabled = true)
    (positive : 1 ≤ options.minimum)
    (h : IsReport options.minimum options.allowed source reported) :
    Group.stemsOf (reportedGroups (source.map (·.field)) options) = reported := by
  have hs : IsReport options.minimum options.allowed (slots (source.map (·.field))) reported :=
    (isReport_congr (by rw [map_field_slots])).2 h
  exact (isReport_reportedGroups _ enabled positive).unique hs

/-- What is reported on the fields in `source` is the report on `source`. -/
theorem members_traced (enabled : options.enabled = true) (positive : 1 ≤ options.minimum)
    (h : IsReport options.minimum options.allowed source reported) {group : Group}
    (hg : group ∈ reportedGroups (source.map (·.field)) options) :
    (group.traced source).members = kept reported group.stem source := by
  have hset := stemsOf_reportedGroups_map enabled positive h
  rw [Group.traced, members_of_reported hg, kept_traced]
  exact kept_congr fun longer _ => by rw [hset]

theorem diagnostic_traced {group : Group}
    (hg : group ∈ reportedGroups (source.map (·.field)) options) :
    (group.traced source).diagnostic = group.diagnostic := by
  refine Group.diagnostic_congr rfl (Group.map_field_traced fun slot hs => ?_)
  rw [members_of_reported hg] at hs
  exact (mem_kept.1 hs).1

end Source

/-- The order of declaration does not decide what is reported. -/
theorem diagnostics_perm (fields : List Field) (order : List Slot)
    (permuted : order.Perm (slots fields)) (options : RuleOptions)
    (enabled : options.enabled = true) (positive : 1 ≤ options.minimum) :
    ∃ ds ds', diagnostics fields options = .ok ds ∧
      diagnostics (order.map (·.field)) options = .ok ds' ∧
      (ds.map (·.stem)).Perm (ds'.map (·.stem)) ∧
      (∀ d ∈ ds, ∀ d' ∈ ds', d.stem = d'.stem → d.rule = d'.rule ∧ d.fields.Perm d'.fields ∧
        (d.fields = d'.fields → d.message = d'.message)) ∧
      ∀ group ∈ reportedGroups fields options,
        ∀ group' ∈ reportedGroups (order.map (·.field)) options, group.stem = group'.stem →
          group.members.Perm (group'.traced order).members := by
  have hreport := isReport_reportedGroups fields enabled positive
  have horder := (isReport_congr (permuted.map (·.field))).2 hreport
  have hset := stemsOf_reportedGroups_map enabled positive horder
  have hgroups : ∀ group ∈ reportedGroups fields options,
      ∀ group' ∈ reportedGroups (order.map (·.field)) options, group.stem = group'.stem →
        group.members.Perm (group'.traced order).members := by
    intro group hg group' hg' hs
    rw [members_of_reported hg, members_traced enabled positive horder hg', hs]
    exact permuted.symm.filter _
  refine ⟨_, _, diagnostics_eq positive, diagnostics_eq positive, ?_, ?_, hgroups⟩
  · rw [stems_diagnostics positive, stems_diagnostics positive]
    refine (List.perm_ext_iff_of_nodup (nodup_stems_reportedGroups _ _)
      (nodup_stems_reportedGroups _ _)).2 fun stem => ?_
    exact (Set.ext_iff.1 hset stem).symm
  · intro d hd d' hd' hs
    obtain ⟨group, hg, hgd⟩ := mem_diagnosticsOf.1 hd
    obtain ⟨group', hg', hgd'⟩ := mem_diagnosticsOf.1 hd'
    rw [← diagnostic_traced hg'] at hgd'
    obtain ⟨_, _, rfl⟩ := Group.diagnostic_eq_ok.1 hgd
    obtain ⟨_, _, rfl⟩ := Group.diagnostic_eq_ok.1 hgd'
    refine ⟨rfl, (hgroups group hg group' hg' hs).map _, fun hn => ?_⟩
    exact Group.message_congr hs hn

theorem diagnostics_perm_reversed :
    ∃ ds ds',
      diagnostics (unplaced ["cd_x", "ab_x", "cd_ab_y", "ab_y"]) ⟨2, NameSet.ofList [], true⟩ =
        .ok ds ∧
      diagnostics (unplaced ["ab_y", "cd_ab_y", "ab_x", "cd_x"]) ⟨2, NameSet.ofList [], true⟩ =
        .ok ds' ∧
      ds.map (·.stem) = ["cd", "ab"] ∧ ["cd", "ab"].Perm (ds'.map (·.stem)) := by
  obtain ⟨ds, ds', hds, hds', hperm, _⟩ :=
    diagnostics_perm (unplaced ["cd_x", "ab_x", "cd_ab_y", "ab_y"])
      (slots (unplaced ["cd_x", "ab_x", "cd_ab_y", "ab_y"])).reverse (List.reverse_perm _)
      ⟨2, NameSet.ofList [], true⟩ rfl (by decide)
  have hst : (diagnostics (unplaced ["cd_x", "ab_x", "cd_ab_y", "ab_y"])
      ⟨2, NameSet.ofList [], true⟩).map (·.map (·.stem)) = .ok ["cd", "ab"] := by
    decide +kernel
  rw [hds] at hst
  have hst : ds.map (·.stem) = ["cd", "ab"] := Except.ok.inj hst
  exact ⟨ds, ds', hds, hds', hst, hst ▸ hperm⟩

end FieldGrouping
