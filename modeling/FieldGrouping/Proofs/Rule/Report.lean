import FieldGrouping.Proofs.Rule.Selection
import FieldGrouping.Rule.Diagnostic
import Mathlib.Data.List.Nodup

/-!
What the rule reports, said without how it is found. A set of stems is a report on some fields if
it holds just the stems that are not allowed and keep enough fields beside the others of the set.
There is at most one report; for a minimum of at least one it is what the rule finds, and the
diagnostics are one for each of its stems, on the fields that the stem keeps.
-/

set_option autoImplicit false

namespace FieldGrouping

/-- A set of stems that holds just the stems which are not allowed and, beside the others of the
set, keep at least `minimum` fields. -/
def IsReport (minimum : Int) (allowed : NameSet) (slots : List Slot) (reported : Set String)
    [DecidablePred (· ∈ reported)] : Prop :=
  ∀ stem, stem ∈ reported ↔ stem ∉ allowed ∧ minimum ≤ (kept reported stem slots).length

section Report

variable {minimum : Int} {allowed : NameSet} {slots : List Slot}
variable {reported other : Set String} [DecidablePred (· ∈ reported)] [DecidablePred (· ∈ other)]

/-- What a stem keeps depends on the longer stems only. -/
theorem kept_congr {stem : String}
    (h : ∀ longer, Covers stem longer → (longer ∈ reported ↔ longer ∈ other)) :
    kept reported stem slots = kept other stem slots := by
  refine List.filter_congr fun slot _ => ?_
  have hk : Keeps reported stem slot.field.name ↔ Keeps other stem slot.field.name := by
    simp only [Keeps]
    constructor
    · rintro ⟨hc, hl⟩
      exact ⟨hc, fun q hq hs => hl q ((h q hs).2 hq) hs⟩
    · rintro ⟨hc, hl⟩
      exact ⟨hc, fun q hq hs => hl q ((h q hs).1 hq) hs⟩
  simp [hk]

theorem exists_length_bound (slots : List Slot) :
    ∃ bound, ∀ slot ∈ slots, slot.field.name.length ≤ bound := by
  induction slots with
  | nil => exact ⟨0, by simp⟩
  | cons slot slots ih =>
    obtain ⟨bound, hb⟩ := ih
    refine ⟨max slot.field.name.length bound, fun other ho => ?_⟩
    rcases List.mem_cons.1 ho with rfl | ho
    · exact Nat.le_max_left _ _
    · exact Nat.le_trans (hb other ho) (Nat.le_max_right _ _)

theorem kept_eq_nil_of_length {stem : String}
    (h : ∀ slot ∈ slots, slot.field.name.length ≤ stem.length) : kept reported stem slots = [] := by
  refine List.filter_eq_nil_iff.2 fun slot hs => ?_
  have hc : ¬ Covers stem slot.field.name := by
    intro hc
    have hl := hc.length_lt
    have hb := h slot hs
    omega
  simp [Keeps, hc]

/-- There is at most one report. A stem longer than every name keeps no field, and what any other
stem keeps follows from which longer stems are reported. -/
theorem IsReport.unique (h : IsReport minimum allowed slots reported)
    (h' : IsReport minimum allowed slots other) : reported = other := by
  obtain ⟨bound, hb⟩ := exists_length_bound slots
  suffices ∀ n stem, bound ≤ stem.length + n → (stem ∈ reported ↔ stem ∈ other) from
    Set.ext fun stem => this bound stem (by omega)
  intro n
  induction n with
  | zero =>
    intro stem hn
    have hl : ∀ slot ∈ slots, slot.field.name.length ≤ stem.length :=
      fun slot hs => Nat.le_trans (hb slot hs) hn
    rw [h stem, h' stem, kept_eq_nil_of_length hl, kept_eq_nil_of_length hl]
  | succ n ih =>
    intro stem hn
    have hk : kept reported stem slots = kept other stem slots := by
      refine kept_congr fun longer hc => ih longer ?_
      have hlt := hc.length_lt
      omega
    rw [h stem, h' stem, hk]

theorem covered_ne_nil (positive : 1 ≤ minimum) {stem : String}
    (h : minimum ≤ (kept reported stem slots).length) : covered stem slots ≠ [] := by
  intro hn
  have hs : (kept reported stem slots).Sublist (covered stem slots) :=
    kept_sublist_covered stem slots
  rw [hn, List.sublist_nil] at hs
  simp only [hs, List.length_nil] at h
  omega

theorem isReport_select (positive : 1 ≤ minimum) :
    IsReport minimum allowed slots
      (Group.stemsOf (Group.select minimum (Group.candidates allowed slots))) := by
  intro stem
  constructor
  · intro h
    obtain ⟨group, hg, rfl⟩ := List.mem_map.1 h
    obtain ⟨ha, _, hm, hl⟩ := Group.mem_select.1 hg
    exact ⟨ha, hm ▸ hl⟩
  · rintro ⟨ha, hl⟩
    let taken := Group.select minimum (Group.candidates allowed slots)
    have hg : (⟨stem, kept (Group.stemsOf taken) stem slots⟩ : Group) ∈ taken :=
      Group.mem_select.2 ⟨ha, covered_ne_nil positive hl, rfl, hl⟩
    exact List.mem_map.2 ⟨_, hg, rfl⟩

end Report

section Delivery

/-- The diagnostics of groups that have a field. -/
def diagnosticsOf (groups : List Group) : List Diagnostic :=
  groups.filterMap (·.diagnostic.toOption)

theorem Group.diagnostic_eq_ok {group : Group} {diagnostic : Diagnostic} :
    group.diagnostic = .ok diagnostic ↔
      ∃ last, group.members.getLast? = some last ∧
        diagnostic = ⟨group.message, last.field.location, ruleName, group.stem, group.names⟩ := by
  unfold Group.diagnostic
  cases h : group.members.getLast? with
  | none => simp
  | some last => simp [eq_comm]

theorem Group.exists_diagnostic {group : Group} (h : group.members ≠ []) :
    ∃ diagnostic, group.diagnostic = .ok diagnostic :=
  ⟨_, Group.diagnostic_eq_ok.2 ⟨_, List.getLast?_eq_some_getLast h, rfl⟩⟩

theorem mem_diagnosticsOf {diagnostic : Diagnostic} {groups : List Group} :
    diagnostic ∈ diagnosticsOf groups ↔ ∃ group ∈ groups, group.diagnostic = .ok diagnostic := by
  have ho (group : Group) : group.diagnostic.toOption = some diagnostic ↔
      group.diagnostic = .ok diagnostic := by
    cases group.diagnostic <;> simp [Except.toOption]
  simp [diagnosticsOf, ho]

theorem stems_diagnosticsOf {groups : List Group} (h : ∀ group ∈ groups, group.members ≠ []) :
    (diagnosticsOf groups).map (·.stem) = groups.map (·.stem) := by
  induction groups with
  | nil => rfl
  | cons group groups ih =>
    obtain ⟨diagnostic, hd⟩ := Group.exists_diagnostic (h group (by simp))
    obtain ⟨_, _, rfl⟩ := Group.diagnostic_eq_ok.1 hd
    have ih := ih fun other ho => h other (by simp [ho])
    simp only [diagnosticsOf, List.filterMap_cons, hd, Except.toOption, List.map_cons] at ih ⊢
    rw [ih]

theorem deliver_append {earlier : List Group} (h : ∀ group ∈ earlier, group.members ≠ [])
    (later : List Group) :
    deliver (earlier ++ later) =
      ⟨diagnosticsOf earlier ++ (deliver later).delivered, (deliver later).fault⟩ := by
  induction earlier with
  | nil => rfl
  | cons group earlier ih =>
    obtain ⟨diagnostic, hd⟩ := Group.exists_diagnostic (h group (by simp))
    have ih := ih fun other ho => h other (by simp [ho])
    simp [deliver, diagnosticsOf, hd, ih, Except.toOption]

theorem deliver_eq {groups : List Group} (h : ∀ group ∈ groups, group.members ≠ []) :
    deliver groups = ⟨diagnosticsOf groups, none⟩ := by
  simpa [deliver] using deliver_append h []

theorem exists_group_of_mem_delivered {groups : List Group} {diagnostic : Diagnostic}
    (h : diagnostic ∈ (deliver groups).delivered) :
    ∃ group ∈ groups, group.diagnostic = .ok diagnostic := by
  fun_induction deliver groups with
  | case1 => simp at h
  | case2 => simp at h
  | case3 group groups found hd rest ih =>
    rcases List.mem_cons.1 h with rfl | h
    · exact ⟨group, by simp, hd⟩
    · obtain ⟨other, ho, hother⟩ := ih h
      exact ⟨other, by simp [ho], hother⟩

variable {fields : List Field} {options : RuleOptions}

theorem reportedGroups_eq (enabled : options.enabled = true) :
    reportedGroups fields options =
      Group.select options.minimum (Group.candidates options.allowed (slots fields)) := by
  simp [reportedGroups, enabled]

theorem enough_of_reported {group : Group} (h : group ∈ reportedGroups fields options) :
    group.stem ∉ options.allowed ∧ options.minimum ≤ group.members.length := by
  unfold reportedGroups at h
  split at h
  · have hgroup := Group.mem_select.1 h
    exact ⟨hgroup.1, hgroup.2.2.2⟩
  · simp at h

theorem members_ne_nil_of_reported (positive : 1 ≤ options.minimum) :
    ∀ group ∈ reportedGroups fields options, group.members ≠ [] := by
  intro group hg hn
  have hl := (enough_of_reported hg).2
  simp only [hn, List.length_nil] at hl
  omega

theorem diagnostics_eq (positive : 1 ≤ options.minimum) :
    diagnostics fields options = .ok (diagnosticsOf (reportedGroups fields options)) := by
  simp [diagnostics, checkFields, deliver_eq (members_ne_nil_of_reported positive)]

theorem stems_diagnostics (positive : 1 ≤ options.minimum) :
    (diagnosticsOf (reportedGroups fields options)).map (·.stem) =
      (reportedGroups fields options).map (·.stem) :=
  stems_diagnosticsOf (members_ne_nil_of_reported positive)

end Delivery

section Reported

variable {fields : List Field} {options : RuleOptions}

theorem map_field_slots (fields : List Field) : (slots fields).map (·.field) = fields := by
  simp [slots, Function.comp_def]

theorem isReport_reportedGroups (fields : List Field) (enabled : options.enabled = true)
    (positive : 1 ≤ options.minimum) :
    IsReport options.minimum options.allowed (slots fields)
      (Group.stemsOf (reportedGroups fields options)) := by
  rw [reportedGroups_eq enabled]
  exact isReport_select positive

theorem members_of_reported {group : Group} (h : group ∈ reportedGroups fields options) :
    group.members =
      kept (Group.stemsOf (reportedGroups fields options)) group.stem (slots fields) := by
  have enabled : options.enabled = true := by
    by_contra hd
    simp [reportedGroups, hd] at h
  rw [reportedGroups_eq enabled] at h ⊢
  exact (Group.mem_select.1 h).2.2.1

/-- A diagnostic is located at a field that its stem covers, whatever the minimum. -/
theorem exists_field_of_mem_diagnostics {ds : List Diagnostic}
    (h : diagnostics fields options = .ok ds) {d : Diagnostic} (mem : d ∈ ds) :
    ∃ field ∈ fields, d.location = field.location ∧ Covers d.stem field.name := by
  have hdelivered : ds = (checkFields fields options).delivered := by
    unfold diagnostics at h
    cases hf : (checkFields fields options).fault with
    | none => simpa [hf, eq_comm] using h
    | some fault => simp [hf] at h
  rw [hdelivered] at mem
  obtain ⟨group, hg, hd⟩ := exists_group_of_mem_delivered mem
  obtain ⟨last, hlast, rfl⟩ := Group.diagnostic_eq_ok.1 hd
  have hmember : last ∈ group.members := List.mem_of_getLast? hlast
  rw [members_of_reported hg, mem_kept] at hmember
  obtain ⟨hslot, hkeeps⟩ := hmember
  have hfield : last.field ∈ fields := by
    rw [← map_field_slots fields]
    exact List.mem_map_of_mem hslot
  exact ⟨last.field, hfield, rfl, hkeeps.1⟩

theorem members_sublist_of_reported {group : Group} (h : group ∈ reportedGroups fields options) :
    group.members.Sublist (slots fields) := by
  rw [members_of_reported h]
  exact List.filter_sublist

theorem names_sublist_of_reported {group : Group} (h : group ∈ reportedGroups fields options) :
    group.names.Sublist (fields.map (·.name)) := by
  have hslots : (slots fields).map (fun slot => slot.field.name) = fields.map (·.name) := by
    conv => rhs; rw [← map_field_slots fields, List.map_map]
    rfl
  rw [← hslots]
  exact (members_sublist_of_reported h).map fun slot => slot.field.name

/-- With a minimum of at least one a check comes to its end, and all it delivers is on enough
fields and on a stem that is not allowed. -/
theorem checkFields_of_positive (positive : 1 ≤ options.minimum) (fields : List Field) :
    (checkFields fields options).fault = none ∧
      ∀ d ∈ (checkFields fields options).delivered,
        options.minimum ≤ d.fields.length ∧ d.fields.Sublist (fields.map (·.name)) ∧
          d.stem ∉ options.allowed := by
  rw [checkFields, deliver_eq (members_ne_nil_of_reported positive)]
  refine ⟨rfl, fun d hd => ?_⟩
  obtain ⟨group, hgroup, hdiagnostic⟩ := mem_diagnosticsOf.1 hd
  obtain ⟨last, _, rfl⟩ := Group.diagnostic_eq_ok.1 hdiagnostic
  obtain ⟨hstem, henough⟩ := enough_of_reported hgroup
  have hlength : group.names.length = group.members.length := by simp [Group.names]
  refine ⟨?_, names_sublist_of_reported hgroup, hstem⟩
  simpa only [hlength] using henough

theorem nodup_stems_reportedGroups (fields : List Field) (options : RuleOptions) :
    ((reportedGroups fields options).map (·.stem)).Nodup := by
  unfold reportedGroups
  split
  · exact Group.nodup_stems_select _ _ _
  · simp

theorem pairwise_stems_reportedGroups (fields : List Field) (options : RuleOptions) :
    ((reportedGroups fields options).map (·.stem)).Pairwise fun p q => q.length ≤ p.length := by
  unfold reportedGroups
  split
  · exact Group.pairwise_stems_select _ _ _
  · simp

/-- The group of the fields that a stem keeps beside the reported stems. -/
def keptGroup (fields : List Field) (options : RuleOptions) (stem : String) : Group :=
  ⟨stem, kept (Group.stemsOf (reportedGroups fields options)) stem (slots fields)⟩

theorem keptGroup_stem {group : Group} (h : group ∈ reportedGroups fields options) :
    keptGroup fields options group.stem = group := by
  rw [keptGroup, ← members_of_reported h]

theorem map_keptGroup {groups : List Group} (h : groups ⊆ reportedGroups fields options) :
    (groups.map (·.stem)).map (keptGroup fields options) = groups := by
  rw [List.map_map]
  exact (List.map_congr_left fun group hg => keptGroup_stem (h hg)).trans (List.map_id _)

end Reported

/-- The stems that diagnostics are on. -/
abbrev reportedStems (ds : List Diagnostic) : Set String :=
  stemSet (ds.map (·.stem))

/-- The meaning of the rule: there is one diagnostic for each stem of the only report, made of the
fields that the stem keeps, and a field is kept by the longest reported stem that covers it. -/
theorem diagnostics_meaning (fields : List Field) (options : RuleOptions)
    (enabled : options.enabled = true) (positive : 1 ≤ options.minimum) :
    ∃ ds, diagnostics fields options = .ok ds ∧
      (ds.map (·.stem)).Nodup ∧
      IsReport options.minimum options.allowed (slots fields) (reportedStems ds) ∧
      reportedGroups fields options =
        ds.map (fun d => ⟨d.stem, kept (reportedStems ds) d.stem (slots fields)⟩) ∧
      (∀ d ∈ ds,
        d.fields = (kept (reportedStems ds) d.stem (slots fields)).map (·.field.name) ∧
        Group.diagnostic ⟨d.stem, kept (reportedStems ds) d.stem (slots fields)⟩ = .ok d) ∧
      (∀ slot ∈ slots fields, ∀ d ∈ ds,
        (slot ∈ kept (reportedStems ds) d.stem (slots fields) ↔
          Covers d.stem slot.field.name ∧
            ∀ e ∈ ds, Covers e.stem slot.field.name → e.stem.length ≤ d.stem.length) ∧
        ∀ e ∈ ds, slot ∈ kept (reportedStems ds) d.stem (slots fields) →
          slot ∈ kept (reportedStems ds) e.stem (slots fields) → d = e) ∧
      ∀ (reported : Set String) [DecidablePred (· ∈ reported)],
        IsReport options.minimum options.allowed (slots fields) reported →
          reported = reportedStems ds := by
  have hst : (diagnosticsOf (reportedGroups fields options)).map (·.stem) = _ :=
    stems_diagnostics positive
  have hreport := isReport_reportedGroups fields enabled positive
  have hnodup := nodup_stems_reportedGroups fields options
  unfold Group.stemsOf at hreport
  rw [← hst] at hreport hnodup
  refine ⟨_, diagnostics_eq positive, ?_⟩
  refine ⟨hnodup, hreport, ?_, ?_, ?_, ?_⟩
  · have hmap := map_keptGroup (List.Subset.refl (reportedGroups fields options))
    unfold keptGroup Group.stemsOf at hmap
    rw [← hst, List.map_map] at hmap
    exact hmap.symm
  · intro d hd
    obtain ⟨group, hg, hgd⟩ := mem_diagnosticsOf.1 hd
    obtain ⟨_, _, rfl⟩ := Group.diagnostic_eq_ok.1 hgd
    have hm := members_of_reported hg
    unfold Group.stemsOf at hm
    rw [← hst] at hm
    rw [← hm]
    exact ⟨rfl, hgd⟩
  · intro slot hs d hd
    constructor
    · rw [mem_kept, keeps_iff_longest]
      simp [hs]
    · intro e he hkd hke
      have heq := (mem_kept.1 hkd).2.eq (List.mem_map_of_mem hd) (List.mem_map_of_mem he)
        (mem_kept.1 hke).2
      exact List.inj_on_of_nodup_map hnodup hd he heq
  · exact fun reported _ h => h.unique hreport

/-- Fields without a place. -/
def unplaced (names : List String) : List Field :=
  names.map fun name => ⟨name, .handle none⟩

theorem diagnostics_meaning_allowed_between :
    ∃ ds,
      diagnostics (unplaced ["a_b_c_x", "a_b_c_y", "a_b_z", "a__w", "a_v"])
        ⟨2, NameSet.ofList ["a_b"], true⟩ = .ok ds ∧
      ds.map (·.stem) = ["a_b_c", "a"] ∧
      IsReport 2 (NameSet.ofList ["a_b"])
        (slots (unplaced ["a_b_c_x", "a_b_c_y", "a_b_z", "a__w", "a_v"]))
        (stemSet ["a_b_c", "a"]) := by
  obtain ⟨ds, hds, _, hreport, _⟩ :=
    diagnostics_meaning (unplaced ["a_b_c_x", "a_b_c_y", "a_b_z", "a__w", "a_v"])
      ⟨2, NameSet.ofList ["a_b"], true⟩ rfl (by decide)
  have hst : (diagnostics (unplaced ["a_b_c_x", "a_b_c_y", "a_b_z", "a__w", "a_v"])
      ⟨2, NameSet.ofList ["a_b"], true⟩).map (·.map (·.stem)) = .ok ["a_b_c", "a"] := by
    decide +kernel
  rw [hds] at hst
  have hst : ds.map (·.stem) = ["a_b_c", "a"] := Except.ok.inj hst
  exact ⟨ds, hds, hst, hst ▸ hreport⟩

section Frequency

variable {fields : List Field} {options : RuleOptions}

theorem length_covered_slots (stem : String) (fields : List Field) :
    (covered stem (slots fields)).length = fields.countP fun field => Covers stem field.name := by
  rw [covered, ← List.countP_eq_length_filter]
  conv => rhs; rw [← map_field_slots fields, List.countP_map]
  rfl

theorem kept_stemsOf_nil (stem : String) (slots : List Slot) :
    kept (Group.stemsOf []) stem slots = covered stem slots :=
  List.filter_congr fun slot _ => by simp [Keeps]

/-- Nothing is reported iff no stem that is not allowed covers enough fields: the first one to be
reported would keep all that it covers. -/
theorem reportedGroups_eq_nil_iff (enabled : options.enabled = true)
    (positive : 1 ≤ options.minimum) :
    reportedGroups fields options = [] ↔
      ∀ stem, stem ∉ options.allowed →
        ((covered stem (slots fields)).length : Int) < options.minimum := by
  have hreport := isReport_reportedGroups fields enabled positive
  constructor
  · intro hn stem ha
    rw [hn] at hreport
    have hs := hreport stem
    rw [kept_stemsOf_nil] at hs
    by_contra hl
    exact absurd (hs.2 ⟨ha, Int.not_lt.1 hl⟩) (by simp)
  · intro h
    refine List.eq_nil_iff_forall_not_mem.2 fun group hg => ?_
    obtain ⟨ha, hl⟩ := (hreport group.stem).1 (List.mem_map_of_mem hg)
    have hc := h group.stem ha
    rw [← members_of_reported hg] at hl
    have hs : group.members.length ≤ (covered group.stem (slots fields)).length := by
      rw [members_of_reported hg]
      exact (kept_sublist_covered _ _).length_le
    omega

theorem diagnostics_eq_nil_iff (fields : List Field) (enabled : options.enabled = true)
    (positive : 1 ≤ options.minimum) :
    diagnostics fields options = .ok [] ↔
      ∀ stem, stem ∉ options.allowed →
        ((fields.countP fun field => Covers stem field.name : Nat) : Int) < options.minimum := by
  simp only [← length_covered_slots, ← reportedGroups_eq_nil_iff enabled positive]
  rw [diagnostics_eq positive, Except.ok.injEq, ← List.map_eq_nil_iff (f := (·.stem)),
    stems_diagnostics positive, List.map_eq_nil_iff]

theorem diagnostics_eq_nil_of_stricter {stricter : RuleOptions} (enabled : options.enabled = true)
    (positive : 1 ≤ options.minimum) (raised : options.minimum ≤ stricter.minimum)
    (enlarged : ∀ stem ∈ options.allowed, stem ∈ stricter.allowed)
    (clean : diagnostics fields options = .ok []) : diagnostics fields stricter = .ok [] := by
  cases he : stricter.enabled with
  | false => simp [diagnostics, checkFields, reportedGroups, he, deliver]
  | true =>
    rw [diagnostics_eq_nil_iff fields enabled positive] at clean
    rw [diagnostics_eq_nil_iff fields he (Int.le_trans positive raised)]
    intro stem ha
    exact Int.lt_of_lt_of_le (clean stem fun h => ha (enlarged stem h)) raised

end Frequency

/-- Some stem is reported under the second options and not under the first. -/
def ReportsNew (fields : List Field) (options stricter : RuleOptions) : Prop :=
  ∃ ds ds', diagnostics fields options = .ok ds ∧ diagnostics fields stricter = .ok ds' ∧
    ∃ d ∈ ds', d.stem ∉ ds.map (·.stem)

theorem reportsNew_raised :
    ReportsNew (unplaced ["a_b_x", "a_b_y", "a_z"]) ⟨2, NameSet.ofList [], true⟩
      ⟨3, NameSet.ofList [], true⟩ :=
  ⟨_, _, diagnostics_eq (by decide), diagnostics_eq (by decide), by decide +kernel⟩

theorem reportsNew_enlarged :
    ReportsNew (unplaced ["a_b_x", "a_b_y", "a_z"]) ⟨2, NameSet.ofList [], true⟩
      ⟨2, NameSet.ofList ["a_b"], true⟩ :=
  ⟨_, _, diagnostics_eq (by decide), diagnostics_eq (by decide), by decide +kernel⟩

/-- A type is clean iff no stem that is not allowed is frequent, so that it stays clean under
stricter options. Single groups can appear under these: fields that a longer stem no longer takes
are left to a shorter one. -/
theorem diagnostics_nonempty_iff_frequent (fields : List Field) (options : RuleOptions)
    (enabled : options.enabled = true) (positive : 1 ≤ options.minimum) :
    (∃ ds, diagnostics fields options = .ok ds ∧
      (ds ≠ [] ↔ ∃ stem, stem ∉ options.allowed ∧
        options.minimum ≤ fields.countP fun field => Covers stem field.name)) ∧
    (∀ stricter : RuleOptions, options.minimum ≤ stricter.minimum →
      (∀ stem ∈ options.allowed, stem ∈ stricter.allowed) →
      diagnostics fields options = .ok [] → diagnostics fields stricter = .ok []) ∧
    (∃ sample loose minimum, loose.enabled = true ∧ 1 ≤ loose.minimum ∧
      loose.minimum ≤ minimum ∧ ReportsNew sample loose ⟨minimum, loose.allowed, true⟩) ∧
    ∃ sample loose allowed, loose.enabled = true ∧ 1 ≤ loose.minimum ∧
      (∀ stem ∈ loose.allowed, stem ∈ allowed) ∧
        ReportsNew sample loose ⟨loose.minimum, allowed, true⟩ := by
  refine ⟨⟨_, diagnostics_eq positive, ?_⟩, ?_, ?_, ?_⟩
  · have hiff := diagnostics_eq_nil_iff fields enabled positive
    rw [diagnostics_eq positive, Except.ok.injEq] at hiff
    rw [Ne, hiff]
    simp only [not_forall, exists_prop, Int.not_lt]
  · intro stricter raised enlarged clean
    exact diagnostics_eq_nil_of_stricter enabled positive raised enlarged clean
  · exact ⟨_, _, 3, rfl, by decide, by decide, reportsNew_raised⟩
  · exact ⟨_, _, NameSet.ofList ["a_b"], rfl, by decide, by simp, reportsNew_enlarged⟩

theorem diagnostics_nonempty_shared_stem :
    ∃ ds, diagnostics (unplaced ["a_b_x", "a_c_y", "a__z"]) ⟨3, NameSet.ofList ["a_b"], true⟩ =
      .ok ds ∧ ds ≠ [] := by
  obtain ⟨⟨ds, hds, hiff⟩, _⟩ :=
    diagnostics_nonempty_iff_frequent (unplaced ["a_b_x", "a_c_y", "a__z"])
      ⟨3, NameSet.ofList ["a_b"], true⟩ rfl (by decide)
  exact ⟨ds, hds, hiff.2 ⟨"a", by simp, by decide +kernel⟩⟩

end FieldGrouping
