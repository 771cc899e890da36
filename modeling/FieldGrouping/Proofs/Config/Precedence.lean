import FieldGrouping.Proofs.Config.Spelling
import FieldGrouping.Proofs.Text.NameLists

/-!
Options on a command line come before the table of the rule. What a check gives for an option hides
all that the table has for it, in either spelling; stems that are given without clearing the others
are added at the end and change nothing else.
-/

set_option autoImplicit false

namespace FieldGrouping

/-- Settings with further stems allowed. -/
def Settings.allow (settings : Settings) (stems : List String) : Settings :=
  { settings with
    rule := { settings.rule with
      allowed := settings.rule.allowed.union (NameSet.ofList (Text.trimAll stems)) } }

theorem Settings.mem_allow {settings : Settings} {stems : List String} {stem : String} :
    stem ∈ (settings.allow stems).rule.allowed ↔
      stem ∈ settings.rule.allowed ∨ stem ≠ "" ∧ ∃ text ∈ stems, Text.trim text = stem := by
  rw [Settings.allow, NameSet.mem_union, NameSet.mem_ofList, Text.mem_trimAll]

namespace Config

/-! ### Tables that agree beside an option -/

/-- The entries of a table that are not for an option. -/
def RuleKey.without (key : RuleKey) (table : Table) : Table :=
  table.filter fun entry => entry.1 ≠ key.capital ∧ entry.1 ≠ key.plain

/-- Two configurations that differ at most in what the table of the rule has for an option. -/
structure AgreeBeside (key : RuleKey) (data data' : Table) : Prop where
  rule : key.without (ruleSection data) = key.without (ruleSection data')
  others : ∀ name ∉ ruleSectionNames, data.get? name = data'.get? name

theorem ruleSection_put (data entries : Table) :
    ruleSection (data.put "extract_type" (.table entries)) = entries := by
  simp [ruleSection, ruleSectionNames, Table.get?_put_self]

/-- The table of the rule may be written anew. -/
theorem agreeBeside_put {key : RuleKey} {data entries : Table}
    (h : key.without (ruleSection data) = key.without entries) :
    AgreeBeside key data (data.put "extract_type" (.table entries)) where
  rule := by rw [ruleSection_put, h]
  others name hname := by
    have hne : name ≠ "extract_type" := fun heq => hname (by simp [heq, ruleSectionNames])
    rw [Table.get?_put_of_ne hne]

theorem RuleKey.last?_without {key other : RuleKey} (h : other ≠ key) (table : Table) :
    other.last? (key.without table) = other.last? table := by
  -- An entry for the one option is never left out for being one for the other.
  have hkept (entry : String × Value) (he : capitalKey entry.1 = other.capital) :
      entry.1 ≠ key.capital ∧ entry.1 ≠ key.plain := by
    have hne : capitalKey entry.1 ≠ key.capital := by
      rw [he]
      exact fun heq => h (RuleKey.capital_injective heq)
    rwa [Ne, RuleKey.capitalKey_eq_capital_iff, not_or] at hne
  have hpred (entry : String × Value) :
      ((entry.1 ≠ key.capital ∧ entry.1 ≠ key.plain) ∧ capitalKey entry.1 = other.capital) ↔
        capitalKey entry.1 = other.capital :=
    and_iff_right_of_imp (hkept entry)
  simp only [RuleKey.last?, RuleKey.without, ← List.filter_reverse, List.find?_filter,
    decide_eq_true_eq, hpred]

theorem AgreeBeside.last?_eq {key other : RuleKey} {data data' : Table}
    (h : AgreeBeside key data data') (hne : other ≠ key) :
    other.last? (ruleSection data) = other.last? (ruleSection data') := by
  rw [← RuleKey.last?_without hne, h.rule, RuleKey.last?_without hne]

/-! ### What settings depend on -/

section Dependence

variable {table table' data data' overrides : Table} {extra : List String}

theorem ruleOptions_congr (h : ∀ key : RuleKey, key.find? table = key.find? table') :
    ruleOptions table = ruleOptions table' := by
  simp only [ruleOptions, readOption, h]

theorem namesUnder_congr {key : String} (default : List String)
    (h : data.get? key = data'.get? key) :
    namesUnder key default data = namesUnder key default data' := by
  simp only [namesUnder, h]

theorem settings_congr
    (rule : ∀ key : RuleKey, key.find? (effectiveSection data overrides) =
      key.find? (effectiveSection data' overrides))
    (others : ∀ name ∉ ruleSectionNames, data.get? name = data'.get? name) :
    settings data overrides extra = settings data' overrides extra := by
  unfold settings
  rw [ruleOptions_congr rule, namesUnder_congr _ (others "exclude" (by decide)),
    namesUnder_congr _ (others "base_classes" (by decide)),
    namesUnder_congr _ (others "decorators" (by decide))]

theorem settings_extra (data overrides : Table) (extra : List String) :
    settings data overrides extra = (settings data overrides []).map (·.allow extra) := by
  have hnil (allowed : NameSet) : allowed.union (NameSet.ofList (Text.trimAll [])) = allowed :=
    union_ofList_nil allowed
  unfold settings
  cases ruleOptions (effectiveSection data overrides) with
  | error error => rfl
  | ok rule =>
    cases namesUnder "exclude" defaultExcluded data with
    | error error => rfl
    | ok excluded =>
      cases namesUnder "base_classes" Source.defaultBaseClasses data with
      | error error => rfl
      | ok baseClasses =>
        cases namesUnder "decorators" Source.defaultDecorators data with
        | error error => rfl
        | ok decorators =>
          simp only [bind, Except.bind, pure, Except.pure, Except.map, Settings.allow, hnil]

end Dependence

theorem RuleKey.find?_put_of_ne {key other : RuleKey} {spelling : String}
    (hspelling : capitalKey spelling = key.capital) (h : other ≠ key) (value : Value)
    (table : Table) : other.find? (table.put spelling value) = other.find? table := by
  have hcapital : other.capital ≠ spelling := by
    rintro rfl
    exact h (RuleKey.capital_injective (other.capitalKey_capital.symm.trans hspelling))
  have hplain : other.plain ≠ spelling := by
    rintro rfl
    exact h (RuleKey.capital_injective (other.capitalKey_plain.symm.trans hspelling))
  rw [RuleKey.find?, RuleKey.find?, Table.get?_put_of_ne hcapital, Table.get?_put_of_ne hplain]

theorem RuleKey.find?_put (key other : RuleKey) (value : Value) (table : Table) :
    other.find? (table.put key.capital value) =
      if other = key then some (key.capital, value) else other.find? table := by
  by_cases h : other = key
  · subst h
    simp [RuleKey.find?, Table.get?_put_self]
  · rw [RuleKey.find?_put_of_ne key.capitalKey_capital h, if_neg h]

theorem textItems_map_text (texts : List String) : textItems (texts.map .text) = .ok texts := by
  induction texts with
  | nil => rfl
  | cons text texts ih => simp [textItems, ih, Except.map]

end Config

namespace Command

open Config

/-- The settings of a check over a configuration. -/
def checkSettings (data : Table) (request : CheckRequest) : Except ConfigError Settings :=
  settings data (overrides request) (extraStems request)

/-- What a check gives for an option of the rule. -/
def given? (request : CheckRequest) : RuleKey → Option Value
  | .enabled => none
  | .minimum => request.minimum.map .int
  | .allowed => if request.clearStems then some (.list (request.stems.map .text)) else none

section Given

variable {data data' : Table} {request : CheckRequest}

/-- An option has the value that is given for it, else the one written last in the table. -/
theorem find?_effectiveSection (data : Table) (request : CheckRequest) (key : RuleKey) :
    key.find? (effectiveSection data (overrides request)) =
      ((given? request key).or (key.last? (ruleSection data))).map (key.capital, ·) := by
  have hsection : effectiveSection data (overrides request) =
      overlay (overrides request) (capitalKeys (ruleSection data)) := rfl
  rw [hsection, overrides]
  cases hm : request.minimum <;> cases hc : request.clearStems <;> cases key <;>
    simp [overlay, given?, hm, hc, RuleKey.find?_put, find?_capitalKeys]

theorem find?_of_given {key : RuleKey} {value : Value} (h : given? request key = some value)
    (data : Table) :
    key.find? (effectiveSection data (overrides request)) = some (key.capital, value) := by
  rw [find?_effectiveSection, h]
  rfl

theorem checkSettings_eq_of_given {key : RuleKey} {value : Value}
    (given : given? request key = some value) (agree : AgreeBeside key data data') :
    checkSettings data' request = checkSettings data request := by
  refine (settings_congr (fun other => ?_) agree.others).symm
  by_cases h : other = key
  · subst h
    rw [find?_of_given given, find?_of_given given]
  · rw [find?_effectiveSection, find?_effectiveSection, agree.last?_eq h]

theorem minimum_of_given {n : Int} (given : request.minimum = some n) {built : Settings}
    (h : checkSettings data request = .ok built) : built.rule.minimum = n := by
  obtain ⟨rule, hrule, hbuilt⟩ := exists_ruleOptions_of_settings h
  have hgiven : given? request .minimum = some (.int n) := by simp [given?, given]
  have hread := (ruleOptions_eq_ok_iff.1 hrule).2.1
  rw [readOption_eq_ok_iff (find?_of_given hgiven data), asMinimum] at hread
  rw [hbuilt]
  split at hread
  · cases hread
  · exact (Except.ok.inj hread).symm

theorem allowed_of_cleared (cleared : request.clearStems = true) {built : Settings}
    (h : checkSettings data request = .ok built) :
    built.rule.allowed = NameSet.ofList (Text.trimAll request.stems) := by
  have hextra : extraStems request = [] := by simp [extraStems, cleared]
  rw [checkSettings, hextra] at h
  have hgiven : given? request .allowed = some (.list (request.stems.map .text)) := by
    simp [given?, cleared]
  have hread := (ruleOptions_eq_ok_iff.1 (ruleOptions_of_settings h)).2.2
  rw [readOption_eq_ok_iff (find?_of_given hgiven data), asNames, textItems_map_text] at hread
  exact (Except.ok.inj hread).symm

theorem checkSettings_stems (kept : request.clearStems = false) (data : Table) :
    checkSettings data request =
      (checkSettings data { request with stems := [] }).map (·.allow request.stems) := by
  have hoverrides : overrides { request with stems := [] } = overrides request := by
    simp [overrides, kept]
  have hnone : extraStems { request with stems := [] } = [] := by simp [extraStems]
  have hall : extraStems request = request.stems := by simp [extraStems, kept]
  rw [checkSettings, checkSettings, hoverrides, hnone, hall]
  exact settings_extra data (overrides request) request.stems

end Given

/-- A minimum that is given, and stems that are given with all others cleared, are what is used,
and nothing the table has for them is looked at, whether it could be read or not. Stems that are
given without clearing the others are allowed as well, and all else is as it is without them. -/
theorem options_precede_table (data : Table) (request : CheckRequest) :
    (∀ n, request.minimum = some n →
      (∀ data', AgreeBeside .minimum data data' →
        checkSettings data' request = checkSettings data request) ∧
      ∀ built, checkSettings data request = .ok built → built.rule.minimum = n) ∧
    (request.clearStems = true →
      (∀ data', AgreeBeside .allowed data data' →
        checkSettings data' request = checkSettings data request) ∧
      ∀ built, checkSettings data request = .ok built → ∀ stem,
        stem ∈ built.rule.allowed ↔ stem ≠ "" ∧ ∃ text ∈ request.stems, Text.trim text = stem) ∧
    (request.clearStems = false →
      checkSettings data request =
        (checkSettings data { request with stems := [] }).map (·.allow request.stems) ∧
      ∀ (bare : Settings) (stem : String),
        stem ∈ (bare.allow request.stems).rule.allowed ↔
          stem ∈ bare.rule.allowed ∨ stem ≠ "" ∧ ∃ text ∈ request.stems, Text.trim text = stem) := by
  refine ⟨fun n given => ⟨fun data' agree => ?_, fun built h => ?_⟩,
    fun cleared => ⟨fun data' agree => ?_, fun built h stem => ?_⟩,
    fun kept => ⟨checkSettings_stems kept data, fun bare stem => Settings.mem_allow⟩⟩
  · have hgiven : given? request .minimum = some (.int n) := by simp [given?, given]
    exact checkSettings_eq_of_given hgiven agree
  · exact minimum_of_given given h
  · have hgiven : given? request .allowed = some (.list (request.stems.map .text)) := by
      simp [given?, cleared]
    exact checkSettings_eq_of_given hgiven agree
  · rw [allowed_of_cleared cleared h, NameSet.mem_ofList, Text.mem_trimAll]

/-- A check of the root folder with options of the rule. -/
def rootCheck (minimum : Option Int) (stems : List String) (clearStems : Bool) : CheckRequest :=
  ⟨[], ⟨⟨[]⟩, none⟩, minimum, stems, clearStems, "text", true⟩

/-- A configuration that has nothing readable for two options, one of them in both spellings. -/
def unreadable : Table :=
  [("extract_type", .table
    [("MaxFields", .int 0), ("prefixes", .list [.int 1]), ("max_fields", .text "3")])]

theorem options_precede_table_unreadable :
    (∃ built,
      checkSettings unreadable (rootCheck (some 2) [" a ", " ", "b"] true) = .ok built ∧
      checkSettings (unreadable.put "extract_type" (.table [("prefixes", .list [.int 1])]))
        (rootCheck (some 2) [" a ", " ", "b"] true) = .ok built ∧
      checkSettings
        (unreadable.put "extract_type" (.table [("MaxFields", .int 0), ("max_fields", .text "3")]))
        (rootCheck (some 2) [" a ", " ", "b"] true) = .ok built ∧
      built.rule.minimum = 2 ∧ ∀ stem, stem ∈ built.rule.allowed ↔ stem = "a" ∨ stem = "b") ∧
    ∃ built,
      checkSettings [] (rootCheck none [" a ", " "] false) = .ok built ∧
      ∀ stem, stem ∈ built.rule.allowed ↔ stem ∈ defaultAllowed ∨ stem = "a" := by
  have htrim : Text.trim " a " = "a" ∧ Text.trim " " = "" ∧ Text.trim "b" = "b" := by
    decide +kernel
  constructor
  · obtain ⟨hminimum, hcleared, _⟩ :=
      options_precede_table unreadable (rootCheck (some 2) [" a ", " ", "b"] true)
    obtain ⟨hsame, hn⟩ := hminimum 2 rfl
    obtain ⟨hsame', hstems⟩ := hcleared rfl
    have hsome : (checkSettings unreadable
        (rootCheck (some 2) [" a ", " ", "b"] true)).toOption.isSome = true := by decide +kernel
    obtain ⟨built, hbuilt⟩ := Option.isSome_iff_exists.1 hsome
    have hok := toOption_eq_some_iff.1 hbuilt
    refine ⟨built, hok, ?_, ?_, hn built hok, fun stem => ?_⟩
    · exact (hsame _ (agreeBeside_put rfl)).trans hok
    · exact (hsame' _ (agreeBeside_put rfl)).trans hok
    · rw [hstems built hok stem]
      simp only [rootCheck, List.mem_cons, List.not_mem_nil, or_false, exists_eq_or_imp,
        exists_eq_left, htrim]
      grind
  · obtain ⟨_, _, hkept⟩ := options_precede_table [] (rootCheck none [" a ", " "] false)
    obtain ⟨hmap, hstems⟩ := hkept rfl
    have hbare : checkSettings [] (rootCheck none [] false) = .ok Settings.default := by rfl
    refine ⟨Settings.default.allow [" a ", " "], ?_, fun stem => ?_⟩
    · exact hmap.trans (congrArg (Except.map _) hbare)
    · have hallowed : stem ∈ Settings.default.rule.allowed ↔ stem ∈ defaultAllowed :=
        NameSet.mem_ofList
      refine (hstems Settings.default stem).trans ?_
      simp only [rootCheck, List.mem_cons, List.not_mem_nil, or_false, exists_eq_or_imp,
        exists_eq_left, htrim, hallowed]
      grind

end Command

end FieldGrouping
