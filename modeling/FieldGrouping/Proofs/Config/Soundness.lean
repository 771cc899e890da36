import FieldGrouping.Proofs.Config.Spelling
import FieldGrouping.Proofs.Rule.Report
import FieldGrouping.Proofs.Text.NameLists

/-!
What is known of settings that were built, whatever they were built from. Every value that gets
into them has passed the reader of its option or is a default, so that the rule can be run with
them on all fields. Settings that were not built come with an error, and what that error is about
is there.
-/

set_option autoImplicit false

namespace FieldGrouping

/-- A name that can stand in a list with commas. -/
structure Listable (name : String) : Prop where
  trimmed : Text.Trimmed name
  noComma : ',' ∉ name.toList

/-- What holds of settings that were built. -/
structure Settings.WellFormed (settings : Settings) : Prop where
  minimum : 1 ≤ settings.rule.minimum
  allowed : ∀ stem ∈ settings.rule.allowed, Text.Trimmed stem
  excluded : ∀ name ∈ settings.excluded, Listable name
  baseClasses : ∀ name ∈ settings.recognition.baseClasses, Listable name
  decorators : ∀ name ∈ settings.recognition.decorators, Listable name

namespace Config

/-! ### Options that were read -/

section Options

variable {α : Type} {key : RuleKey} {read : Value → Except OptionFault α} {default : α}
variable {table : Table}

/-- What holds of a default and of all that is read holds of an option. -/
theorem readOption_invariant {P : α → Prop} (hdefault : P default)
    (hread : ∀ value a, read value = .ok a → P a) {a : α}
    (h : readOption key read default table = .ok a) : P a := by
  unfold readOption at h
  split at h
  · exact Except.ok.inj h ▸ hdefault
  · next spelling value _ => exact hread value a (mapError_eq_ok_iff.1 h)

theorem readOption_eq_error_iff {error : ConfigError} :
    readOption key read default table = .error error ↔
      ∃ spelling value fault, key.find? table = some (spelling, value) ∧
        read value = .error fault ∧ error = .invalidOption spelling fault := by
  unfold readOption
  cases key.find? table with
  | none => simp
  | some found =>
    obtain ⟨spelling, value⟩ := found
    simp only [mapError_eq_error_iff, Option.some.injEq, Prod.mk.injEq]
    constructor
    · rintro ⟨fault, hfault, rfl⟩
      exact ⟨spelling, value, fault, ⟨rfl, rfl⟩, hfault, rfl⟩
    · rintro ⟨_, _, fault, ⟨rfl, rfl⟩, hfault, rfl⟩
      exact ⟨fault, hfault, rfl⟩

end Options

theorem one_le_of_asMinimum {value : Value} {n : Int} (h : asMinimum value = .ok n) : 1 ≤ n := by
  cases value with
  | int m =>
    rw [asMinimum] at h
    split at h
    · cases h
    · cases h
      omega
  | _ => cases h

theorem trimmed_of_asNames {value : Value} {names : List String} (h : asNames value = .ok names) :
    ∀ name ∈ names, Text.Trimmed name := by
  intro name hname
  cases value with
  | text text =>
    cases h
    exact Text.trimmed_of_mem_trimAll hname
  | list items =>
    obtain ⟨texts, _, rfl⟩ := map_eq_ok_iff.1 h
    exact Text.trimmed_of_mem_trimAll hname
  | _ => cases h

theorem trimmed_defaultAllowed : ∀ name ∈ defaultAllowed, Text.Trimmed name := by
  have hnames : Text.trimAll defaultAllowed = defaultAllowed := by decide +kernel
  intro name hname
  rw [← hnames] at hname
  exact Text.trimmed_of_mem_trimAll hname

theorem ruleOptions_invariant {table : Table} {rule : RuleOptions}
    (h : ruleOptions table = .ok rule) :
    1 ≤ rule.minimum ∧ ∀ stem ∈ rule.allowed, Text.Trimmed stem := by
  obtain ⟨_, hminimum, hallowed⟩ := ruleOptions_eq_ok_iff.1 h
  constructor
  · exact readOption_invariant (P := (1 ≤ ·)) (by decide) (fun _ _ => one_le_of_asMinimum) hminimum
  · refine readOption_invariant (P := fun set : NameSet => ∀ stem ∈ set, Text.Trimmed stem)
      ?_ (fun value set hset => ?_) hallowed
    · intro stem hstem
      exact trimmed_defaultAllowed stem (NameSet.mem_ofList.1 hstem)
    · obtain ⟨names, hnames, rfl⟩ := map_eq_ok_iff.1 hset
      intro stem hstem
      exact trimmed_of_asNames hnames stem (NameSet.mem_ofList.1 hstem)

/-! ### Lists of names -/

theorem listable_of_mem_commaList {name text : String} (h : name ∈ Text.commaList text) :
    Listable name :=
  ⟨Text.trimmed_of_mem_trimAll h, Text.comma_notMem_of_mem_commaList h⟩

theorem listable_of_mem_namesInItems {name : String} {items : List Value}
    (h : name ∈ namesInItems items) : Listable name := by
  induction items with
  | nil => simp [namesInItems] at h
  | cons item items ih =>
    cases item with
    | text text =>
      rcases List.mem_append.1 h with h | h
      · exact listable_of_mem_commaList h
      · exact ih h
    | _ => exact ih h

theorem listable_of_mem_nameList {name : String} {value : Value} (h : name ∈ nameList value) :
    Listable name := by
  cases value with
  | text text => exact listable_of_mem_commaList h
  | list items => exact listable_of_mem_namesInItems h
  | _ => simp [nameList] at h

/-- Names that can be read back from their list with commas. -/
theorem listable_of_commaList {names : List String}
    (h : Text.commaList (",".intercalate names) = names) : ∀ name ∈ names, Listable name := by
  intro name hname
  rw [← h] at hname
  exact listable_of_mem_commaList hname

theorem listable_of_namesUnder {key : String} {default names : List String} {data : Table}
    (hdefault : ∀ name ∈ default, Listable name) (h : namesUnder key default data = .ok names) :
    ∀ name ∈ names, Listable name := by
  unfold namesUnder at h
  split at h
  · cases h
    exact hdefault
  · split at h
    · cases h
      exact fun name => listable_of_mem_nameList
    · cases h

theorem exists_of_namesUnder_eq_error {key : String} {default : List String} {data : Table}
    {error : ConfigError} (h : namesUnder key default data = .error error) :
    ∃ value, data.get? key = some value ∧ value.hasNames = false ∧ error = .notNames key := by
  unfold namesUnder at h
  split at h
  · cases h
  · next value hfound =>
    split at h
    · cases h
    · next hnames =>
      cases h
      exact ⟨value, hfound, by simpa using hnames, rfl⟩

/-! ### Settings -/

/-- The keys of the lists of names. -/
def nameKeys : List String := ["exclude", "base_classes", "decorators"]

/-- Whether the reader of an option gives a fault for a value. -/
def RuleKey.Refuses : RuleKey → Value → OptionFault → Prop
  | .enabled, value, fault => asTruth value = .error fault
  | .minimum, value, fault => asMinimum value = .error fault
  | .allowed, value, fault => asNames value = .error fault

/-- An error is about something that is there: an option with a value that its reader refuses, or a
list of names that is none. -/
inductive Blames (data overrides : Table) : ConfigError → Prop where
  | option (key : RuleKey) {spelling : String} {value : Value} {fault : OptionFault}
      (found : key.find? (effectiveSection data overrides) = some (spelling, value))
      (refused : key.Refuses value fault) : Blames data overrides (.invalidOption spelling fault)
  | names {key : String} {value : Value} (known : key ∈ nameKeys)
      (found : data.get? key = some value) (refused : value.hasNames = false) :
      Blames data overrides (.notNames key)

section Settings

variable {data overrides : Table} {extra : List String}

theorem blames_of_ruleOptions {error : ConfigError}
    (h : ruleOptions (effectiveSection data overrides) = .error error) :
    Blames data overrides error := by
  simp only [ruleOptions, bind_eq_error_iff] at h
  rcases h with h | ⟨_, _, h | ⟨_, _, h | ⟨_, _, h⟩⟩⟩
  · obtain ⟨_, _, _, hfound, hfault, rfl⟩ := readOption_eq_error_iff.1 h
    exact .option .enabled hfound hfault
  · obtain ⟨_, _, _, hfound, hfault, rfl⟩ := readOption_eq_error_iff.1 h
    exact .option .minimum hfound hfault
  · obtain ⟨_, _, _, hfound, hfault, rfl⟩ := readOption_eq_error_iff.1 h
    exact .option .allowed hfound (map_eq_error_iff.1 hfault)
  · cases h

theorem blames_of_namesUnder {key : String} (known : key ∈ nameKeys) {default : List String}
    {error : ConfigError} (h : namesUnder key default data = .error error) :
    Blames data overrides error := by
  obtain ⟨_, hfound, hrefused, rfl⟩ := exists_of_namesUnder_eq_error h
  exact .names known hfound hrefused

theorem blames_of_settings {error : ConfigError}
    (h : settings data overrides extra = .error error) : Blames data overrides error := by
  simp only [settings, bind_eq_error_iff] at h
  rcases h with h | ⟨_, _, h | ⟨_, _, h | ⟨_, _, h | ⟨_, _, h⟩⟩⟩⟩
  · exact blames_of_ruleOptions h
  · exact blames_of_namesUnder (by decide) h
  · exact blames_of_namesUnder (by decide) h
  · exact blames_of_namesUnder (by decide) h
  · cases h

theorem wellFormed_of_settings {built : Settings}
    (h : settings data overrides extra = .ok built) : built.WellFormed := by
  simp only [settings, bind_eq_ok_iff] at h
  obtain ⟨rule, hrule, excluded, hexcluded, baseClasses, hbaseClasses, decorators, hdecorators,
    hbuilt⟩ := h
  cases hbuilt
  obtain ⟨hminimum, hallowed⟩ := ruleOptions_invariant hrule
  constructor
  · exact hminimum
  · intro stem hstem
    rcases NameSet.mem_union.1 hstem with hstem | hstem
    · exact hallowed stem hstem
    · exact Text.trimmed_of_mem_trimAll (NameSet.mem_ofList.1 hstem)
  · intro name hname
    exact listable_of_namesUnder (listable_of_commaList (by decide +kernel)) hexcluded name
      (NameSet.mem_ofList.1 hname)
  · exact listable_of_namesUnder (listable_of_commaList (by decide +kernel)) hbaseClasses
  · exact listable_of_namesUnder (listable_of_commaList (by decide +kernel)) hdecorators

end Settings

/-- Settings that are built are well-formed, and the rule can be run with them: it comes to its end
on all fields and reports only what it should. If none are built there is an error, about
something in the configuration. -/
theorem settings_safe (data overrides : Table) (extra : List String) :
    (∀ built, settings data overrides extra = .ok built →
      built.WellFormed ∧
      ∀ fields, (checkFields fields built.rule).fault = none ∧
        ∀ d ∈ (checkFields fields built.rule).delivered,
          built.rule.minimum ≤ d.fields.length ∧ d.fields.Sublist (fields.map (·.name)) ∧
            d.stem ∉ built.rule.allowed) ∧
    ((¬ ∃ built, settings data overrides extra = .ok built) →
      ∃ error, settings data overrides extra = .error error ∧ Blames data overrides error) := by
  refine ⟨fun built h => ?_, fun h => ?_⟩
  · have hbuilt := wellFormed_of_settings h
    exact ⟨hbuilt, checkFields_of_positive hbuilt.minimum⟩
  · cases hsettings : settings data overrides extra with
    | ok built => exact absurd ⟨built, hsettings⟩ h
    | error error => exact ⟨error, rfl, blames_of_settings hsettings⟩

/-- A text of names and a minimum in the plain spelling, under options that keep the minimum and
have a plain spelling themselves; and a list of names that is a number. -/
theorem settings_safe_merged :
    (∃ built,
      settings [("exclude", .text " a ,, b "),
          ("GraphQL/ExtractType", .table [("max_fields", .int 3)])]
        [("prefixes", .list [.text " x ", .text " "]), ("MaxFields", .absent)] [" y "] =
          .ok built ∧
      built.WellFormed ∧ built.rule.minimum = 3 ∧
      (checkFields (unplaced ["x_a", "x_b", "x_c"]) built.rule).fault = none) ∧
    ∃ error, settings [("exclude", .int 3)] [] [] = .error error ∧
      Blames [("exclude", .int 3)] [] error := by
  constructor
  · have hminimum : (settings [("exclude", .text " a ,, b "),
          ("GraphQL/ExtractType", .table [("max_fields", .int 3)])]
        [("prefixes", .list [.text " x ", .text " "]), ("MaxFields", .absent)]
        [" y "]).toOption.map (·.rule.minimum) = some 3 := by decide +kernel
    obtain ⟨built, hbuilt, hthree⟩ := Option.map_eq_some_iff.1 hminimum
    have hok := toOption_eq_some_iff.1 hbuilt
    obtain ⟨hformed, hrule⟩ := (settings_safe _ _ _).1 built hok
    exact ⟨built, hok, hformed, hthree, (hrule _).1⟩
  · refine (settings_safe _ _ _).2 ?_
    rintro ⟨built, hbuilt⟩
    have hnone : (settings [("exclude", .int 3)] [] []).toOption.isNone = true := by
      decide +kernel
    rw [hbuilt] at hnone
    cases hnone

end Config

end FieldGrouping
