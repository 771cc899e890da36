import FieldGrouping.Command.Run
import FieldGrouping.Proofs.Fallible
import FieldGrouping.Proofs.Sorting
import Mathlib.Data.List.Nodup

/-!
The two spellings of an option. A table that is read as it stands has its options looked up under
the capital spelling first; a table that options are written over has all its keys brought to that
spelling, where the entry written last counts. The two ways give an option the same value unless
its plain spelling comes, with another meaning, after the capital one.
-/

set_option autoImplicit false

namespace FieldGrouping.Config

/-- A table in which no key is written twice. -/
def Table.Distinct (table : Table) : Prop :=
  (table.map (·.1)).Nodup

instance (table : Table) : Decidable table.Distinct :=
  inferInstanceAs (Decidable (List.Nodup _))

theorem Table.Distinct.get?_eq_some_iff {table : Table} (distinct : table.Distinct) {key : String}
    {value : Value} : table.get? key = some value ↔ (key, value) ∈ table := by
  constructor
  · intro h
    obtain ⟨before, after, rfl, _⟩ := List.lookup_eq_some_iff.1 h
    simp
  · intro h
    cases hg : table.get? key with
    | none =>
      have hne := List.lookup_eq_none_iff.1 hg _ h
      simp at hne
    | some other =>
      obtain ⟨before, after, he, _⟩ := List.lookup_eq_some_iff.1 hg
      have hm : (key, other) ∈ table := by simp [he]
      have heq := List.inj_on_of_nodup_map distinct hm h rfl
      rw [(Prod.mk.inj heq).2]

theorem Table.get?_eq_none_iff {table : Table} {key : String} :
    table.get? key = none ↔ ∀ entry ∈ table, entry.1 ≠ key := by
  refine List.lookup_eq_none_iff.trans (forall₂_congr fun entry _ => ?_)
  rw [bne_iff_ne, ne_comm]

namespace RuleKey

theorem capital_injective : Function.Injective capital := by
  intro key other
  cases key <;> cases other <;> decide

theorem capital_ne_plain (key other : RuleKey) : key.capital ≠ other.plain := by
  cases key <;> cases other <;> decide

theorem capitalKey_capital (key : RuleKey) : capitalKey key.capital = key.capital := by
  cases key <;> decide

theorem capitalKey_plain (key : RuleKey) : capitalKey key.plain = key.capital := by
  cases key <;> decide

theorem capitalKey_ne_plain (key : RuleKey) (name : String) : capitalKey name ≠ key.plain := by
  unfold capitalKey
  split_ifs with he hm ha
  · exact capital_ne_plain _ _
  · exact capital_ne_plain _ _
  · exact capital_ne_plain _ _
  · cases key with
    | enabled => exact he
    | minimum => exact hm
    | allowed => exact ha

theorem capitalKey_eq_capital_iff {key : RuleKey} {name : String} :
    capitalKey name = key.capital ↔ name = key.capital ∨ name = key.plain := by
  constructor
  · intro h
    unfold capitalKey at h
    split_ifs at h with he hm ha
    · exact .inr (capital_injective h ▸ he)
    · exact .inr (capital_injective h ▸ hm)
    · exact .inr (capital_injective h ▸ ha)
    · exact .inl h
  · rintro (rfl | rfl)
    · exact key.capitalKey_capital
    · exact key.capitalKey_plain

/-- The value that is written last under a spelling of an option. -/
def last? (key : RuleKey) (table : Table) : Option Value :=
  (table.reverse.find? fun entry => capitalKey entry.1 = key.capital).map (·.2)

end RuleKey

/-- Going through more entries: the last one under a key counts. -/
theorem get?_foldl_put (table done : Table) (key : String) :
    Table.get? (table.foldl (fun done entry => done.put (capitalKey entry.1) entry.2) done) key =
      ((table.reverse.find? fun entry => capitalKey entry.1 = key).map (·.2)).or
        (done.get? key) := by
  induction table generalizing done with
  | nil => simp
  | cons entry table ih =>
    rw [List.foldl_cons, ih, List.reverse_cons, List.find?_append]
    by_cases h : capitalKey entry.1 = key
    · subst h
      rw [Table.get?_put_self]
      cases table.reverse.find? _ <;> simp
    · rw [Table.get?_put_of_ne (Ne.symm h)]
      cases table.reverse.find? _ <;> simp [h]

theorem find?_capitalKeys (key : RuleKey) (table : Table) :
    key.find? (capitalKeys table) = (key.last? table).map (key.capital, ·) := by
  have hcapital : Table.get? (capitalKeys table) key.capital = key.last? table := by
    rw [capitalKeys, get?_foldl_put, Table.get?_nil, Option.or_none]
    rfl
  have hplain : Table.get? (capitalKeys table) key.plain = none := by
    rw [capitalKeys, get?_foldl_put, Table.get?_nil, Option.or_none]
    simp [key.capitalKey_ne_plain]
  rw [RuleKey.find?, hcapital, hplain]
  cases key.last? table <;> rfl

/-! ### Values that count -/

/-- Whether two values mean the same for an option. -/
def RuleKey.ReadAlike : RuleKey → Value → Value → Prop
  | .enabled, v, w => asTruth v = asTruth w
  | .minimum, v, w => asMinimum v = asMinimum w
  | .allowed, v, w => (asNames v).map NameSet.ofList = (asNames w).map NameSet.ofList

instance (key : RuleKey) (v w : Value) : Decidable (key.ReadAlike v w) :=
  match key with
  | .enabled => inferInstanceAs (Decidable (asTruth v = asTruth w))
  | .minimum => inferInstanceAs (Decidable (asMinimum v = asMinimum w))
  | .allowed =>
    inferInstanceAs (Decidable ((asNames v).map NameSet.ofList = (asNames w).map NameSet.ofList))

theorem RuleKey.ReadAlike.refl (key : RuleKey) (value : Value) : key.ReadAlike value value := by
  cases key <;> rfl

/-- An option is written over in its own table if the plain spelling follows the capital one and
means something else. -/
def RuleKey.Overwritten (key : RuleKey) (table : Table) : Prop :=
  ∃ before v between w after,
    table = before ++ (key.capital, v) :: (between ++ (key.plain, w) :: after) ∧
      ¬ key.ReadAlike v w

section Values

variable {key : RuleKey} {table : Table}

theorem RuleKey.last?_eq_none_iff :
    key.last? table = none ↔ table.get? key.capital = none ∧ table.get? key.plain = none := by
  simp only [RuleKey.last?, Option.map_eq_none_iff, List.find?_eq_none, List.mem_reverse,
    decide_eq_true_eq, RuleKey.capitalKey_eq_capital_iff, Table.get?_eq_none_iff, not_or]
  exact ⟨fun h => ⟨fun e he => (h e he).1, fun e he => (h e he).2⟩,
    fun h e he => ⟨h.1 e he, h.2 e he⟩⟩

theorem RuleKey.last?_eq_some_iff {value : Value} :
    key.last? table = some value ↔
      ∃ before spelling after, table = before ++ (spelling, value) :: after ∧
        (spelling = key.capital ∨ spelling = key.plain) ∧
          ∀ entry ∈ after, entry.1 ≠ key.capital ∧ entry.1 ≠ key.plain := by
  simp only [RuleKey.last?, Option.map_eq_some_iff, List.find?_eq_some_iff_append, decide_eq_true_eq,
    Bool.not_eq_true', decide_eq_false_iff_not, RuleKey.capitalKey_eq_capital_iff, not_or]
  constructor
  · rintro ⟨⟨spelling, _⟩, ⟨hs, after, before, he, ha⟩, rfl⟩
    refine ⟨before.reverse, spelling, after.reverse, ?_, hs, fun entry h => ha entry (by simpa using h)⟩
    rw [← List.reverse_reverse table, he]
    simp
  · rintro ⟨before, spelling, after, rfl, hs, ha⟩
    exact ⟨(spelling, value), ⟨hs, after.reverse, before.reverse, by simp,
      fun entry h => ha entry (by simpa using h)⟩, rfl⟩

/-- Unless an option is written over, the value found first means what the value written last
does. -/
theorem find?_alike_last? (distinct : table.Distinct) (h : ¬ key.Overwritten table) :
    Option.Rel (fun found value => key.ReadAlike found.2 value) (key.find? table)
      (key.last? table) := by
  cases hl : key.last? table with
  | none =>
    obtain ⟨hc, hp⟩ := RuleKey.last?_eq_none_iff.1 hl
    simp only [RuleKey.find?, hc, hp, Option.map_none]
    exact .none
  | some value =>
    obtain ⟨before, spelling, after, he, hs, ha⟩ := RuleKey.last?_eq_some_iff.1 hl
    have hget : table.get? spelling = some value := distinct.get?_eq_some_iff.2 (by simp [he])
    rcases hs with rfl | rfl
    · simp only [RuleKey.find?, hget]
      exact .some (.refl key value)
    · cases hc : table.get? key.capital with
      | none =>
        simp only [RuleKey.find?, hc, hget, Option.map_some]
        exact .some (.refl key value)
      | some first =>
        -- The capital spelling is not behind the last one, so it stands before it.
        have hm : (key.capital, first) ∈ before := by
          have hm := distinct.get?_eq_some_iff.1 hc
          rw [he, List.mem_append, List.mem_cons] at hm
          rcases hm with hm | hm | hm
          · exact hm
          · exact absurd (Prod.mk.inj hm).1 (key.capital_ne_plain key)
          · exact absurd rfl (ha _ hm).1
        obtain ⟨earlier, between, rfl⟩ := List.append_of_mem hm
        simp only [RuleKey.find?, hc]
        refine .some (Classical.not_not.1 fun hn => h ?_)
        exact ⟨earlier, first, between, value, after, by simpa using he, hn⟩

/-- An option that is written over has two values that differ in meaning. -/
theorem RuleKey.Overwritten.values (distinct : table.Distinct) (h : key.Overwritten table) :
    ∃ v w, key.find? table = some (key.capital, v) ∧ key.last? table = some w ∧
      ¬ key.ReadAlike v w := by
  obtain ⟨before, v, between, w, after, rfl, hn⟩ := h
  refine ⟨v, w, ?_, ?_, hn⟩
  · have hget := distinct.get?_eq_some_iff.2 (show (key.capital, v) ∈ _ by simp)
    rw [RuleKey.find?, hget]
  · refine RuleKey.last?_eq_some_iff.2
      ⟨before ++ (key.capital, v) :: between, key.plain, after, by simp, .inr rfl, ?_⟩
    have hkeys := distinct
    rw [Table.Distinct, List.map_append, List.map_cons, List.map_append, List.map_cons] at hkeys
    obtain ⟨hcapital, hrest⟩ := List.nodup_cons.1 (List.nodup_append.1 hkeys).2.1
    obtain ⟨hplain, _⟩ := List.nodup_cons.1 (List.nodup_append.1 hrest).2.1
    intro entry he
    have hm : entry.1 ∈ after.map (·.1) := List.mem_map_of_mem he
    constructor
    · intro e
      rw [e] at hm
      exact hcapital (by simp [hm])
    · intro e
      rw [e] at hm
      exact hplain hm

end Values

/-! ### Options that are read -/

/-- An error with the option to blame in its capital spelling. -/
def ConfigError.capitalised : ConfigError → ConfigError
  | .invalidOption key fault => .invalidOption (capitalKey key) fault
  | error => error

theorem RuleKey.capitalKey_of_find? {key : RuleKey} {table : Table} {spelling : String}
    {value : Value} (h : key.find? table = some (spelling, value)) :
    capitalKey spelling = key.capital := by
  unfold RuleKey.find? at h
  cases hc : table.get? key.capital with
  | some first =>
    simp only [hc, Option.some.injEq, Prod.mk.injEq] at h
    rw [← h.1, key.capitalKey_capital]
  | none =>
    simp only [hc, Option.map_eq_some_iff, Prod.mk.injEq] at h
    obtain ⟨_, _, rfl, _⟩ := h
    exact key.capitalKey_plain

section Reading

variable {α : Type} {table : Table}

theorem readOption_capitalKeys (key : RuleKey) (read : Value → Except OptionFault α) (default : α)
    (alike : ∀ v w, key.ReadAlike v w → read v = read w) (distinct : table.Distinct)
    (h : ¬ key.Overwritten table) :
    readOption key read default (capitalKeys table) =
      (readOption key read default table).mapError ConfigError.capitalised := by
  have hrel := find?_alike_last? distinct h
  rw [readOption, find?_capitalKeys, readOption]
  generalize hf : key.find? table = found at hrel
  generalize key.last? table = last at hrel
  cases hrel with
  | none => rfl
  | @some found value hvalue =>
    simp only [Option.map_some, ← alike found.2 value hvalue]
    cases read found.2 with
    | ok a => rfl
    | error fault =>
      simp only [Except.mapError, ConfigError.capitalised, RuleKey.capitalKey_of_find? hf]

theorem readOption_eq_ok_iff {key : RuleKey} {read : Value → Except OptionFault α} {default a : α}
    {spelling : String} {value : Value} (h : key.find? table = some (spelling, value)) :
    readOption key read default table = .ok a ↔ read value = .ok a := by
  simp only [readOption, h, mapError_eq_ok_iff]

end Reading

theorem ruleOptions_eq_ok_iff {table : Table} {rule : RuleOptions} :
    ruleOptions table = .ok rule ↔
      readOption .enabled asTruth RuleOptions.default.enabled table = .ok rule.enabled ∧
      readOption .minimum asMinimum RuleOptions.default.minimum table = .ok rule.minimum ∧
      readOption .allowed (fun value => (asNames value).map NameSet.ofList)
        RuleOptions.default.allowed table = .ok rule.allowed := by
  simp only [ruleOptions, bind_eq_ok_iff]
  constructor
  · rintro ⟨enabled, he, minimum, hm, allowed, ha, hr⟩
    cases hr
    exact ⟨he, hm, ha⟩
  · rintro ⟨he, hm, ha⟩
    exact ⟨_, he, _, hm, _, ha, rfl⟩

theorem ruleOptions_capitalKeys {table : Table} (distinct : table.Distinct)
    (h : ∀ key : RuleKey, ¬ key.Overwritten table) :
    ruleOptions (capitalKeys table) = (ruleOptions table).mapError ConfigError.capitalised := by
  unfold ruleOptions
  rw [readOption_capitalKeys .enabled asTruth _ (fun _ _ h => h) distinct (h _),
    readOption_capitalKeys .minimum asMinimum _ (fun _ _ h => h) distinct (h _),
    readOption_capitalKeys .allowed _ _ (fun _ _ h => h) distinct (h _)]
  simp only [mapError_bind]
  rfl

/-- Where an option is written over, options that are accepted are not those of the other way. -/
theorem ruleOptions_capitalKeys_ne {table : Table} (distinct : table.Distinct) {key : RuleKey}
    (h : key.Overwritten table) {rule : RuleOptions} (accepted : ruleOptions table = .ok rule) :
    ruleOptions (capitalKeys table) ≠ .ok rule := by
  intro hc
  obtain ⟨v, w, hf, hl, hn⟩ := h.values distinct
  have hf' : key.find? (capitalKeys table) = some (key.capital, w) := by
    rw [find?_capitalKeys, hl, Option.map_some]
  obtain ⟨he, hm, ha⟩ := ruleOptions_eq_ok_iff.1 accepted
  obtain ⟨he', hm', ha'⟩ := ruleOptions_eq_ok_iff.1 hc
  refine hn ?_
  cases key with
  | enabled =>
    exact ((readOption_eq_ok_iff hf).1 he).trans ((readOption_eq_ok_iff hf').1 he').symm
  | minimum =>
    exact ((readOption_eq_ok_iff hf).1 hm).trans ((readOption_eq_ok_iff hf').1 hm').symm
  | allowed =>
    exact ((readOption_eq_ok_iff hf).1 ha).trans ((readOption_eq_ok_iff hf').1 ha').symm

/-! ### Settings -/

theorem union_ofList_nil (set : NameSet) : set.union (NameSet.ofList []) = set := by
  obtain ⟨names, increasing⟩ := set
  have hnames : distinctSorted (names ++ (NameSet.ofList []).toList) = names := by
    have hnil : (NameSet.ofList []).toList = [] := rfl
    rw [hnil, List.append_nil, distinctSorted_of_pairwise increasing]
  simp only [NameSet.union, NameSet.ofList] at hnames ⊢
  simp only [hnames]

theorem namesUnder_capitalised (key : String) (default : List String) (data : Table) :
    (namesUnder key default data).mapError ConfigError.capitalised =
      namesUnder key default data := by
  unfold namesUnder
  cases data.get? key with
  | none => rfl
  | some value =>
    simp only
    split <;> rfl

section Settings

variable {data overrides overrides' : Table} {extra : List String}

theorem settings_capitalised
    (h : ruleOptions (effectiveSection data overrides) =
      (ruleOptions (effectiveSection data overrides')).mapError ConfigError.capitalised) :
    settings data overrides extra =
      (settings data overrides' extra).mapError ConfigError.capitalised := by
  unfold settings
  simp only [mapError_bind, namesUnder_capitalised, h]
  rfl

theorem exists_ruleOptions_of_settings {built : Settings}
    (h : settings data overrides extra = .ok built) :
    ∃ rule, ruleOptions (effectiveSection data overrides) = .ok rule ∧
      built.rule =
        ⟨rule.minimum, rule.allowed.union (NameSet.ofList (Text.trimAll extra)), rule.enabled⟩ := by
  simp only [settings, bind_eq_ok_iff] at h
  obtain ⟨rule, hr, excluded, _, baseClasses, _, decorators, _, hb⟩ := h
  cases hb
  exact ⟨rule, hr, rfl⟩

theorem ruleOptions_of_settings {built : Settings} (h : settings data overrides [] = .ok built) :
    ruleOptions (effectiveSection data overrides) = .ok built.rule := by
  obtain ⟨rule, hr, hb⟩ := exists_ruleOptions_of_settings h
  have hnil : Text.trimAll [] = [] := rfl
  rw [hnil, union_ofList_nil] at hb
  rw [hr, hb]

end Settings

end FieldGrouping.Config

namespace FieldGrouping.Command

open Config

/-- A check that is asked for without any option of the rule. -/
structure CheckRequest.Plain (request : CheckRequest) : Prop where
  minimum : request.minimum = none
  stems : request.stems = []
  clearStems : request.clearStems = false

theorem effectiveSection_plain (data : Table) {request : CheckRequest} (plain : request.Plain) :
    effectiveSection data (overrides request) = capitalKeys (ruleSection data) := by
  rw [overrides, plain.minimum, plain.clearStems]
  rfl

theorem extraStems_plain {request : CheckRequest} (plain : request.Plain) :
    extraStems request = [] := by
  rw [extraStems, plain.stems, ite_self]

/-- Checking and explaining use the same settings, or both refuse the configuration, unless an
option is written over in its own table; and then what explaining accepts is not what is
checked. -/
theorem settings_plain_check (data : Table) (distinct : (ruleSection data).Distinct)
    (request : CheckRequest) (plain : request.Plain) :
    ((∀ key : RuleKey, ¬ key.Overwritten (ruleSection data)) →
      (settings data (overrides request) (extraStems request)).toOption =
        (settings data [] []).toOption ∧
      settings data (overrides request) (extraStems request) =
        (settings data [] []).mapError ConfigError.capitalised) ∧
    ∀ accepted, settings data [] [] = .ok accepted →
      (settings data (overrides request) (extraStems request) = .ok accepted ↔
        ∀ key : RuleKey, ¬ key.Overwritten (ruleSection data)) := by
  rw [extraStems_plain plain]
  have heq : (∀ key : RuleKey, ¬ key.Overwritten (ruleSection data)) →
      settings data (overrides request) [] =
        (settings data [] []).mapError ConfigError.capitalised := by
    intro h
    refine settings_capitalised ?_
    rw [effectiveSection_plain data plain]
    exact ruleOptions_capitalKeys distinct h
  refine ⟨fun h => ⟨?_, heq h⟩, fun accepted ha => ⟨fun hc key hkey => ?_, fun h => ?_⟩⟩
  · rw [heq h, toOption_mapError]
  · have hchecked := ruleOptions_of_settings hc
    rw [effectiveSection_plain data plain] at hchecked
    exact ruleOptions_capitalKeys_ne distinct hkey (ruleOptions_of_settings ha) hchecked
  · rw [heq h, ha]
    rfl

/-- Plain spellings in front of capital ones, and names written in two ways, do no harm. -/
theorem settings_plain_check_respelled :
    (settings
        [("extract_type", .table [("max_fields", .int 3), ("Prefixes", .text "b, a"),
          ("MaxFields", .int 2), ("prefixes", .list [.text "a", .text " b"])])]
        (overrides ⟨[], ⟨⟨[]⟩, none⟩, none, [], false, "text", true⟩)
        (extraStems ⟨[], ⟨⟨[]⟩, none⟩, none, [], false, "text", true⟩)).toOption =
      (settings
        [("extract_type", .table [("max_fields", .int 3), ("Prefixes", .text "b, a"),
          ("MaxFields", .int 2), ("prefixes", .list [.text "a", .text " b"])])] [] []).toOption := by
  have distinct : (ruleSection
      [("extract_type", .table [("max_fields", .int 3), ("Prefixes", .text "b, a"),
        ("MaxFields", .int 2), ("prefixes", .list [.text "a", .text " b"])])]).Distinct := by
    decide +kernel
  refine ((settings_plain_check _ distinct ⟨[], ⟨⟨[]⟩, none⟩, none, [], false, "text", true⟩
    ⟨rfl, rfl, rfl⟩).1 fun key h => ?_).1
  obtain ⟨v, w, hf, hl, hn⟩ := h.values distinct
  cases key with
  | enabled => cases hf
  | minimum =>
    cases hf
    cases hl
    exact hn rfl
  | allowed =>
    cases hf
    cases hl
    exact hn (by decide +kernel)

/-- A minimum that is written again in its plain spelling: explaining tells of the first one, and
checking uses the second. -/
theorem settings_plain_check_overwritten :
    (settings [("extract_type", .table [("MaxFields", .int 3), ("max_fields", .int 2)])]
        (overrides ⟨[], ⟨⟨[]⟩, none⟩, none, [], false, "text", true⟩)
        (extraStems ⟨[], ⟨⟨[]⟩, none⟩, none, [], false, "text", true⟩)).toOption ≠
      (settings [("extract_type", .table [("MaxFields", .int 3), ("max_fields", .int 2)])]
        [] []).toOption := by
  intro h
  have hm := congrArg (Option.map (·.rule.minimum)) h
  revert hm
  decide +kernel

end FieldGrouping.Command
