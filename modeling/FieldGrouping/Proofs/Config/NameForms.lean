import FieldGrouping.Proofs.Config.Precedence
import FieldGrouping.Proofs.Config.Soundness
import Mathlib.Data.Set.List

/-!
The forms in which names are written. A list of texts and one text with commas between them have
the same names, whatever commas and blanks the texts have themselves, so that settings do not depend
on the form. Names that were read can be written as a list and are read again as they are.
-/

set_option autoImplicit false

namespace FieldGrouping

/-- The lists of names in settings are those of a table, with a default for each that is
missing. -/
structure Settings.HasNamesOf (settings : Settings) (data : Config.Table) : Prop where
  excluded : settings.excluded =
    NameSet.ofList (((data.get? "exclude").map Config.nameList).getD defaultExcluded)
  baseClasses : settings.recognition.baseClasses =
    ((data.get? "base_classes").map Config.nameList).getD Source.defaultBaseClasses
  decorators : settings.recognition.decorators =
    ((data.get? "decorators").map Config.nameList).getD Source.defaultDecorators

namespace Config

/-- The two forms of some texts: their list, and one text with commas between them. -/
inductive Value.Writes (texts : List String) : Value → Prop where
  | list : Writes texts (.list (texts.map .text))
  | joined : Writes texts (.text (",".intercalate texts))

/-! ### Names of a value -/

section Names

variable {texts names : List String} {value : Value}

theorem namesInItems_append (items rest : List Value) :
    namesInItems (items ++ rest) = namesInItems items ++ namesInItems rest := by
  induction items with
  | nil => rfl
  | cons item items ih =>
    cases item with
    | text text => simp only [List.cons_append, namesInItems, ih, List.append_assoc]
    | _ => exact ih

theorem namesInItems_map_text (texts : List String) :
    namesInItems (texts.map .text) = texts.flatMap Text.commaList := by
  induction texts with
  | nil => rfl
  | cons text texts ih => rw [List.map_cons, namesInItems, ih, List.flatMap_cons]

/-- In either form the names are those of the texts, one text after another. -/
theorem Value.Writes.nameList_eq (h : value.Writes texts) :
    nameList value = texts.flatMap Text.commaList := by
  cases h with
  | list => exact namesInItems_map_text texts
  | joined => exact Text.commaList_intercalate texts

theorem flatMap_commaList_eq_self (listable : ∀ name ∈ names, Listable name) :
    names.flatMap Text.commaList = names := by
  calc names.flatMap Text.commaList
      = names.flatMap ([·]) := List.flatMap_congr fun name hname =>
        Text.commaList_eq_singleton (listable name hname).trimmed (listable name hname).noComma
    _ = names := List.flatMap_singleton' names

/-- The lists that are read as they are. -/
theorem nameList_map_text_eq_iff :
    nameList (.list (names.map .text)) = names ↔ ∀ name ∈ names, Listable name := by
  constructor
  · intro h name hname
    rw [← h] at hname
    exact listable_of_mem_nameList hname
  · intro listable
    rw [Value.Writes.list.nameList_eq, flatMap_commaList_eq_self listable]

theorem hasNames_list_iff {items : List Value} :
    (Value.list items).hasNames = true ↔ ∃ texts : List String, texts.map .text = items := by
  have hrange := Set.ext_iff.1 (Set.range_list_map Value.text) items
  refine Iff.trans ?_ hrange.symm
  rw [Value.hasNames, List.all_eq_true]
  refine forall₂_congr fun item _ => ?_
  cases item <;> simp

theorem hasNames_iff : value.hasNames = true ↔ ∃ texts, value.Writes texts := by
  constructor
  · intro h
    cases value with
    | text text =>
      have hone : ",".intercalate [text] = text := String.intercalate_singleton
      exact ⟨[text], hone ▸ .joined⟩
    | list items =>
      obtain ⟨texts, rfl⟩ := hasNames_list_iff.1 h
      exact ⟨texts, .list⟩
    | _ => cases h
  · rintro ⟨texts, h⟩
    cases h with
    | list => exact hasNames_list_iff.2 ⟨texts, rfl⟩
    | joined => rfl

end Names

/-! ### Settings -/

section Settings

variable {texts : List String} {value other : Value} {data overrides : Table} {extra : List String}

theorem namesUnder_eq_ok_iff {key : String} {default names : List String} :
    namesUnder key default data = .ok names ↔
      (∀ value, data.get? key = some value → ∃ texts, value.Writes texts) ∧
        ((data.get? key).map nameList).getD default = names := by
  unfold namesUnder
  simp only [← hasNames_iff]
  cases data.get? key with
  | none => simp
  | some value => cases h : value.hasNames <;> simp [h]

theorem namesUnder_put_congr (hvalue : value.Writes texts) (hother : other.Writes texts)
    (key name : String) (default : List String) (data : Table) :
    namesUnder name default (data.put key value) = namesUnder name default (data.put key other) := by
  by_cases h : name = key
  · subst h
    have hnames : value.hasNames = true ∧ other.hasNames = true :=
      ⟨hasNames_iff.2 ⟨texts, hvalue⟩, hasNames_iff.2 ⟨texts, hother⟩⟩
    simp only [namesUnder, Table.get?_put_self, hnames, if_true, hvalue.nameList_eq,
      hother.nameList_eq]
  · refine namesUnder_congr default ?_
    rw [Table.get?_put_of_ne h, Table.get?_put_of_ne h]

/-- Neither form is a table, so that neither is taken for the table of the rule. -/
theorem ruleSection_put_congr (hvalue : value.Writes texts) (hother : other.Writes texts)
    (key : String) (data : Table) :
    ruleSection (data.put key value) = ruleSection (data.put key other) := by
  unfold ruleSection
  congr 2
  funext name
  by_cases h : name = key
  · subst h
    rw [Table.get?_put_self, Table.get?_put_self]
    cases hvalue <;> cases hother <;> rfl
  · rw [Table.get?_put_of_ne h, Table.get?_put_of_ne h]

theorem settings_put_congr (hvalue : value.Writes texts) (hother : other.Writes texts)
    (key : String) (data overrides : Table) (extra : List String) :
    settings (data.put key value) overrides extra =
      settings (data.put key other) overrides extra := by
  unfold settings effectiveSection
  rw [ruleSection_put_congr hvalue hother, namesUnder_put_congr hvalue hother,
    namesUnder_put_congr hvalue hother, namesUnder_put_congr hvalue hother]

theorem hasNamesOf_of_settings {built : Settings}
    (h : settings data overrides extra = .ok built) : built.HasNamesOf data := by
  simp only [settings, bind_eq_ok_iff, namesUnder_eq_ok_iff] at h
  obtain ⟨_, _, excluded, ⟨_, rfl⟩, baseClasses, ⟨_, rfl⟩, decorators, ⟨_, rfl⟩, hbuilt⟩ := h
  cases hbuilt
  exact ⟨rfl, rfl, rfl⟩

theorem exists_settings_iff :
    (∃ built, settings data overrides extra = .ok built) ↔
      (∃ rule, ruleOptions (effectiveSection data overrides) = .ok rule) ∧
        ∀ key ∈ nameKeys, ∀ value, data.get? key = some value → ∃ texts, value.Writes texts := by
  simp only [settings, bind_eq_ok_iff, namesUnder_eq_ok_iff, nameKeys, List.forall_mem_cons]
  constructor
  · rintro ⟨_, rule, hrule, _, ⟨hexcluded, _⟩, _, ⟨hbaseClasses, _⟩, _, ⟨hdecorators, _⟩, _⟩
    exact ⟨⟨rule, hrule⟩, hexcluded, hbaseClasses, hdecorators, by simp⟩
  · rintro ⟨⟨rule, hrule⟩, hexcluded, hbaseClasses, hdecorators, _⟩
    exact ⟨_, rule, hrule, _, ⟨hexcluded, rfl⟩, _, ⟨hbaseClasses, rfl⟩, _, ⟨hdecorators, rfl⟩, rfl⟩

end Settings

/-! ### Allowed stems -/

section Allowed

variable {key : RuleKey} {spelling : String} {value other : Value}

theorem readOption_put_congr {α : Type} (read : Value → Except OptionFault α)
    (h : read value = read other) (default : α) (table : Table) :
    readOption key read default (table.put spelling value) =
      readOption key read default (table.put spelling other) := by
  unfold readOption RuleKey.find?
  by_cases hcapital : key.capital = spelling
  · subst hcapital
    simp only [Table.get?_put_self, h]
  · rw [Table.get?_put_of_ne hcapital, Table.get?_put_of_ne hcapital]
    by_cases hplain : key.plain = spelling
    · subst hplain
      rw [Table.get?_put_self, Table.get?_put_self]
      cases table.get? key.capital with
      | none => simp only [Option.map_some, h]
      | some first => rfl
    · rw [Table.get?_put_of_ne hplain, Table.get?_put_of_ne hplain]

/-- A value of an option may be changed for one that means the same. -/
theorem ruleOptions_put_congr (alike : key.ReadAlike value other)
    (hspelling : spelling = key.capital ∨ spelling = key.plain) (table : Table) :
    ruleOptions (table.put spelling value) = ruleOptions (table.put spelling other) := by
  have hkey : capitalKey spelling = key.capital := RuleKey.capitalKey_eq_capital_iff.2 hspelling
  have hother {option : RuleKey} (hne : option ≠ key) {α : Type}
      (read : Value → Except OptionFault α) (default : α) :
      readOption option read default (table.put spelling value) =
        readOption option read default (table.put spelling other) := by
    simp only [readOption, RuleKey.find?_put_of_ne hkey hne]
  unfold ruleOptions
  cases key with
  | enabled =>
    rw [readOption_put_congr asTruth alike, hother (by decide) asMinimum,
      hother (by decide) fun value => (asNames value).map NameSet.ofList]
  | minimum =>
    rw [hother (by decide) asTruth, readOption_put_congr asMinimum alike,
      hother (by decide) fun value => (asNames value).map NameSet.ofList]
  | allowed =>
    rw [hother (by decide) asTruth, hother (by decide) asMinimum,
      readOption_put_congr (fun value => (asNames value).map NameSet.ofList) alike]

/-- Stems in a list are not split, and those that were read from a text need not be. -/
theorem readAlike_nameList (text : String) :
    RuleKey.allowed.ReadAlike (.text text) (.list ((nameList (.text text)).map .text)) := by
  have htrimmed : Text.trimAll (Text.commaList text) = Text.commaList text :=
    Text.trimAll_eq_self fun _ => Text.trimmed_of_mem_trimAll
  simp only [RuleKey.ReadAlike, nameList, asNames, textItems_map_text, Except.map, htrimmed]

theorem allowed_of_text {table : Table} {text : String} {options : RuleOptions}
    (found : RuleKey.allowed.find? table = some (spelling, .text text))
    (h : ruleOptionsOf (.table table) = .ok options) :
    options.allowed = NameSet.ofList (nameList (.text text)) := by
  have hread := (ruleOptions_eq_ok_iff.1 h).2.2
  rw [readOption_eq_ok_iff found] at hread
  exact (Except.ok.inj hread).symm

end Allowed

/-- A list of texts has the same names as the text that joins them with commas, and a list has the
names of its parts. Every name is trimmed and has no comma, and the lists of such names are those
that are read as they are. Settings and allowed stems are the same in both forms, and they are the
names that were written. -/
theorem nameList_forms_agree :
    (∀ texts : List String,
      nameList (.list (texts.map .text)) = nameList (.text (",".intercalate texts))) ∧
    (∀ items rest : List Value,
      nameList (.list (items ++ rest)) = nameList (.list items) ++ nameList (.list rest)) ∧
    (∀ value : Value,
      nameList (.list ((nameList value).map .text)) = nameList value ∧
      ∀ name ∈ nameList value, Listable name) ∧
    (∀ names : List String,
      nameList (.list (names.map .text)) = names ↔ ∀ name ∈ names, Listable name) ∧
    (∀ (data overrides : Table) (extra : List String),
      (∀ (key : String) (texts : List String),
        settings (data.put key (.list (texts.map .text))) overrides extra =
          settings (data.put key (.text (",".intercalate texts))) overrides extra) ∧
      (∀ built, settings data overrides extra = .ok built → built.HasNamesOf data) ∧
      ((∃ built, settings data overrides extra = .ok built) ↔
        (∃ rule, ruleOptions (effectiveSection data overrides) = .ok rule) ∧
          ∀ key ∈ nameKeys, ∀ value, data.get? key = some value → ∃ texts, value.Writes texts)) ∧
    ∀ (table : Table) (spelling text : String),
      (spelling = RuleKey.allowed.capital ∨ spelling = RuleKey.allowed.plain →
        ruleOptionsOf (.table (table.put spelling (.text text))) =
          ruleOptionsOf (.table (table.put spelling (.list ((nameList (.text text)).map .text))))) ∧
      ∀ options, RuleKey.allowed.find? table = some (spelling, .text text) →
        ruleOptionsOf (.table table) = .ok options →
          options.allowed = NameSet.ofList (nameList (.text text)) := by
  refine ⟨fun texts => ?_, namesInItems_append, fun value => ⟨?_, fun _ => listable_of_mem_nameList⟩,
    fun _ => nameList_map_text_eq_iff, fun data overrides extra => ⟨fun key texts => ?_,
      fun _ => hasNamesOf_of_settings, exists_settings_iff⟩,
    fun table spelling text => ⟨fun hspelling => ?_, fun _ => allowed_of_text⟩⟩
  · rw [Value.Writes.list.nameList_eq, Value.Writes.joined.nameList_eq]
  · exact nameList_map_text_eq_iff.2 fun _ => listable_of_mem_nameList
  · exact settings_put_congr .list .joined key data overrides extra
  · exact ruleOptions_put_congr (readAlike_nameList text) hspelling table

/-- Texts with commas of their own and an empty one among them, and stems with a comma at their
end. -/
theorem nameList_forms_agree_mixed :
    nameList (.list (["a", "b", "c"].map .text)) = ["a", "b", "c"] ∧
    (∃ built,
      settings [("base_classes", .text "Base"),
        ("exclude", .list [.text " a ", .text "", .text "b,c "])] [] [] = .ok built ∧
      settings [("base_classes", .text "Base"), ("exclude", .text " a ,,b,c ")] [] [] = .ok built ∧
      built.excluded = NameSet.ofList ["a", "b", "c"] ∧
      built.recognition.baseClasses = ["Base"] ∧
      built.recognition.decorators = Source.defaultDecorators) ∧
    ∃ options,
      ruleOptionsOf (.table [("prefixes", .text "is, has ,")]) = .ok options ∧
      ruleOptionsOf (.table [("prefixes", .list [.text "is", .text "has"])]) = .ok options ∧
      options.allowed = NameSet.ofList ["is", "has"] := by
  obtain ⟨_, _, hagain, _, hsettings, hallowed⟩ := nameList_forms_agree
  have habc : nameList (.text " a ,,b,c ") = ["a", "b", "c"] := by decide +kernel
  have hstems : nameList (.text "is, has ,") = ["is", "has"] := by decide +kernel
  have hbase : nameList (.text "Base") = ["Base"] := by decide +kernel
  refine ⟨?_, ?_, ?_⟩
  · rw [← habc]
    exact (hagain _).1
  · have hput (value : Value) : Table.put "exclude" value [("base_classes", .text "Base")] =
        [("base_classes", .text "Base"), ("exclude", value)] := by simp [Table.put]
    have hsame := (hsettings [("base_classes", .text "Base")] [] []).1 "exclude"
      [" a ", "", "b,c "]
    have hjoined : ",".intercalate [" a ", "", "b,c "] = " a ,,b,c " := by decide +kernel
    rw [hput, hput, hjoined] at hsame
    have hsome : (settings [("base_classes", .text "Base"), ("exclude", .text " a ,,b,c ")]
        [] []).toOption.isSome = true := by decide +kernel
    obtain ⟨built, hbuilt⟩ := Option.isSome_iff_exists.1 hsome
    have hok := toOption_eq_some_iff.1 hbuilt
    have hnames := (hsettings _ [] []).2.1 built hok
    refine ⟨built, hsame.trans hok, hok, ?_, ?_, hnames.decorators⟩
    · rw [← habc]
      exact hnames.excluded
    · rw [← hbase]
      exact hnames.baseClasses
  · obtain ⟨hsame, _⟩ := hallowed [] "prefixes" "is, has ,"
    obtain ⟨_, hstem⟩ := hallowed [("prefixes", .text "is, has ,")] "prefixes" "is, has ,"
    have hlist := hsame (.inr rfl)
    rw [hstems] at hlist hstem
    have hok : ruleOptionsOf (.table [("prefixes", .text "is, has ,")]) =
        .ok ⟨2, NameSet.ofList ["is", "has"], true⟩ := by decide +kernel
    exact ⟨_, hok, hlist.symm.trans hok, hstem _ rfl hok⟩

end Config

end FieldGrouping
