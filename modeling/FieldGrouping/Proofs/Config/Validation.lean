import FieldGrouping.Proofs.Config.Precedence
import FieldGrouping.Proofs.Config.Soundness
import Mathlib.Algebra.Field.Rat
import Mathlib.Algebra.Order.Field.Basic
import Mathlib.Tactic.NormNum

/-!
Which tables of the rule are accepted, what they mean, and which key is blamed for the others. What
an option accepts is said by the value alone; a table is refused just if some option has a value
that is not accepted, and the first such option is the one that is named.
-/

set_option autoImplicit false

namespace FieldGrouping

/-! ### Numbers -/

namespace Binary64

/-- The number that a finite one stands for. -/
def value? : Binary64 → Option ℚ
  | .finite negative mantissa exponent =>
    let size : ℚ := mantissa * 2 ^ exponent
    some (if negative then -size else size)
  | _ => none

theorem value_scaled (mantissa : Nat) (exponent : Int) :
    (mantissa : ℚ) * 2 ^ exponent * ((scaled mantissa 1 (-exponent)).2 : ℚ) =
      ((scaled mantissa 1 (-exponent)).1 : ℚ) := by
  unfold scaled
  split
  · next h =>
    have hpower : (2 : ℚ) ^ (-exponent).toNat = 2 ^ (-exponent) := by
      rw [← zpow_natCast, Int.toNat_of_nonneg h]
    have hcancel : (2 : ℚ) ^ exponent * 2 ^ (-exponent) = 1 := by
      rw [← zpow_add₀ two_ne_zero, add_neg_cancel, zpow_zero]
    simp only [Nat.pow_eq, one_mul, Nat.cast_pow, Nat.cast_ofNat, hpower, mul_assoc, hcancel,
      mul_one]
  · next h =>
    have hpower : (2 : ℚ) ^ exponent.toNat = 2 ^ exponent := by
      rw [← zpow_natCast, Int.toNat_of_nonneg (by omega)]
    simp [hpower]

theorem scaled_pos (mantissa : Nat) (exponent : Int) : 0 < (scaled mantissa 1 exponent).2 := by
  unfold scaled
  split <;> simp

theorem eq_intCast_iff {n d : Nat} (hd : 0 < d) {q : ℚ} (h : q * d = n) (k : Int) :
    q = k ↔ n % d = 0 ∧ ((n / d : Nat) : Int) = k := by
  have hcast : (d : ℚ) ≠ 0 := Nat.cast_ne_zero.2 hd.ne'
  have hwhole : q = k ↔ k * d = (n : Int) := by
    rw [← mul_left_inj' hcast, h, eq_comm]
    exact_mod_cast Iff.rfl
  rw [hwhole]
  constructor
  · intro hk
    have hdvd : (d : Int) ∣ n := ⟨k, by rw [← hk, mul_comm]⟩
    refine ⟨Nat.mod_eq_zero_of_dvd (Int.natCast_dvd_natCast.1 hdvd), ?_⟩
    rw [Int.natCast_div, ← hk, Int.mul_ediv_cancel k (by exact_mod_cast hd.ne')]
  · rintro ⟨hmod, rfl⟩
    exact_mod_cast Nat.div_mul_cancel (Nat.dvd_of_mod_eq_zero hmod)

/-- A number is read as a whole one if that is what it stands for. -/
theorem toInt?_eq_some_iff {x : Binary64} {k : Int} :
    x.toInt? = some k ↔ x.value? = some (k : ℚ) := by
  cases x with
  | finite negative mantissa exponent =>
    have hwhole := eq_intCast_iff (scaled_pos mantissa (-exponent)) (value_scaled mantissa exponent)
    cases negative with
    | false =>
      simp only [toInt?, value?, Bool.false_eq_true, if_false, Option.ite_none_right_eq_some,
        Option.some.injEq, hwhole k]
    | true =>
      simp only [toInt?, value?, if_true, Option.ite_none_right_eq_some, Option.some.injEq,
        neg_eq_iff_eq_neg, ← Int.cast_neg, hwhole (-k)]
  | _ => simp [toInt?, value?]

end Binary64

namespace Config

/-! ### What an option accepts -/

/-- Words for truth values. -/
def truthWords : List (String × Bool) :=
  [("1", true), ("0", false), ("on", true), ("off", false), ("t", true), ("f", false),
   ("true", true), ("false", false), ("y", true), ("n", false), ("yes", true), ("no", false)]

/-- The truth value that a value means: one is true and zero is false, and a word may be written in
small letters or capitals. -/
inductive Value.Means : Value → Bool → Prop where
  | bool (b : Bool) : Means (.bool b) b
  | int (b : Bool) : Means (.int (if b then 1 else 0)) b
  | float {x : Binary64} {b : Bool} (equal : x.value? = some (if b then 1 else 0)) :
      Means (.float x) b
  | text {text word : String} {b : Bool} (known : (word, b) ∈ truthWords)
      (alike : text.toList.map Char.toLower = word.toList) : Means (.text text) b

/-- The names that a value gives: those between the commas of a text, or the texts of a list. -/
inductive Value.Names : Value → String → Prop where
  | text {text name : String} (listed : Text.Listed name text.toList) : Names (.text text) name
  | list {items : List Value} {text name : String} (item : .text text ∈ items)
      (trimmed : Text.Trimmed name) (padded : Text.Padded name.toList text.toList) :
      Names (.list items) name

namespace RuleKey

/-- What an option accepts: a truth value, a whole number from one on, or names. -/
def Accepts : RuleKey → Value → Prop
  | .enabled, value => ∃ b, value.Means b
  | .minimum, value => ∃ n, value = .int n ∧ 1 ≤ n
  | .allowed, value =>
    (∃ text, value = .text text) ∨ ∃ texts : List String, value = .list (texts.map .text)

/-- The value that a table has for an option, and the spelling under which it is found. -/
inductive FoundIn (key : RuleKey) (table : Table) : String → Value → Prop where
  | capital {value : Value} (found : table.get? key.capital = some value) :
      FoundIn key table key.capital value
  | plain {value : Value} (missing : table.get? key.capital = none)
      (found : table.get? key.plain = some value) : FoundIn key table key.plain value

/-- A table has a value for an option, under some spelling, that the option does not accept. -/
def Offends (key : RuleKey) (table : Table) (spelling : String) : Prop :=
  ∃ value, key.FoundIn table spelling value ∧ ¬ key.Accepts value

/-- The options that are checked before one. -/
def earlier : RuleKey → List RuleKey
  | .enabled => []
  | .minimum => [.enabled]
  | .allowed => [.enabled, .minimum]

/-- What holds of the value that a table has for an option, and what holds where it has none. -/
def Decides (key : RuleKey) (table : Table) (given : Value → Prop) (missing : Prop) : Prop :=
  (∀ spelling value, key.FoundIn table spelling value → given value) ∧
    ((∀ spelling value, ¬ key.FoundIn table spelling value) → missing)

end RuleKey

/-- Options that have their values from a table, or their defaults. -/
structure GivenBy (table : Table) (options : RuleOptions) : Prop where
  enabled : RuleKey.enabled.Decides table (·.Means options.enabled)
    (options.enabled = RuleOptions.default.enabled)
  minimum : RuleKey.minimum.Decides table (· = .int options.minimum)
    (options.minimum = RuleOptions.default.minimum)
  allowed : RuleKey.allowed.Decides table
    (fun value => ∀ stem, stem ∈ options.allowed ↔ value.Names stem)
    (options.allowed = RuleOptions.default.allowed)

/-- The first option that offends is found under a spelling. -/
def FirstOffence (table : Table) (spelling : String) : Prop :=
  ∃ key : RuleKey, key.Offends table spelling ∧
    ∀ other ∈ key.earlier, ∀ spelling', ¬ other.Offends table spelling'

section Readers

variable {value : Value}

theorem truthOfInt?_eq_some_iff {n : Int} {b : Bool} :
    truthOfInt? n = some b ↔ n = if b then 1 else 0 := by
  unfold truthOfInt?
  cases b <;> grind

theorem truthOfText?_eq_some_iff {text : String} {b : Bool} :
    truthOfText? text = some b ↔
      ∃ word, (word, b) ∈ truthWords ∧ text.toList.map Char.toLower = word.toList := by
  have hword (word : String) : text.toList.map Char.toLower = word.toList ↔
      String.ofList (text.toList.map Char.toLower) = word := by
    rw [← String.toList_inj, String.toList_ofList]
  simp only [hword, truthOfText?]
  generalize String.ofList (text.toList.map Char.toLower) = word
  have htrue : word ∈ trueWords ↔ (word, true) ∈ truthWords := by simp [trueWords, truthWords]
  have hfalse : word ∈ falseWords ↔ (word, false) ∈ truthWords := by simp [falseWords, truthWords]
  have hapart : ∀ w ∈ falseWords, w ∉ trueWords := by decide
  cases b <;> grind

theorem elim_eq_ok_iff {ε α : Type} {x : Option α} {e : ε} {a : α} :
    x.elim (.error e) Except.ok = Except.ok a ↔ x = some a := by
  cases x <;> simp

theorem asTruth_eq_ok_iff {b : Bool} : asTruth value = .ok b ↔ value.Means b := by
  cases value with
  | bool c =>
    rw [asTruth, Except.ok.injEq]
    exact ⟨fun h => h ▸ .bool c, fun h => by cases h; rfl⟩
  | text text =>
    rw [asTruth, elim_eq_ok_iff, truthOfText?_eq_some_iff]
    constructor
    · rintro ⟨word, known, alike⟩
      exact .text known alike
    · intro h
      cases h with
      | text known alike => exact ⟨_, known, alike⟩
  | int n =>
    have hread : asTruth (.int n) = .ok b ↔ n = if b then 1 else 0 := by
      rw [asTruth, ← truthOfInt?_eq_some_iff]
      split
      · exact elim_eq_ok_iff
      · next hword =>
        -- what does not fit into a word is neither one nor zero
        have hsmall : n ≠ if b then 1 else 0 := by
          rintro rfl
          exact hword (by cases b <;> decide)
        simp [truthOfInt?_eq_some_iff, hsmall]
    rw [hread]
    exact ⟨fun h => h ▸ .int b, fun h => by cases h; rfl⟩
  | float x =>
    have hread : asTruth (.float x) = .ok b ↔ x.toInt? = some (if b then 1 else 0) := by
      rw [asTruth]
      cases x.toInt? with
      | none => simp
      | some n => simp only [elim_eq_ok_iff, truthOfInt?_eq_some_iff, Option.some.injEq]
    have hcast : (((if b then 1 else 0 : Int)) : ℚ) = if b then 1 else 0 := by cases b <;> simp
    rw [hread, Binary64.toInt?_eq_some_iff, hcast]
    exact ⟨.float, fun h => by cases h; assumption⟩
  | _ =>
    constructor <;> intro h <;> cases h

theorem asMinimum_eq_ok_iff {n : Int} : asMinimum value = .ok n ↔ value = .int n ∧ 1 ≤ n := by
  cases value with
  | int m =>
    rw [asMinimum, Value.int.injEq]
    split
    · next h =>
      constructor
      · intro herror
        cases herror
      · omega
    · next h =>
      rw [Except.ok.injEq]
      omega
  | _ =>
    constructor
    · intro h
      cases h
    · rintro ⟨h, _⟩
      cases h

theorem textItems_eq_ok_iff {items : List Value} {texts : List String} :
    textItems items = .ok texts ↔ items = texts.map .text := by
  constructor
  · intro h
    induction items generalizing texts with
    | nil =>
      cases h
      rfl
    | cons item items ih =>
      cases item with
      | text text =>
        obtain ⟨rest, hrest, rfl⟩ := map_eq_ok_iff.1 h
        rw [ih hrest, List.map_cons]
      | _ => cases h
  · rintro rfl
    exact textItems_map_text texts

theorem mem_of_asNames {names : List String} (h : asNames value = .ok names) (name : String) :
    name ∈ names ↔ value.Names name := by
  cases value with
  | text text =>
    cases h
    rw [Text.mem_commaList]
    exact ⟨.text, fun h => by cases h; assumption⟩
  | list items =>
    obtain ⟨texts, htexts, rfl⟩ := map_eq_ok_iff.1 h
    obtain rfl := textItems_eq_ok_iff.1 htexts
    rw [Text.mem_trimAll_iff]
    constructor
    · rintro ⟨trimmed, text, htext, padded⟩
      exact .list (List.mem_map_of_mem htext) trimmed padded
    · intro hnames
      cases hnames with
      | list item trimmed padded => exact ⟨trimmed, _, by simpa using item, padded⟩
  | _ => cases h

theorem exists_asTruth_iff (value : Value) :
    (∃ b, asTruth value = .ok b) ↔ RuleKey.enabled.Accepts value :=
  exists_congr fun _ => asTruth_eq_ok_iff

theorem exists_asMinimum_iff (value : Value) :
    (∃ n, asMinimum value = .ok n) ↔ RuleKey.minimum.Accepts value :=
  exists_congr fun _ => asMinimum_eq_ok_iff

theorem exists_nameSet_iff (value : Value) :
    (∃ set, (asNames value).map NameSet.ofList = .ok set) ↔ RuleKey.allowed.Accepts value := by
  cases value with
  | text text => exact ⟨fun _ => .inl ⟨text, rfl⟩, fun _ => ⟨_, rfl⟩⟩
  | list items =>
    constructor
    · rintro ⟨set, hset⟩
      obtain ⟨names, hnames, _⟩ := map_eq_ok_iff.1 hset
      obtain ⟨texts, htexts, _⟩ := map_eq_ok_iff.1 hnames
      exact .inr ⟨texts, congrArg Value.list (textItems_eq_ok_iff.1 htexts)⟩
    · rintro (⟨text, htext⟩ | ⟨texts, htexts⟩)
      · cases htext
      · obtain rfl := Value.list.inj htexts
        rw [asNames, textItems_map_text]
        exact ⟨_, rfl⟩
  | _ => simp [asNames, RuleKey.Accepts, Except.map]

theorem nameSet_eq_ok_iff {set : NameSet} (accepted : RuleKey.allowed.Accepts value) :
    (asNames value).map NameSet.ofList = .ok set ↔ ∀ stem, stem ∈ set ↔ value.Names stem := by
  obtain ⟨_, hset⟩ := (exists_nameSet_iff value).2 accepted
  obtain ⟨names, hnames, rfl⟩ := map_eq_ok_iff.1 hset
  rw [hset, Except.ok.injEq]
  constructor
  · rintro rfl stem
    rw [NameSet.mem_ofList, mem_of_asNames hnames]
  · intro h
    refine NameSet.eq_of_mem_iff fun stem => ?_
    rw [NameSet.mem_ofList, mem_of_asNames hnames, h]

end Readers

section Options

variable {α : Type} {key : RuleKey} {read : Value → Except OptionFault α} {default : α}
variable {table : Table} {spelling : String}

theorem RuleKey.find?_eq_some_iff {value : Value} :
    key.find? table = some (spelling, value) ↔ key.FoundIn table spelling value := by
  unfold RuleKey.find?
  cases hc : table.get? key.capital with
  | some first =>
    rw [Option.some.injEq, Prod.mk.injEq]
    constructor
    · rintro ⟨rfl, rfl⟩
      exact .capital hc
    · intro h
      cases h with
      | capital found => exact ⟨rfl, Option.some.inj (hc.symm.trans found)⟩
      | plain missing found => cases hc.symm.trans missing
  | none =>
    rw [Option.map_eq_some_iff]
    constructor
    · rintro ⟨_, found, heq⟩
      cases heq
      exact .plain hc found
    · intro h
      cases h with
      | capital found => cases hc.symm.trans found
      | plain missing found => exact ⟨_, found, rfl⟩

theorem RuleKey.decides_of_find?_eq_none {given : Value → Prop} {missing : Prop}
    (h : key.find? table = none) : key.Decides table given missing ↔ missing := by
  simp [RuleKey.Decides, ← RuleKey.find?_eq_some_iff, h]

theorem RuleKey.decides_of_find?_eq_some {given : Value → Prop} {missing : Prop} {value : Value}
    (h : key.find? table = some (spelling, value)) :
    key.Decides table given missing ↔ given value := by
  simp [RuleKey.Decides, ← RuleKey.find?_eq_some_iff, h]

theorem readOption_eq_ok_iff_decides {a : α} :
    readOption key read default table = .ok a ↔
      key.Decides table (fun value => read value = .ok a) (a = default) := by
  cases hf : key.find? table with
  | none => simp [readOption, hf, RuleKey.decides_of_find?_eq_none hf, eq_comm]
  | some found => rw [readOption_eq_ok_iff hf, RuleKey.decides_of_find?_eq_some hf]

theorem RuleKey.offends_iff :
    key.Offends table spelling ↔
      ∃ value, key.find? table = some (spelling, value) ∧ ¬ key.Accepts value := by
  simp only [RuleKey.Offends, RuleKey.find?_eq_some_iff]

theorem RuleKey.decides_congr {given given' : Value → Prop} {missing : Prop}
    (accepted : ∀ spelling, ¬ key.Offends table spelling)
    (h : ∀ value, key.Accepts value → (given value ↔ given' value)) :
    key.Decides table given missing ↔ key.Decides table given' missing := by
  refine and_congr_left' (forall₂_congr fun spelling value => forall_congr' fun found => h value ?_)
  exact Classical.not_not.1 fun hn => accepted spelling ⟨value, found, hn⟩

section Accepting

variable (accepts : ∀ value, (∃ a, read value = .ok a) ↔ key.Accepts value)

include accepts

theorem exists_readOption_iff :
    (∃ a, readOption key read default table = .ok a) ↔
      ∀ spelling, ¬ key.Offends table spelling := by
  cases hf : key.find? table with
  | none => simp [readOption, RuleKey.offends_iff, hf]
  | some found =>
    obtain ⟨spelling, value⟩ := found
    simp [readOption_eq_ok_iff hf, accepts, RuleKey.offends_iff, hf]

theorem exists_error_readOption_iff :
    (∃ error, readOption key read default table = .error error ∧ error.key? = some spelling) ↔
      key.Offends table spelling := by
  have hrefused (value : Value) : (∃ fault, read value = .error fault) ↔ ¬ key.Accepts value := by
    rw [← accepts]
    cases read value <;> simp
  simp only [readOption_eq_error_iff, RuleKey.offends_iff, ← hrefused]
  constructor
  · rintro ⟨_, ⟨found, value, fault, hfound, hfault, rfl⟩, hkey⟩
    obtain rfl := Option.some.inj hkey
    exact ⟨value, hfound, fault, hfault⟩
  · rintro ⟨value, hfound, fault, hfault⟩
    exact ⟨_, ⟨spelling, value, fault, hfound, hfault, rfl⟩, rfl⟩

end Accepting

end Options

section Tables

variable {table : Table}

theorem exists_ruleOptions_iff :
    (∃ options, ruleOptions table = .ok options) ↔
      ∀ (key : RuleKey) (spelling : String), ¬ key.Offends table spelling := by
  constructor
  · rintro ⟨options, h⟩ key
    obtain ⟨henabled, hminimum, hallowed⟩ := ruleOptions_eq_ok_iff.1 h
    cases key with
    | enabled => exact (exists_readOption_iff exists_asTruth_iff).1 ⟨_, henabled⟩
    | minimum => exact (exists_readOption_iff exists_asMinimum_iff).1 ⟨_, hminimum⟩
    | allowed => exact (exists_readOption_iff exists_nameSet_iff).1 ⟨_, hallowed⟩
  · intro h
    obtain ⟨enabled, henabled⟩ := (exists_readOption_iff exists_asTruth_iff).2 (h .enabled)
    obtain ⟨minimum, hminimum⟩ := (exists_readOption_iff exists_asMinimum_iff).2 (h .minimum)
    obtain ⟨allowed, hallowed⟩ := (exists_readOption_iff exists_nameSet_iff).2 (h .allowed)
    exact ⟨⟨minimum, allowed, enabled⟩,
      ruleOptions_eq_ok_iff.2 ⟨henabled, hminimum, hallowed⟩⟩

theorem exists_error_ruleOptions_iff {spelling : String} :
    (∃ error, ruleOptions table = .error error ∧ error.key? = some spelling) ↔
      FirstOffence table spelling := by
  -- The options are read one after another: those before the one that is blamed could be read.
  simp only [ruleOptions, bind_eq_error_iff]
  constructor
  · rintro ⟨error, h, hkey⟩
    rcases h with h | ⟨b, hb, h | ⟨n, hn, h | ⟨_, _, h⟩⟩⟩
    · refine ⟨.enabled, (exists_error_readOption_iff exists_asTruth_iff).1 ⟨error, h, hkey⟩, ?_⟩
      simp [RuleKey.earlier]
    · refine ⟨.minimum, (exists_error_readOption_iff exists_asMinimum_iff).1 ⟨error, h, hkey⟩, ?_⟩
      simp only [RuleKey.earlier, List.forall_mem_singleton]
      exact (exists_readOption_iff exists_asTruth_iff).1 ⟨b, hb⟩
    · refine ⟨.allowed, (exists_error_readOption_iff exists_nameSet_iff).1 ⟨error, h, hkey⟩, ?_⟩
      simp only [RuleKey.earlier, List.forall_mem_cons, List.not_mem_nil, false_imp_iff,
        implies_true, and_true]
      exact ⟨(exists_readOption_iff exists_asTruth_iff).1 ⟨b, hb⟩,
        (exists_readOption_iff exists_asMinimum_iff).1 ⟨n, hn⟩⟩
    · cases h
  · rintro ⟨key, offends, hearlier⟩
    cases key with
    | enabled =>
      obtain ⟨error, h, hkey⟩ := (exists_error_readOption_iff exists_asTruth_iff).2 offends
      exact ⟨error, .inl h, hkey⟩
    | minimum =>
      obtain ⟨error, h, hkey⟩ := (exists_error_readOption_iff exists_asMinimum_iff).2 offends
      obtain ⟨b, hb⟩ := (exists_readOption_iff exists_asTruth_iff).2 (hearlier .enabled (by decide))
      exact ⟨error, .inr ⟨b, hb, .inl h⟩, hkey⟩
    | allowed =>
      obtain ⟨error, h, hkey⟩ := (exists_error_readOption_iff exists_nameSet_iff).2 offends
      obtain ⟨b, hb⟩ := (exists_readOption_iff exists_asTruth_iff).2 (hearlier .enabled (by decide))
      obtain ⟨n, hn⟩ := (exists_readOption_iff exists_asMinimum_iff).2
        (hearlier .minimum (by decide))
      exact ⟨error, .inr ⟨b, hb, .inr ⟨n, hn, .inl h⟩⟩, hkey⟩

theorem ruleOptions_eq_ok_iff_givenBy {options : RuleOptions}
    (accepted : ∀ (key : RuleKey) (spelling : String), ¬ key.Offends table spelling) :
    ruleOptions table = .ok options ↔ GivenBy table options := by
  have hminimum (value : Value) (h : RuleKey.minimum.Accepts value) :
      asMinimum value = .ok options.minimum ↔ value = .int options.minimum := by
    obtain ⟨n, rfl, hn⟩ := h
    rw [asMinimum_eq_ok_iff, Value.int.injEq]
    omega
  rw [ruleOptions_eq_ok_iff, readOption_eq_ok_iff_decides, readOption_eq_ok_iff_decides,
    readOption_eq_ok_iff_decides,
    RuleKey.decides_congr (accepted .enabled) fun _ _ => asTruth_eq_ok_iff,
    RuleKey.decides_congr (accepted .minimum) hminimum,
    RuleKey.decides_congr (accepted .allowed) fun _ => nameSet_eq_ok_iff]
  exact ⟨fun ⟨enabled, minimum, allowed⟩ => ⟨enabled, minimum, allowed⟩,
    fun ⟨enabled, minimum, allowed⟩ => ⟨enabled, minimum, allowed⟩⟩

end Tables

/-- A table of the rule is refused just if an option has a value that it does not accept, and the
first such option is blamed by the spelling it is found under. Else each option has the value that
is given for it, or its default. -/
theorem ruleOptionsOf_exact (table : Table) :
    ((∃ error, ruleOptionsOf (.table table) = .error error) ↔
      ∃ (key : RuleKey) (spelling : String), key.Offends table spelling) ∧
    (∀ spelling, (∃ error, ruleOptionsOf (.table table) = .error error ∧
      error.key? = some spelling) ↔ FirstOffence table spelling) ∧
    ∀ options, ruleOptionsOf (.table table) = .ok options ↔
      (∀ (key : RuleKey) (spelling : String), ¬ key.Offends table spelling) ∧
        GivenBy table options := by
  rw [ruleOptionsOf]
  refine ⟨?_, fun spelling => exists_error_ruleOptions_iff, fun options => ?_⟩
  · have hfails : (∃ error, ruleOptions table = .error error) ↔
        ¬ ∃ options, ruleOptions table = .ok options := by
      cases ruleOptions table <;> simp
    rw [hfails, exists_ruleOptions_iff]
    simp only [not_forall, Classical.not_not]
  · constructor
    · intro h
      have accepted := exists_ruleOptions_iff.1 ⟨options, h⟩
      exact ⟨accepted, (ruleOptions_eq_ok_iff_givenBy accepted).1 h⟩
    · rintro ⟨accepted, given⟩
      exact (ruleOptions_eq_ok_iff_givenBy accepted).2 given

example : ruleOptionsOf (.table [("Prefixes", .int 1), ("max_fields", .bool true),
    ("enabled", .int 2), ("Enabled", .text "oFF")]) =
      .error (.invalidOption "max_fields" .notInteger) := by decide +kernel

end Config

end FieldGrouping
