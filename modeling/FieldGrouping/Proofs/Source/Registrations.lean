import FieldGrouping.Source.Registry
import Mathlib.Data.List.Basic

/-!
The registry after any history of calls. Under each key it finds the reader that was registered
last, and only registrations count: whatever is asked for, also in vain, leaves it as it is.
-/

set_option autoImplicit false

namespace FieldGrouping.Source

/-- The last element of a list that has a property. -/
def IsLast {α : Type} (p : α → Prop) (as : List α) (a : α) : Prop :=
  ∃ earlier later, as = earlier ++ a :: later ∧ p a ∧ ∀ b ∈ later, ¬ p b

theorem find?_reverse_eq_some_iff {α : Type} {p : α → Prop} [DecidablePred p] {as : List α}
    {a : α} :
    as.reverse.find? (p ·) = some a ↔ IsLast p as a := by
  rw [List.find?_eq_some_iff_append]
  constructor
  · rintro ⟨ha, later, earlier, heq, hlater⟩
    refine ⟨earlier.reverse, later.reverse, ?_, by simpa using ha, by simpa using hlater⟩
    rw [List.reverse_eq_iff] at heq
    simpa using heq
  · rintro ⟨earlier, later, rfl, ha, hlater⟩
    exact ⟨by simpa using ha, later.reverse, earlier.reverse, by simp, by simpa using hlater⟩

theorem find?_reverse_eq_none_iff {α : Type} {p : α → Prop} [DecidablePred p] {as : List α} :
    as.reverse.find? (p ·) = none ↔ ∀ a ∈ as, ¬ p a := by
  simp [List.find?_eq_none]

/-! ### One more reader -/

namespace Reader

/-- Whether a reader is for a language, the case of letters aside. -/
def HasLanguage (reader : Reader) (language : String) : Prop :=
  Text.lower language = Text.lower reader.language

/-- Whether an extension is one of those of a reader, the case of letters aside. -/
def HasExtension (reader : Reader) (extension : String) : Prop :=
  Text.lower extension ∈ reader.extensions.map Text.lower

instance (language : String) : DecidablePred (HasLanguage · language) :=
  fun reader => inferInstanceAs (Decidable (Text.lower language = Text.lower reader.language))

instance (extension : String) : DecidablePred (HasExtension · extension) :=
  fun reader =>
    inferInstanceAs (Decidable (Text.lower extension ∈ reader.extensions.map Text.lower))

end Reader

namespace Registry

/-- The registry with one more reader, under the keys that the reader has. -/
def add (reader : Reader) (registry : Registry Reader) : Registry Reader :=
  registry.register reader.language reader.extensions reader

variable {reader : Reader} {registry : Registry Reader}

theorem forLanguage?_add {language : String} :
    (registry.add reader).forLanguage? language =
      if reader.HasLanguage language then some reader else registry.forLanguage? language :=
  forLanguage?_register registry reader.language reader.extensions reader language

theorem forExtension?_add {extension : String} :
    (registry.add reader).forExtension? extension =
      if reader.HasExtension extension then some reader else registry.forExtension? extension :=
  forExtension?_register registry reader.language reader.extensions reader extension

theorem mem_knownExtensions_add {extension : String} :
    extension ∈ (registry.add reader).knownExtensions ↔
      (∃ own ∈ reader.extensions, Text.lower own = extension) ∨
        extension ∈ registry.knownExtensions := by
  simp [knownExtensions, add, register, entries]

theorem resolve_eq_error_iff {path : Path} {language : Option String} {error : UnknownLanguage} :
    registry.resolve path language = .error error ↔
      language = some error.language ∧ registry.forLanguage? error.language = none := by
  cases language with
  | none => simp [resolve]
  | some asked =>
    cases hfound : registry.forLanguage? asked with
    | none =>
      obtain ⟨unknown⟩ := error
      simp only [resolve, hfound, Except.error.injEq, UnknownLanguage.mk.injEq, Option.some.injEq]
      exact ⟨fun h => ⟨h, h ▸ hfound⟩, And.left⟩
    | some reader =>
      simp only [resolve, hfound, reduceCtorEq, Option.some.injEq, false_iff, not_and]
      rintro rfl
      simp [hfound]

end Registry

/-! ### Calls -/

/-- What can be asked of the registry. Only the first of these changes it. -/
inductive Call where
  | register (reader : Reader)
  | forLanguage (language : String)
  | forExtension (extension : String)
  | knownExtensions
  | resolve (path : Path) (language : Option String)

def Call.registered? : Call → Option Reader
  | .register reader => some reader
  | _ => none

namespace Registry

/-- The registry after a call. -/
def after (registry : Registry Reader) : Call → Registry Reader
  | .register reader => registry.add reader
  | _ => registry

/-- The readers that are registered after some calls, the built-in one first. -/
def registered (host : Host) (calls : List Call) : List Reader :=
  Reader.python host :: calls.filterMap Call.registered?

theorem foldl_after (registry : Registry Reader) (calls : List Call) :
    calls.foldl after registry =
      (calls.filterMap Call.registered?).foldl (fun registry reader => registry.add reader)
        registry := by
  induction calls generalizing registry with
  | nil => rfl
  | cons call calls ih => cases call <;> exact ih _

/-- The registry after some calls, filled from the readers with the last one in front. -/
theorem foldl_after_standard (host : Host) (calls : List Call) :
    calls.foldl after (standard host) = (registered host calls).reverse.foldr add empty := by
  rw [foldl_after, List.foldr_reverse]
  rfl

section Filled

variable (newest : List Reader)

theorem forLanguage?_foldr_add (language : String) :
    (newest.foldr add empty).forLanguage? language =
      newest.find? (·.HasLanguage language) := by
  induction newest with
  | nil => rfl
  | cons reader earlier ih =>
    rw [List.foldr_cons, forLanguage?_add, List.find?_cons, ih]
    by_cases h : reader.HasLanguage language <;> simp [h]

theorem forExtension?_foldr_add (extension : String) :
    (newest.foldr add empty).forExtension? extension =
      newest.find? (·.HasExtension extension) := by
  induction newest with
  | nil => rfl
  | cons reader earlier ih =>
    rw [List.foldr_cons, forExtension?_add, List.find?_cons, ih]
    by_cases h : reader.HasExtension extension <;> simp [h]

theorem mem_knownExtensions_foldr_add (extension : String) :
    extension ∈ (newest.foldr add empty).knownExtensions ↔
      ∃ reader ∈ newest, ∃ own ∈ reader.extensions, Text.lower own = extension := by
  induction newest with
  | nil => simp [knownExtensions, empty]
  | cons reader earlier ih =>
    rw [List.foldr_cons, mem_knownExtensions_add, ih, List.exists_mem_cons_iff]

end Filled

end Registry

/-- After any calls the registry finds the reader that was registered last under a language or an
extension, the built-in reader counting as the first. It knows the extensions that were registered,
in increasing order. Only a language that no registration matches cannot be resolved, and asking
for it changes nothing. -/
theorem last_registration_counts (host : Host) (calls : List Call) :
    let registry := calls.foldl Registry.after (Registry.standard host)
    let registered := Registry.registered host calls
    (∀ extension reader, registry.forExtension? extension = some reader ↔
      IsLast (·.HasExtension extension) registered reader) ∧
    (∀ extension, registry.forExtension? extension = none ↔
      ∀ reader ∈ registered, ¬ reader.HasExtension extension) ∧
    (∀ language reader, registry.forLanguage? language = some reader ↔
      IsLast (·.HasLanguage language) registered reader) ∧
    (∀ language, registry.forLanguage? language = none ↔
      ∀ reader ∈ registered, ¬ reader.HasLanguage language) ∧
    registry.knownExtensions.Pairwise (· < ·) ∧
    (∀ extension, extension ∈ registry.knownExtensions ↔
      ∃ reader ∈ registered, ∃ own ∈ reader.extensions, Text.lower own = extension) ∧
    ∀ path language,
      (∀ error, registry.resolve path language = .error error ↔
        language = some error.language ∧
          ∀ reader ∈ registered, ¬ reader.HasLanguage error.language) ∧
      registry.after (.resolve path language) = registry := by
  intro registry registered
  have hfilled : registry = registered.reverse.foldr Registry.add Registry.empty :=
    Registry.foldl_after_standard host calls
  have hextension (extension : String) : registry.forExtension? extension =
      registered.reverse.find? (·.HasExtension extension) := by
    rw [hfilled]
    exact Registry.forExtension?_foldr_add _ extension
  have hlanguage (language : String) : registry.forLanguage? language =
      registered.reverse.find? (·.HasLanguage language) := by
    rw [hfilled]
    exact Registry.forLanguage?_foldr_add _ language
  have hunknown (language : String) : registry.forLanguage? language = none ↔
      ∀ reader ∈ registered, ¬ reader.HasLanguage language := by
    rw [hlanguage]
    exact find?_reverse_eq_none_iff
  refine ⟨fun extension reader => ?_, fun extension => ?_, fun language reader => ?_, hunknown,
    pairwise_distinctSorted _, fun extension => ?_, fun path language => ⟨fun error => ?_, rfl⟩⟩
  · rw [hextension]
    exact find?_reverse_eq_some_iff
  · rw [hextension]
    exact find?_reverse_eq_none_iff
  · rw [hlanguage]
    exact find?_reverse_eq_some_iff
  · rw [hfilled, Registry.mem_knownExtensions_foldr_add]
    simp only [List.mem_reverse]
  · rw [Registry.resolve_eq_error_iff, hunknown]

end FieldGrouping.Source
