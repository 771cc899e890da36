import FieldGrouping.Sorting
import FieldGrouping.Source.Collection
import FieldGrouping.Text.LowerCase

/-!
Readers of sources by language and by file extension. The case of letters does not count, and of
several registrations under one key the last one counts. The registry is polymorphic in what is
registered.
-/

set_option autoImplicit false

namespace FieldGrouping.Source

/-- What is registered, the newest first, under keys in small letters. -/
structure Registry (σ : Type) where
  languages : List (String × σ)
  extensions : List (String × σ)

structure UnknownLanguage where
  language : String
  deriving DecidableEq, Repr

def UnknownLanguage.message (error : UnknownLanguage) : String :=
  "unknown field source: " ++ error.language

namespace Registry

variable {σ : Type}

def empty : Registry σ :=
  ⟨[], []⟩

def entries (keys : List String) (reader : σ) : List (String × σ) :=
  keys.map fun key => (Text.lower key, reader)

def register (language : String) (extensions : List String) (reader : σ) (registry : Registry σ) :
    Registry σ :=
  ⟨(Text.lower language, reader) :: registry.languages,
   entries extensions reader ++ registry.extensions⟩

def forLanguage? (registry : Registry σ) (language : String) : Option σ :=
  registry.languages.lookup (Text.lower language)

def forExtension? (registry : Registry σ) (extension : String) : Option σ :=
  registry.extensions.lookup (Text.lower extension)

theorem forLanguage?_register (registry : Registry σ) (language : String) (extensions : List String)
    (reader : σ) (asked : String) :
    (registry.register language extensions reader).forLanguage? asked =
      if Text.lower asked = Text.lower language then some reader
      else registry.forLanguage? asked := by
  by_cases h : Text.lower asked = Text.lower language
  · simp [forLanguage?, register, h]
  · have h' : (Text.lower asked == Text.lower language) = false := by simpa using h
    simp [forLanguage?, register, List.lookup_cons, h, h']

theorem lookup_entries_append (keys : List String) (reader : σ) (rest : List (String × σ))
    (asked : String) :
    (entries keys reader ++ rest).lookup asked =
      if asked ∈ keys.map Text.lower then some reader else rest.lookup asked := by
  induction keys with
  | nil => simp [entries]
  | cons key keys ih =>
    by_cases h : asked = Text.lower key
    · simp [entries, h]
    · have h' : (asked == Text.lower key) = false := by simpa using h
      simpa [entries, List.lookup_cons, h, h'] using ih

theorem forExtension?_register (registry : Registry σ) (language : String)
    (extensions : List String) (reader : σ) (asked : String) :
    (registry.register language extensions reader).forExtension? asked =
      if Text.lower asked ∈ extensions.map Text.lower then some reader
      else registry.forExtension? asked :=
  lookup_entries_append extensions reader registry.extensions (Text.lower asked)

def knownExtensions (registry : Registry σ) : List String :=
  distinctSorted (registry.extensions.map (·.1))

def resolve (registry : Registry σ) (path : Path) (language : Option String) :
    Except UnknownLanguage (Option σ) :=
  match language with
  | none => .ok (registry.forExtension? path.suffix)
  | some language =>
    match registry.forLanguage? language with
    | none => .error ⟨language⟩
    | some reader => .ok (some reader)

end Registry

structure Reader where
  language : String
  extensions : List String
  read : Path → Recognition → String → Except SourceFault (List TypeDeclaration)

def Reader.python (host : Host) : Reader :=
  ⟨"python", [".py", ".pyi"], declarations host⟩

def Registry.standard (host : Host) : Registry Reader :=
  let python := Reader.python host
  Registry.empty.register python.language python.extensions python

end FieldGrouping.Source
