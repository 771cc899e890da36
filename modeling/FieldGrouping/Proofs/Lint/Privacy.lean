import FieldGrouping.Proofs.Lint.Isolation
import FieldGrouping.Proofs.Source.Definitions
import FieldGrouping.Proofs.Text.SnakeCase

/-!
Which private names reach the rule. A private name is left out before it goes to snake case, and
there only a hyphen in front becomes an underscore. No attribute begins with a hyphen, so that just
the declared names that do give fields with private names.
-/

set_option autoImplicit false

namespace FieldGrouping

namespace Source

/-- Whether a statement declares a public attribute under a name with a hyphen in front. -/
def Stmt.isHyphenNamed (host : Host) (s : Stmt) : Bool :=
  match s.attribute? with
  | none => false
  | some (w, arguments) =>
    !isPrivate w.text &&
      match declaredName? host arguments with
      | .ok (some name) => name.toList.head? == some '-'
      | _ => false

/-- The private names among the fields of a declared type: just the statements of its definition
that give a name with a hyphen in front declare one. -/
structure PrivateByHyphen (host : Host) (path : Path) (definition : Definition)
    (type : TypeDeclaration) : Prop where
  fields : ∀ field ∈ type.fields, isPrivate field.name = true →
    ∃ s ∈ definition.body, s.isHyphenNamed host = true ∧
      s.field? host path type.name = .ok (some field)
  statements : ∀ s ∈ definition.body, s.isHyphenNamed host = true →
    ∃ field ∈ type.fields, isPrivate field.name = true ∧
      s.field? host path type.name = .ok (some field)

section Names

variable {host : Host} {path : Path} {typeName : String}

theorem isPrivate_iff {name : String} : isPrivate name = true ↔ name.toList.head? = some '_' := by
  simp [isPrivate]

theorem isPrivate_snakeCase_iff (name : String) :
    isPrivate (Text.snakeCase name) = true ↔
      isPrivate name = true ∨ name.toList.head? = some '-' := by
  rw [isPrivate_iff, isPrivate_iff, Text.snakeCase, String.toList_ofList,
    Text.head?_snakeChars_iff]

theorem isHyphenNamed_iff {s : Stmt} :
    s.isHyphenNamed host = true ↔
      ∃ w arguments name, s.attribute? = some (w, arguments) ∧ isPrivate w.text = false ∧
        declaredName? host arguments = .ok (some name) ∧ name.toList.head? = some '-' := by
  unfold Stmt.isHyphenNamed
  cases s.attribute? with
  | none => simp
  | some found =>
    obtain ⟨w, arguments⟩ := found
    cases hd : declaredName? host arguments with
    | error fault => simp [hd]
    | ok declared => cases declared <;> simp [hd]

theorem exists_field?_of_isHyphenNamed {s : Stmt} (h : s.isHyphenNamed host = true) :
    ∃ field, s.field? host path typeName = .ok (some field) := by
  obtain ⟨w, arguments, name, hattribute, hpublic, hdeclared, hhyphen⟩ := isHyphenNamed_iff.1 h
  have hname : isPrivate name = false := by simp [isPrivate, hhyphen]
  exact ⟨_, field?_eq_some_iff.2
    ⟨w, arguments, some name, hattribute, hpublic, hdeclared, hname, rfl⟩⟩

theorem head?_ne_hyphen_of_isNamed {w : Word} (named : w.isNamed = true) :
    w.text.toList.head? ≠ some '-' := by
  intro h
  rw [Word.isNamed, h] at named
  revert named
  decide

/-- A field has a private name just if its statement gives it one with a hyphen in front. -/
theorem isPrivate_name_iff {s : Stmt} (named : ∀ w ∈ s.words, w.isNamed = true) {field : Field}
    (h : s.field? host path typeName = .ok (some field)) :
    isPrivate field.name = true ↔ s.isHyphenNamed host = true := by
  obtain ⟨w, arguments, declared, hattribute, hpublic, hdeclared, hname, rfl⟩ :=
    field?_eq_some_iff.1 h
  simp only [isPrivate_snakeCase_iff, hname, Bool.false_eq_true, false_or, isHyphenNamed_iff]
  cases declared with
  | none =>
    have hne := head?_ne_hyphen_of_isNamed (named w (mem_words_of_attribute? hattribute))
    simp [hattribute, hdeclared, hne]
  | some name => simp [hattribute, hdeclared, hpublic]

theorem privateByHyphen_of_declaration {definition : Definition} {type : TypeDeclaration}
    (h : definition.declaration host path = .ok type)
    (named : ∀ w ∈ wordsIn definition.body, w.isNamed = true) :
    PrivateByHyphen host path definition type := by
  obtain ⟨fields, hfields, rfl⟩ := declaration_eq_ok_iff.1 h
  have hiff {s : Stmt} (hs : s ∈ definition.body) {field : Field}
      (hfield : s.field? host path definition.qualifiedName = .ok (some field)) :
      isPrivate field.name = true ↔ s.isHyphenNamed host = true := by
    refine isPrivate_name_iff (fun w hw => named w ?_) hfield
    rw [wordsIn_eq]
    exact List.mem_flatMap.2 ⟨s, hs, hw⟩
  constructor
  · intro field hmem hprivate
    obtain ⟨s, hs, hfield⟩ := (mem_fieldsIn hfields).1 hmem
    exact ⟨s, hs, (hiff hs hfield).1 hprivate, hfield⟩
  · intro s hs hhyphen
    obtain ⟨field, hfield⟩ := exists_field?_of_isHyphenNamed hhyphen
    exact ⟨field, (mem_fieldsIn hfields).2 ⟨s, hs, hfield⟩, (hiff hs hfield).2 hhyphen, hfield⟩

theorem named_of_mem_wordsIn {text : String} {statements : List Stmt}
    (h : parse? text = some statements) {w : Word} (hw : w ∈ wordsIn statements) :
    w.isNamed = true := by
  obtain ⟨tokens, htokens, hwords⟩ := wordsIn_sublist_of_parse? h
  exact (advances_of_tokens? htokens).named w (hwords.subset hw)

theorem privateByHyphen_of_declarations {recognition : Recognition} {text : String}
    {types : List TypeDeclaration} (h : declarations host path recognition text = .ok types) :
    ∃ statements, parse? text = some statements ∧
      List.Forall₂ (PrivateByHyphen host path)
        ((definitionsIn [] statements).filter (·.isRecognised recognition)) types := by
  obtain ⟨statements, hparse, hin⟩ := declarations_eq_ok_iff.1 h
  refine ⟨statements, hparse, ?_⟩
  refine (forall₂_and_mem (declarationsIn_eq_ok_iff.1 hin)).imp fun definition type hd => ?_
  have hbody := wordsIn_body_sublist (List.mem_of_mem_filter hd.1)
  exact privateByHyphen_of_declaration hd.2 fun w hw =>
    named_of_mem_wordsIn hparse (hbody.subset hw)

end Names

end Source

namespace Lint

open Files (Workspace)
open Source (Registry declarations definitionsIn parse? isPrivate PrivateByHyphen Evaluates Spelled)

theorem isPrivate_of_covers {stem name : String} (h : Covers stem name)
    (hstem : stem = "" ∨ isPrivate stem = true) : isPrivate name = true := by
  obtain ⟨rest, hname⟩ := h
  rw [Source.isPrivate_iff] at hstem ⊢
  rw [← hname]
  rcases hstem with rfl | hstem
  · simp
  · simp [List.head?_append, hstem]

/-- A source with a definition in which a name has a hyphen in front. -/
def HasHyphenName (host : Host) (workspace : Workspace) (settings : Settings) (path : Path) :
    Prop :=
  ∃ text statements, workspace.readText path = .ok text ∧ parse? text = some statements ∧
    ∃ definition ∈ definitionsIn [] statements,
      definition.isRecognised settings.recognition = true ∧
        ∃ s ∈ definition.body, s.isHyphenNamed host = true

theorem hasHyphenName_of_mem_foundAt {host : Host} {workspace : Workspace} {settings : Settings}
    {path : Path} {diagnostic : Diagnostic}
    (h : diagnostic ∈ foundAt host workspace settings path)
    (hstem : diagnostic.stem = "" ∨ isPrivate diagnostic.stem = true) :
    HasHyphenName host workspace settings path := by
  obtain ⟨text, types, found, read, declared, checked, hd⟩ := exists_linted_of_mem_foundAt h
  obtain ⟨type, htype, field, hfield, _, hcovers⟩ := exists_field_of_mem_typesFound checked hd
  obtain ⟨statements, hparse, hprivate⟩ := Source.privateByHyphen_of_declarations declared
  obtain ⟨definition, hdefinition, hby⟩ := exists_left_of_mem hprivate htype
  obtain ⟨s, hs, hhyphen, _⟩ := hby.fields field hfield (isPrivate_of_covers hcovers hstem)
  obtain ⟨hmem, hrecognised⟩ := List.mem_filter.1 hdefinition
  exact ⟨text, statements, read, hparse, definition, hmem, hrecognised, s, hs, hhyphen⟩

/-- Two names with a hyphen in front, one of them spelled by its name. -/
def hyphenText : String :=
  "class A(ObjectType):\n x = F(name='-a')\n y = F(name='\\N\x7bHYPHEN-MINUS\x7db')\n"

def hyphenFile : Workspace :=
  ⟨[.folder "w" [.file "a.py" hyphenText.toUTF8.toList]], ["w"]⟩

end Lint

end FieldGrouping
