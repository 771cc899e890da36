import FieldGrouping.Proofs.Source.Collecting

/-!
When the types of a well-formed source are known. A field may be given a name as a literal, and a
literal may have no text; the literals of a field are gone through up to the first one that names
something. One such field in a recognised definition leaves the whole source without types. A
malformed literal has no value at all, while a literal with a surrogate has a value that is no text.
-/

set_option autoImplicit false

namespace FieldGrouping.Source

/-- The literal that an argument gives as a name. -/
def nameLiteral? : Passing × Expr → Option Literal
  | (.keyword "name", e) =>
    match e.bare with
    | .literal l => some l
    | _ => none
  | _ => none

/-- A literal that names nothing: one of bytes, or an empty one. -/
def Literal.NamesNothing (host : Host) (l : Literal) : Prop :=
  l.text? host = .ok none ∨ l.text? host = .ok (some "")

/-- Among some literals, up to the first that names something, one has no text, for a reason of a
kind. -/
def FaultyName (host : Host) (kind : LiteralFault → Prop) (literals : List Literal) : Prop :=
  ∃ before l after fault, literals = before ++ l :: after ∧
    (∀ e ∈ before, e.NamesNothing host) ∧ l.text? host = .error fault ∧ kind fault

/-- A statement that declares a field by a name without a text. A private attribute declares none,
whatever its name. -/
def Stmt.Faulty (host : Host) (kind : LiteralFault → Prop) (s : Stmt) : Prop :=
  ∃ w arguments, s.attribute? = some (w, arguments) ∧ isPrivate w.text = false ∧
    FaultyName host kind (arguments.filterMap nameLiteral?)

/-- A definition in whose body a field is declared by a name without a text. -/
def Definition.Faulty (host : Host) (kind : LiteralFault → Prop) (definition : Definition) : Prop :=
  ∃ s ∈ definition.body, s.Faulty host kind

/-- No field of a recognised definition is named by a literal without a text, for a reason of a
kind. -/
def FreeOf (host : Host) (kind : LiteralFault → Prop) (recognition : Recognition)
    (statements : List Stmt) : Prop :=
  ∀ definition ∈ definitionsIn [] statements, definition.isRecognised recognition = true →
    ¬ definition.Faulty host kind

/-- A well-formed source all of whose names can be evaluated. -/
def Evaluates (host : Host) (recognition : Recognition) (text : String) : Prop :=
  ∃ statements, parse? text = some statements ∧
    FreeOf host (· ≠ .surrogate) recognition statements

/-- A source in which no name has a surrogate. -/
def Spelled (host : Host) (recognition : Recognition) (text : String) : Prop :=
  ∀ statements, parse? text = some statements →
    FreeOf host (· = .surrogate) recognition statements

section Names

variable {host : Host} {kind : LiteralFault → Prop}

theorem faultyName_cons {l : Literal} {literals : List Literal} :
    FaultyName host kind (l :: literals) ↔
      (∃ fault, l.text? host = .error fault ∧ kind fault) ∨
        l.NamesNothing host ∧ FaultyName host kind literals := by
  constructor
  · rintro ⟨before, found, after, fault, he, hb, hf⟩
    cases before with
    | nil =>
      cases he
      exact .inl ⟨fault, hf⟩
    | cons first before =>
      cases he
      exact .inr ⟨hb l (by simp), before, found, after, fault, rfl,
        fun e he => hb e (by simp [he]), hf⟩
  · rintro (⟨fault, hf⟩ | ⟨hn, before, found, after, fault, rfl, hb, hf⟩)
    · exact ⟨[], l, literals, fault, rfl, by simp, hf⟩
    · exact ⟨l :: before, found, after, fault, rfl, by simpa using ⟨hn, hb⟩, hf⟩

theorem declaredName?_cons (argument : Passing × Expr) (rest : List (Passing × Expr)) :
    declaredName? host (argument :: rest) =
      match nameLiteral? argument with
      | none => declaredName? host rest
      | some l =>
        match l.text? host with
        | .error fault => .error fault
        | .ok none => declaredName? host rest
        | .ok (some text) => if text = "" then declaredName? host rest else .ok (some text) := by
  obtain ⟨passing, e⟩ := argument
  by_cases h : ∃ l, passing = .keyword "name" ∧ e.bare = .literal l
  · obtain ⟨l, rfl, hl⟩ := h
    have hname : nameLiteral? (.keyword "name", e) = some l := by simp [nameLiteral?, hl]
    cases ht : l.text? host with
    | error fault => simp [declaredName?, hname, hl, ht]
    | ok text => cases text <;> simp [declaredName?, hname, hl, ht]
  · have hother : ∀ l, passing = .keyword "name" → e.bare = .literal l → False :=
      fun l hp hl => h ⟨l, hp, hl⟩
    have hnone : nameLiteral? (passing, e) = none := by
      unfold nameLiteral?
      split
      · rename_i heq
        cases heq
        split
        · rename_i l hl
          exact (hother l rfl hl).elim
        · rfl
      · rfl
    rw [declaredName?, hnone]
    exact hother

/-- The first literal without a text decides why a name is not known. -/
theorem exists_declaredName?_error_iff (host : Host) (kind : LiteralFault → Prop)
    (arguments : List (Passing × Expr)) :
    (∃ fault, declaredName? host arguments = .error fault ∧ kind fault) ↔
      FaultyName host kind (arguments.filterMap nameLiteral?) := by
  induction arguments with
  | nil => simp [declaredName?, FaultyName]
  | cons argument rest ih =>
    rw [declaredName?_cons, List.filterMap_cons]
    cases nameLiteral? argument with
    | none => exact ih
    | some l =>
      simp only [faultyName_cons, Literal.NamesNothing]
      cases l.text? host with
      | error fault => simp
      | ok text =>
        cases text with
        | none => simpa using ih
        | some text =>
          by_cases ht : text = ""
          · simpa [ht] using ih
          · simp [ht]

end Names

section Fields

variable {host : Host} {kind : LiteralFault → Prop} {path : Path} {typeName : String}

/-- The field of a statement is not known just if its name is faulty. -/
theorem exists_field?_error_iff {s : Stmt} :
    (∃ fault, s.field? host path typeName = .error fault ∧ kind fault) ↔ s.Faulty host kind := by
  unfold Stmt.field? Stmt.Faulty
  cases s.attribute? with
  | none => simp
  | some found =>
    obtain ⟨w, arguments⟩ := found
    cases hp : isPrivate w.text with
    | true => simp [hp]
    | false =>
      have hiff := exists_declaredName?_error_iff host kind arguments
      cases hd : declaredName? host arguments with
      | error fault => simpa [hd, hp] using hiff
      | ok declared =>
        have hn : ¬ FaultyName host kind (arguments.filterMap nameLiteral?) := by
          rw [← hiff, hd]
          simp
        by_cases hq : isPrivate (declared.getD w.text) = true <;> simp [hp, hd, hq, hn]

theorem exists_fieldsIn_iff {body : List Stmt} :
    (∃ fields, fieldsIn host path typeName body = .ok fields) ↔
      ∀ s ∈ body, ∃ field, s.field? host path typeName = .ok field := by
  induction body with
  | nil => simp [fieldsIn]
  | cons s rest ih =>
    rw [List.forall_mem_cons, ← ih]
    simp only [fieldsIn, bind_eq_ok_iff]
    constructor
    · rintro ⟨_, field, hf, fields, hr, _⟩
      exact ⟨⟨field, hf⟩, fields, hr⟩
    · rintro ⟨⟨field, hf⟩, fields, hr⟩
      exact ⟨_, field, hf, fields, hr, rfl⟩

theorem exists_of_fieldsIn_eq_error {body : List Stmt} {fault : LiteralFault}
    (h : fieldsIn host path typeName body = .error fault) :
    ∃ s ∈ body, s.field? host path typeName = .error fault := by
  induction body with
  | nil => cases h
  | cons s rest ih =>
    simp only [fieldsIn, bind_eq_error_iff] at h
    obtain hfield | ⟨_, _, hrest | ⟨_, _, hpure⟩⟩ := h
    · exact ⟨s, by simp, hfield⟩
    · obtain ⟨other, hmem, hother⟩ := ih hrest
      exact ⟨other, by simp [hmem], hother⟩
    · cases hpure

end Fields

section Definitions

variable {host : Host} {path : Path} {definition : Definition}

theorem exists_declaration_iff :
    (∃ type, definition.declaration host path = .ok type) ↔
      ∃ fields, fieldsIn host path definition.qualifiedName definition.body = .ok fields := by
  simp only [Definition.declaration, bind_eq_ok_iff]
  constructor
  · rintro ⟨_, fields, hf, _⟩
    exact ⟨fields, hf⟩
  · rintro ⟨fields, hf⟩
    exact ⟨_, fields, hf, rfl⟩

theorem faulty_of_declaration_eq_error {kind : LiteralFault → Prop} {fault : LiteralFault}
    (h : definition.declaration host path = .error fault) (hkind : kind fault) :
    definition.Faulty host kind := by
  simp only [Definition.declaration, bind_eq_error_iff] at h
  obtain hfields | ⟨_, _, hpure⟩ := h
  · obtain ⟨s, hs, hfield⟩ := exists_of_fieldsIn_eq_error hfields
    exact ⟨s, hs, exists_field?_error_iff.1 ⟨fault, hfield, hkind⟩⟩
  · cases hpure

theorem not_faulty_of_declaration {kind : LiteralFault → Prop} {type : TypeDeclaration}
    (h : definition.declaration host path = .ok type) : ¬ definition.Faulty host kind := by
  rintro ⟨s, hs, hfaulty⟩
  obtain ⟨fault, hfault, _⟩ := exists_field?_error_iff.2 hfaulty
  obtain ⟨field, hfield⟩ := exists_fieldsIn_iff.1 (exists_declaration_iff.1 ⟨type, h⟩) s hs
  cases hfault.symm.trans hfield

end Definitions

section Sources

variable {host : Host} {path : Path} {recognition : Recognition} {text : String}

theorem freeOf_of_declarationsIn {kind : LiteralFault → Prop} {statements : List Stmt}
    {types : List TypeDeclaration}
    (h : declarationsIn host path recognition statements = .ok types) :
    FreeOf host kind recognition statements := by
  rw [declarationsIn_eq, declaredBy] at h
  intro definition hmem hrecognised
  obtain ⟨type, htype⟩ := exists_mapM_eq_ok_iff.1 ⟨types, h⟩ definition
    (List.mem_filter.2 ⟨hmem, hrecognised⟩)
  exact not_faulty_of_declaration htype

theorem not_freeOf_of_declarationsIn {kind : LiteralFault → Prop} {statements : List Stmt}
    {fault : LiteralFault} (h : declarationsIn host path recognition statements = .error fault)
    (hkind : kind fault) : ¬ FreeOf host kind recognition statements := by
  rw [declarationsIn_eq, declaredBy] at h
  obtain ⟨definition, hmem, hfault⟩ := exists_of_mapM_eq_error h
  obtain ⟨hmem, hrecognised⟩ := List.mem_filter.1 hmem
  exact fun hfree => hfree definition hmem hrecognised (faulty_of_declaration_eq_error hfault hkind)

theorem evaluates_of_declarations {types : List TypeDeclaration}
    (h : declarations host path recognition text = .ok types) :
    Evaluates host recognition text := by
  unfold declarations at h
  split at h
  · cases h
  · next statements hparse =>
    exact ⟨statements, hparse, freeOf_of_declarationsIn (mapError_eq_ok_iff.1 h)⟩

theorem spelled_of_declarations {types : List TypeDeclaration}
    (h : declarations host path recognition text = .ok types) : Spelled host recognition text := by
  intro statements hparse
  simp only [declarations, hparse, mapError_eq_ok_iff] at h
  exact freeOf_of_declarationsIn h

theorem not_spelled_of_declarations
    (h : declarations host path recognition text = .error (.literal .surrogate)) :
    ¬ Spelled host recognition text := by
  unfold declarations at h
  split at h
  · cases h
  · next statements hparse =>
    obtain ⟨fault, hfault, heq⟩ := mapError_eq_error_iff.1 h
    cases heq
    exact fun spelled =>
      absurd (spelled statements hparse) (not_freeOf_of_declarationsIn hfault rfl)

/-- A source whose names can be evaluated has types, but for names with a surrogate. -/
theorem exists_declarations (path : Path) (evaluates : Evaluates host recognition text)
    (spelled : Spelled host recognition text) :
    ∃ types, declarations host path recognition text = .ok types := by
  obtain ⟨statements, hparse, hfree⟩ := evaluates
  cases hin : declarationsIn host path recognition statements with
  | ok types => exact ⟨types, by simp [declarations, hparse, hin, Except.mapError]⟩
  | error fault =>
    -- Each kind of fault is ruled out by one of the two conditions.
    by_cases hsurrogate : fault = .surrogate
    · exact absurd (spelled statements hparse) (not_freeOf_of_declarationsIn hin hsurrogate)
    · exact absurd hfree (not_freeOf_of_declarationsIn hin hsurrogate)

theorem declarations_eq_malformed_iff {complaint : String} :
    declarations host path recognition text = .error (.malformed complaint) ↔
      parse? text = none ∧ complaint = host.sourceComplaint text := by
  unfold declarations
  cases parse? text with
  | none => simp [eq_comm]
  | some statements =>
    cases hd : declarationsIn host path recognition statements <;> simp [hd, Except.mapError]

end Sources

/-- A host that knows the name of one character. -/
def hyphenHost : Host where
  characterNamed? name := if name = "HYPHEN-MINUS" then some '-' else none
  sourceComplaint _ := "Syntax Error"
  documentComplaint _ := "Invalid statement"

end FieldGrouping.Source
