import FieldGrouping.Proofs.Source.Faults
import FieldGrouping.Proofs.Source.Fields
import FieldGrouping.Proofs.Source.StatementWords
import FieldGrouping.Proofs.Source.TokenWords

/-!
Which definitions of a source are declared, and in which order. A definition has an address, the
numbers of the statements and bodies that lead to it; every address is visited once, in the order of
the addresses and of the source, and the names of the definitions on the way make up the scope.
-/

set_option autoImplicit false

namespace FieldGrouping

/-- Whether a place comes before another one of the same source. -/
def Place.IsBefore (p q : Place) : Prop :=
  p.line < q.line ∨ p.line = q.line ∧ p.column < q.column

namespace Source

/-! ### Addresses -/

/-- The definition at an address: the number of a statement, for a compound statement the number of
one of its bodies, and so on into the body. Only definitions on the way add to the scope. -/
def definitionAt? (scope : List String) (body : List Stmt) : List Nat → Option Definition
  | [] => none
  | [i] =>
    match body[i]? with
    | some (.typeDefinition name decorators bases inner) =>
      some ⟨scope, name, decorators, bases, inner⟩
    | _ => none
  | i :: k :: address =>
    match body[i]? with
    | some (.typeDefinition name _ _ inner) =>
      definitionAt? (scope ++ [name.text]) inner (k :: address)
    | some (.compound bodies) =>
      match bodies[k]? with
      | some inner => definitionAt? scope inner address
      | none => none
    | _ => none

mutual

/-- The definitions in the statement of a number, each with its address. -/
def Stmt.addressed (scope : List String) (i : Nat) : Stmt → List (List Nat × Definition)
  | .typeDefinition name decorators bases body =>
    ([i], ⟨scope, name, decorators, bases, body⟩) ::
      (addressedIn (scope ++ [name.text]) 0 body).map fun found => (i :: found.1, found.2)
  | .compound bodies => (addressedInBodies scope 0 bodies).map fun found => (i :: found.1, found.2)
  | .assign _ _ => []
  | .annotate _ _ _ => []
  | .simple => []

/-- Those in statements that are numbered from `i` on. -/
def addressedIn (scope : List String) (i : Nat) : List Stmt → List (List Nat × Definition)
  | [] => []
  | s :: rest => s.addressed scope i ++ addressedIn scope (i + 1) rest

/-- Those in bodies that are numbered from `k` on. -/
def addressedInBodies (scope : List String) (k : Nat) :
    List (List Stmt) → List (List Nat × Definition)
  | [] => []
  | body :: rest =>
    ((addressedIn scope 0 body).map fun found => (k :: found.1, found.2)) ++
      addressedInBodies scope (k + 1) rest

end

section Addresses

theorem definitionAt?_cons_zero (scope : List String) (s : Stmt) (rest : List Stmt)
    (address : List Nat) :
    definitionAt? scope (s :: rest) (0 :: address) = definitionAt? scope [s] (0 :: address) := by
  cases address <;> simp [definitionAt?]

theorem definitionAt?_cons_succ (scope : List String) (s : Stmt) (rest : List Stmt) (i : Nat)
    (address : List Nat) :
    definitionAt? scope (s :: rest) ((i + 1) :: address) =
      definitionAt? scope rest (i :: address) := by
  cases address <;> simp [definitionAt?]

mutual

theorem map_addressed (scope : List String) (i : Nat) (s : Stmt) :
    (s.addressed scope i).map Prod.snd = s.definitions scope := by
  cases s with
  | typeDefinition name decorators bases body =>
    have hbody := map_addressedIn (scope ++ [name.text]) 0 body
    simpa [Stmt.addressed, Stmt.definitions, Function.comp_def] using hbody
  | compound bodies =>
    have hbodies := map_addressedInBodies scope 0 bodies
    simpa [Stmt.addressed, Stmt.definitions, Function.comp_def] using hbodies
  | assign _ _ | annotate _ _ _ | simple => simp [Stmt.addressed, Stmt.definitions]

theorem map_addressedIn (scope : List String) (i : Nat) (body : List Stmt) :
    (addressedIn scope i body).map Prod.snd = definitionsIn scope body := by
  match body with
  | [] => simp [addressedIn, definitionsIn]
  | s :: rest =>
    simp [addressedIn, definitionsIn, map_addressed scope i s, map_addressedIn scope (i + 1) rest]

theorem map_addressedInBodies (scope : List String) (k : Nat) (bodies : List (List Stmt)) :
    (addressedInBodies scope k bodies).map Prod.snd = definitionsInBodies scope bodies := by
  match bodies with
  | [] => simp [addressedInBodies, definitionsInBodies]
  | body :: rest =>
    have hbody := map_addressedIn scope 0 body
    have hrest := map_addressedInBodies scope (k + 1) rest
    simp [addressedInBodies, definitionsInBodies, Function.comp_def, hbody, hrest]

end

theorem definitionAt?_of_isSimple {s : Stmt} (h : s.isSimple = true) (scope : List String)
    (address : List Nat) : definitionAt? scope [s] (0 :: address) = none := by
  cases s <;> cases address <;> simp_all [definitionAt?, Stmt.isSimple]

/-- What it means to be found from the first number on. -/
theorem exists_address_iff {scope : List String} {body : List Stmt}
    {found : List Nat × Definition} :
    (∃ j address, found.1 = (0 + j) :: address ∧
        definitionAt? scope body (j :: address) = some found.2) ↔
      definitionAt? scope body found.1 = some found.2 := by
  obtain ⟨address, definition⟩ := found
  cases address <;> simp [definitionAt?]

mutual

theorem mem_addressed (scope : List String) (i : Nat) (s : Stmt) (found : List Nat × Definition) :
    found ∈ s.addressed scope i ↔
      ∃ address, found.1 = i :: address ∧
        definitionAt? scope [s] (0 :: address) = some found.2 := by
  obtain ⟨address, definition⟩ := found
  cases s with
  | typeDefinition name decorators bases body =>
    have hbody := mem_addressedIn (scope ++ [name.text]) 0 body
    simp only [exists_address_iff] at hbody
    simp only [Stmt.addressed, List.mem_cons, List.mem_map, hbody]
    constructor
    · rintro (h | ⟨inner, hat, h⟩)
      · cases h
        exact ⟨[], rfl, by simp [definitionAt?]⟩
      · cases h
        refine ⟨inner.1, rfl, ?_⟩
        cases haddress : inner.1 <;> simp_all [definitionAt?]
    · rintro ⟨rest, rfl, hat⟩
      cases rest with
      | nil => exact .inl (by simpa [definitionAt?, eq_comm] using hat)
      | cons k rest => exact .inr ⟨(k :: rest, definition), by simpa [definitionAt?] using hat, rfl⟩
  | compound bodies =>
    have hbodies := mem_addressedInBodies scope 0 bodies
    simp only [Nat.zero_add] at hbodies
    simp only [Stmt.addressed, List.mem_map, hbodies]
    constructor
    · rintro ⟨inner, ⟨k, body, rest, haddress, hbody, hat⟩, h⟩
      cases h
      exact ⟨inner.1, rfl, by simp [definitionAt?, haddress, hbody, hat]⟩
    · rintro ⟨rest, rfl, hat⟩
      cases rest with
      | nil => simp [definitionAt?] at hat
      | cons k rest =>
        cases hbody : bodies[k]? with
        | none => simp [definitionAt?, hbody] at hat
        | some body =>
          refine ⟨(k :: rest, definition), ⟨k, body, rest, rfl, hbody, ?_⟩, rfl⟩
          simpa [definitionAt?, hbody] using hat
  | assign _ _ | annotate _ _ _ | simple =>
    rw [Stmt.addressed]
    simp only [List.not_mem_nil, false_iff, not_exists, not_and]
    intro rest _
    rw [definitionAt?_of_isSimple rfl]
    simp

theorem mem_addressedIn (scope : List String) (i : Nat) (body : List Stmt)
    (found : List Nat × Definition) :
    found ∈ addressedIn scope i body ↔
      ∃ j address, found.1 = (i + j) :: address ∧
        definitionAt? scope body (j :: address) = some found.2 := by
  match body with
  | [] =>
    have hnone (j : Nat) (address : List Nat) :
        ¬ definitionAt? scope [] (j :: address) = some found.2 := by
      cases address <;> simp [definitionAt?]
    simp [addressedIn, hnone]
  | s :: rest =>
    rw [addressedIn, List.mem_append, mem_addressed scope i s, mem_addressedIn scope (i + 1) rest]
    constructor
    · rintro (⟨address, haddress, hat⟩ | ⟨j, address, haddress, hat⟩)
      · exact ⟨0, address, haddress, by rwa [definitionAt?_cons_zero]⟩
      · refine ⟨j + 1, address, ?_, by rwa [definitionAt?_cons_succ]⟩
        rw [haddress, Nat.add_right_comm, Nat.add_assoc]
    · rintro ⟨j, address, haddress, hat⟩
      cases j with
      | zero => exact .inl ⟨address, haddress, by rwa [definitionAt?_cons_zero] at hat⟩
      | succ j =>
        refine .inr ⟨j, address, ?_, by rwa [definitionAt?_cons_succ] at hat⟩
        rw [haddress, Nat.add_right_comm, Nat.add_assoc]

theorem mem_addressedInBodies (scope : List String) (k : Nat) (bodies : List (List Stmt))
    (found : List Nat × Definition) :
    found ∈ addressedInBodies scope k bodies ↔
      ∃ j body address, found.1 = (k + j) :: address ∧ bodies[j]? = some body ∧
        definitionAt? scope body address = some found.2 := by
  match bodies with
  | [] => simp [addressedInBodies]
  | body :: rest =>
    have hbody := mem_addressedIn scope 0 body
    simp only [exists_address_iff] at hbody
    rw [addressedInBodies, List.mem_append, mem_addressedInBodies scope (k + 1) rest]
    simp only [List.mem_map, hbody]
    constructor
    · rintro (⟨inner, hat, rfl⟩ | ⟨j, other, address, haddress, hother, hat⟩)
      · exact ⟨0, body, inner.1, rfl, rfl, hat⟩
      · refine ⟨j + 1, other, address, ?_, by simpa using hother, hat⟩
        rw [haddress, Nat.add_right_comm, Nat.add_assoc]
    · rintro ⟨j, other, address, haddress, hother, hat⟩
      cases j with
      | zero =>
        obtain rfl : body = other := by simpa using hother
        exact .inl ⟨(address, found.2), hat, Prod.ext haddress.symm rfl⟩
      | succ j =>
        refine .inr ⟨j, other, address, ?_, by simpa using hother, hat⟩
        rw [haddress, Nat.add_right_comm, Nat.add_assoc]

end

theorem pairwise_map_cons {found : List (List Nat × Definition)} (i : Nat)
    (h : found.Pairwise fun x y => x.1 < y.1) :
    (found.map fun x => (i :: x.1, x.2)).Pairwise fun x y => x.1 < y.1 :=
  List.pairwise_map.2 (h.imp fun hlt => List.cons_lt_cons_iff.2 (.inr ⟨rfl, hlt⟩))

mutual

theorem pairwise_addressed (scope : List String) (i : Nat) (s : Stmt) :
    (s.addressed scope i).Pairwise fun x y => x.1 < y.1 := by
  cases s with
  | typeDefinition name decorators bases body =>
    rw [Stmt.addressed]
    refine .cons ?_ (pairwise_map_cons i (pairwise_addressedIn _ 0 body))
    intro x hx
    obtain ⟨inner, hinner, rfl⟩ := List.mem_map.1 hx
    obtain ⟨j, address, haddress, _⟩ := (mem_addressedIn _ 0 body inner).1 hinner
    simp [haddress]
  | compound bodies =>
    rw [Stmt.addressed]
    exact pairwise_map_cons i (pairwise_addressedInBodies scope 0 bodies)
  | assign _ _ | annotate _ _ _ | simple => exact .nil

theorem pairwise_addressedIn (scope : List String) (i : Nat) (body : List Stmt) :
    (addressedIn scope i body).Pairwise fun x y => x.1 < y.1 := by
  match body with
  | [] => exact .nil
  | s :: rest =>
    rw [addressedIn, List.pairwise_append]
    refine ⟨pairwise_addressed scope i s, pairwise_addressedIn scope (i + 1) rest, ?_⟩
    intro x hx y hy
    obtain ⟨address, hx, _⟩ := (mem_addressed scope i s x).1 hx
    obtain ⟨j, further, hy, _⟩ := (mem_addressedIn scope (i + 1) rest y).1 hy
    rw [hx, hy, List.cons_lt_cons_iff]
    omega

theorem pairwise_addressedInBodies (scope : List String) (k : Nat) (bodies : List (List Stmt)) :
    (addressedInBodies scope k bodies).Pairwise fun x y => x.1 < y.1 := by
  match bodies with
  | [] => exact .nil
  | body :: rest =>
    rw [addressedInBodies, List.pairwise_append]
    refine ⟨pairwise_map_cons k (pairwise_addressedIn scope 0 body),
      pairwise_addressedInBodies scope (k + 1) rest, ?_⟩
    intro x hx y hy
    obtain ⟨inner, _, rfl⟩ := List.mem_map.1 hx
    obtain ⟨j, other, further, hy, _⟩ := (mem_addressedInBodies scope (k + 1) rest y).1 hy
    rw [hy, List.cons_lt_cons_iff]
    omega

end

end Addresses

/-! ### The order in the source -/

section Order

mutual

theorem names_definitions_sublist (scope : List String) (s : Stmt) :
    ((s.definitions scope).map (·.name)).Sublist s.words := by
  cases s with
  | typeDefinition name decorators bases body =>
    have hbody := names_definitionsIn_sublist (scope ++ [name.text]) body
    simp only [Stmt.definitions, List.map_cons, Stmt.words, List.append_assoc]
    exact (((hbody.trans (List.sublist_append_right _ _)).cons_cons name).trans
      (List.sublist_append_right _ _))
  | compound bodies =>
    simpa [Stmt.definitions] using names_definitionsInBodies_sublist scope bodies
  | assign _ _ | annotate _ _ _ | simple => simp [Stmt.definitions]

theorem names_definitionsIn_sublist (scope : List String) (body : List Stmt) :
    ((definitionsIn scope body).map (·.name)).Sublist (wordsIn body) := by
  match body with
  | [] => simp [definitionsIn]
  | s :: rest =>
    rw [definitionsIn, wordsIn, List.map_append]
    exact (names_definitions_sublist scope s).append (names_definitionsIn_sublist scope rest)

theorem names_definitionsInBodies_sublist (scope : List String) (bodies : List (List Stmt)) :
    ((definitionsInBodies scope bodies).map (·.name)).Sublist (wordsInBodies bodies) := by
  match bodies with
  | [] => simp [definitionsInBodies]
  | body :: rest =>
    rw [definitionsInBodies, wordsInBodies, List.map_append]
    exact (names_definitionsIn_sublist scope body).append
      (names_definitionsInBodies_sublist scope rest)

end

mutual

theorem wordsIn_body_sublist_words {scope : List String} {s : Stmt} {definition : Definition}
    (h : definition ∈ s.definitions scope) : (wordsIn definition.body).Sublist s.words := by
  cases s with
  | typeDefinition name decorators bases body =>
    rw [Stmt.definitions, List.mem_cons] at h
    rw [Stmt.words]
    rcases h with rfl | h
    · exact List.sublist_append_right _ _
    · exact (wordsIn_body_sublist h).trans (List.sublist_append_right _ _)
  | compound bodies =>
    rw [Stmt.definitions] at h
    rw [Stmt.words]
    exact wordsIn_body_sublist_bodies h
  | assign _ _ | annotate _ _ _ | simple => simp [Stmt.definitions] at h

theorem wordsIn_body_sublist {scope : List String} {body : List Stmt} {definition : Definition}
    (h : definition ∈ definitionsIn scope body) :
    (wordsIn definition.body).Sublist (wordsIn body) := by
  match body with
  | [] => simp [definitionsIn] at h
  | s :: rest =>
    rw [definitionsIn, List.mem_append] at h
    rw [wordsIn]
    rcases h with h | h
    · exact (wordsIn_body_sublist_words h).trans (List.sublist_append_left _ _)
    · exact (wordsIn_body_sublist h).trans (List.sublist_append_right _ _)

theorem wordsIn_body_sublist_bodies {scope : List String} {bodies : List (List Stmt)}
    {definition : Definition} (h : definition ∈ definitionsInBodies scope bodies) :
    (wordsIn definition.body).Sublist (wordsInBodies bodies) := by
  match bodies with
  | [] => simp [definitionsInBodies] at h
  | body :: rest =>
    rw [definitionsInBodies, List.mem_append] at h
    rw [wordsInBodies]
    rcases h with h | h
    · exact (wordsIn_body_sublist h).trans (List.sublist_append_left _ _)
    · exact (wordsIn_body_sublist_bodies h).trans (List.sublist_append_right _ _)

end

theorem words_bare (e : Expr) : e.bare.words = e.words := by
  fun_induction Expr.bare e with
  | case1 e ih => simpa using ih
  | case2 => rfl

theorem mem_words_of_attribute? {s : Stmt} {w : Word} {arguments : List (Passing × Expr)}
    (h : s.attribute? = some (w, arguments)) : w ∈ s.words := by
  have hname {e : Expr} (he : e.bare = .name w) : w ∈ e.words := by
    rw [← words_bare e, he]
    simp
  unfold Stmt.attribute? at h
  split at h
  · next target value =>
    split at h <;> cases h
    next htarget _ => simp [hname htarget]
  · next target typing value =>
    split at h
    · cases h
    · split at h <;> cases h
      · next htarget _ => simp [hname htarget]
      · next _ htarget => simp [hname htarget]
  · cases h

/-- Fields are located at words of the body, in their order. -/
theorem exists_words_of_fieldsIn {host : Host} {path : Path} {typeName : String}
    {body : List Stmt} {fields : List Field}
    (h : fieldsIn host path typeName body = .ok fields) :
    ∃ words : List Word, words.Sublist (wordsIn body) ∧
      fields.map (·.location) = words.map fun w => .place (w.place path typeName) := by
  induction body generalizing fields with
  | nil =>
    cases h
    exact ⟨[], by simp [wordsIn]⟩
  | cons s rest ih =>
    simp only [fieldsIn, bind_eq_ok_iff] at h
    obtain ⟨field, hfield, fields, hfields, heq⟩ := h
    cases heq
    obtain ⟨words, hwords, hmap⟩ := ih hfields
    rw [wordsIn]
    cases field with
    | none => exact ⟨words, hwords.trans (List.sublist_append_right _ _), hmap⟩
    | some field =>
      obtain ⟨w, arguments, _, hattribute, _, _, _, rfl⟩ := field?_eq_some_iff.1 hfield
      have hw : [w].Sublist s.words := List.singleton_sublist.2 (mem_words_of_attribute? hattribute)
      exact ⟨w :: words, hw.append hwords, by simp [hmap]⟩

end Order

/-! ### Declarations -/

/-- What a declared type says of the definition it comes from. -/
structure Describes (host : Host) (path : Path) (definition : Definition)
    (type : TypeDeclaration) : Prop where
  name : type.name = ".".intercalate (definition.scope ++ [definition.name.text])
  place : type.place = definition.name.place path type.name
  fields : ∃ found, List.Forall₂ (fun s field => s.field? host path type.name = .ok field)
      (definition.body.filter Stmt.isSimple) found ∧ type.fields = found.reduceOption
  places : ∃ places : List Place, type.fields.map (·.location) = places.map .place ∧
      places.Pairwise Place.IsBefore ∧ ∀ p ∈ places, p.typeName = type.name

section Declarations

variable {host : Host} {path : Path} {recognition : Recognition}

theorem isBefore_place {v w : Word} (h : v.mark < w.mark) (typeName typeName' : String) :
    (v.place path typeName).IsBefore (w.place path typeName') := by
  rw [Mark.lt_iff] at h
  simp only [Place.IsBefore, Word.place]
  omega

theorem describes_of_declaration {definition : Definition} {type : TypeDeclaration}
    (h : definition.declaration host path = .ok type)
    (ordered : (wordsIn definition.body).Pairwise fun v w => v.mark < w.mark) :
    Describes host path definition type := by
  obtain ⟨fields, hfields, rfl⟩ := declaration_eq_ok_iff.1 h
  refine ⟨rfl, rfl, ?_, ?_⟩
  · rw [← fieldsIn_filter_isSimple] at hfields
    exact fieldsIn_eq_ok_iff.1 hfields
  · obtain ⟨words, hwords, hmap⟩ := exists_words_of_fieldsIn hfields
    refine ⟨words.map (·.place path definition.qualifiedName),
      by simpa [Function.comp_def] using hmap, ?_, ?_⟩
    · exact List.pairwise_map.2 ((ordered.sublist hwords).imp fun hlt => isBefore_place hlt _ _)
    · simp [Word.place]

theorem pairwise_places {definitions : List Definition} {types : List TypeDeclaration}
    (h : List.Forall₂ (Describes host path) definitions types)
    (ordered : definitions.Pairwise fun d e => d.name.mark < e.name.mark) :
    types.Pairwise fun s t => s.place.IsBefore t.place := by
  induction h with
  | nil => exact .nil
  | cons hfirst hrest ih =>
    obtain ⟨hlt, hordered⟩ := List.pairwise_cons.1 ordered
    refine .cons (fun type ht => ?_) (ih hordered)
    obtain ⟨definition, hd, hdescribes⟩ := exists_left_of_mem hrest ht
    rw [hfirst.place, hdescribes.place]
    exact isBefore_place (hlt definition hd) _ _

theorem pairwise_wordsIn_of_parse? {text : String} {statements : List Stmt}
    (h : parse? text = some statements) :
    (wordsIn statements).Pairwise fun v w => v.mark < w.mark := by
  obtain ⟨tokens, htokens, hwords⟩ := wordsIn_sublist_of_parse? h
  exact (advances_of_tokens? htokens).ordered.sublist hwords

end Declarations

/-- A type in a method of another definition, with a compound statement in its body, and one that
follows it. -/
def nestedText : String :=
  "class A:\n def f():\n  class B(ObjectType):\n   y = F(); x: int\n   if x: z = F()\n" ++
    " class C(m.ObjectType): w = F(name='v\\N\x7bHYPHEN-MINUS\x7dw')\n"

end Source

end FieldGrouping
