import FieldGrouping.NameSet
import FieldGrouping.Text.Blank
import Mathlib.Data.List.DropRight
import Mathlib.Data.List.Sort

/-!
What lists of names hold. A name that has been trimmed has no blank at either end, and a name from
a text with commas has no comma. The names of such a text are the pieces between its commas, less
the blanks around them, and joining texts with commas joins their names.
-/

set_option autoImplicit false

namespace FieldGrouping

theorem NameSet.eq_of_mem_iff {set other : NameSet} (h : ∀ name, name ∈ set ↔ name ∈ other) :
    set = other := by
  have hlist : set.toList = other.toList :=
    set.increasing.eq_of_mem_iff other.increasing h
  cases set
  cases other
  simpa using hlist

namespace Text

/-- A text that is not empty and has no blank at its ends. -/
structure Trimmed (text : String) : Prop where
  nonempty : text ≠ ""
  head : ∀ c, text.toList.head? = some c → isBlank c = false
  last : ∀ c, text.toList.getLast? = some c → isBlank c = false

/-- A text with blanks around it. -/
def Padded (inner cs : List Char) : Prop :=
  ∃ left right, cs = left ++ inner ++ right ∧ ∀ c ∈ left ++ right, isBlank c = true

/-- A text without the separator that stands between two of them, once one is put at each end. -/
def IsPiece (separator : Char) (cs piece : List Char) : Prop :=
  separator ∉ piece ∧ separator :: (piece ++ [separator]) <:+: separator :: (cs ++ [separator])

/-- A name between the commas of a text, less the blanks around it. -/
structure Listed (name : String) (cs : List Char) : Prop where
  trimmed : Trimmed name
  piece : ∃ piece, IsPiece ',' cs piece ∧ Padded name.toList piece

section Trim

variable {cs : List Char} {c : Char}

theorem trimChars_isPrefix (cs : List Char) : trimChars cs <+: cs.dropWhile isBlank :=
  List.rdropWhile_prefix isBlank _

theorem not_isBlank_of_head?_dropWhile (h : (cs.dropWhile isBlank).head? = some c) :
    isBlank c = false := by
  have hnot := List.head?_dropWhile_not isBlank cs
  rw [h] at hnot
  simpa using hnot

theorem not_isBlank_of_head?_trimChars (h : (trimChars cs).head? = some c) :
    isBlank c = false := by
  obtain ⟨rest, hrest⟩ := trimChars_isPrefix cs
  have hhead : (cs.dropWhile isBlank).head? = some c := by
    rw [← hrest, List.head?_append, h]
    rfl
  exact not_isBlank_of_head?_dropWhile hhead

theorem not_isBlank_of_getLast?_trimChars (h : (trimChars cs).getLast? = some c) :
    isBlank c = false := by
  rw [trimChars, List.getLast?_reverse] at h
  exact not_isBlank_of_head?_dropWhile h

theorem trimmed_trim {text : String} (h : trim text ≠ "") : Trimmed (trim text) where
  nonempty := h
  head c hc := by
    rw [trim, String.toList_ofList] at hc
    exact not_isBlank_of_head?_trimChars hc
  last c hc := by
    rw [trim, String.toList_ofList] at hc
    exact not_isBlank_of_getLast?_trimChars hc

theorem mem_trimAll {name : String} {texts : List String} :
    name ∈ trimAll texts ↔ name ≠ "" ∧ ∃ text ∈ texts, trim text = name := by
  simp [trimAll, and_comm]

theorem trimmed_of_mem_trimAll {name : String} {texts : List String} (h : name ∈ trimAll texts) :
    Trimmed name := by
  obtain ⟨hne, text, _, rfl⟩ := mem_trimAll.1 h
  exact trimmed_trim hne

theorem dropWhile_isBlank_append {gap : List Char} (blank : ∀ c ∈ gap, isBlank c = true)
    (solid : ∀ c, cs.head? = some c → isBlank c = false) :
    (gap ++ cs).dropWhile isBlank = cs := by
  rw [List.dropWhile_append_of_pos blank]
  cases cs with
  | nil => rfl
  | cons c cs =>
    have hc : ¬ isBlank c = true := by simp [solid c rfl]
    exact List.dropWhile_cons_of_neg hc

theorem padded_trimChars (cs : List Char) : Padded (trimChars cs) cs := by
  refine ⟨cs.takeWhile isBlank, (cs.dropWhile isBlank).rtakeWhile isBlank, ?_, fun c hc => ?_⟩
  · have hright : trimChars cs ++ (cs.dropWhile isBlank).rtakeWhile isBlank =
        cs.dropWhile isBlank := List.rdropWhile_append_rtakeWhile
    rw [List.append_assoc, hright, List.takeWhile_append_dropWhile]
  · rcases List.mem_append.1 hc with hc | hc
    · exact List.mem_takeWhile_imp hc
    · exact List.mem_rtakeWhile_imp hc

theorem trim_of_padded {text name : String} (trimmed : Trimmed name)
    (padded : Padded name.toList text.toList) : trim text = name := by
  obtain ⟨left, right, htext, hblank⟩ := padded
  have hne : name.toList ≠ [] := fun hnil => trimmed.nonempty (String.toList_eq_nil_iff.1 hnil)
  have hleft : text.toList.dropWhile isBlank = name.toList ++ right := by
    rw [htext, List.append_assoc]
    refine dropWhile_isBlank_append (fun c hc => hblank c (by simp [hc])) fun c hc => ?_
    rw [List.head?_append_of_ne_nil _ hne] at hc
    exact trimmed.head c hc
  have hright : (name.toList ++ right).reverse.dropWhile isBlank = name.toList.reverse := by
    rw [List.reverse_append]
    refine dropWhile_isBlank_append (fun c hc => ?_) fun c hc => ?_
    · exact hblank c (by simp [List.mem_reverse.1 hc])
    · exact trimmed.last c (by rwa [List.head?_reverse] at hc)
  rw [trim, trimChars, hleft, hright, List.reverse_reverse, String.ofList_toList]

theorem mem_trimAll_iff {name : String} {texts : List String} :
    name ∈ trimAll texts ↔
      Trimmed name ∧ ∃ text ∈ texts, Padded name.toList text.toList := by
  constructor
  · intro h
    obtain ⟨_, text, htext, heq⟩ := mem_trimAll.1 h
    refine ⟨trimmed_of_mem_trimAll h, text, htext, ?_⟩
    rw [← heq, trim, String.toList_ofList]
    exact padded_trimChars text.toList
  · rintro ⟨trimmed, text, htext, padded⟩
    exact mem_trimAll.2 ⟨trimmed.nonempty, text, htext, trim_of_padded trimmed padded⟩

theorem trim_eq_self {name : String} (trimmed : Trimmed name) : trim name = name :=
  trim_of_padded trimmed ⟨[], [], by simp, by simp⟩

theorem trimAll_append (texts others : List String) :
    trimAll (texts ++ others) = trimAll texts ++ trimAll others := by
  simp [trimAll]

theorem trimAll_eq_self {names : List String} (trimmed : ∀ name ∈ names, Trimmed name) :
    trimAll names = names := by
  have hmap : names.map trim = names.map id :=
    List.map_congr_left fun name hname => trim_eq_self (trimmed name hname)
  rw [trimAll, hmap, List.map_id, List.filter_eq_self]
  intro name hname
  simpa using (trimmed name hname).nonempty

end Trim

section Split

variable {separator c : Char} {cs piece : List Char}

theorem splitChars_cons_self (separator : Char) (cs : List Char) :
    splitChars separator (separator :: cs) = [] :: splitChars separator cs := by
  simp [splitChars]

theorem splitChars_cons_of_ne (h : c ≠ separator) (cs : List Char) :
    splitChars separator (c :: cs) = (splitChars separator cs).modifyHead (c :: ·) := by
  rw [splitChars, if_neg h]
  cases hsplit : splitChars separator cs with
  | nil => exact absurd hsplit (splitChars_ne_nil separator cs)
  | cons first pieces => rfl

/-- What stands on the two sides of a separator is cut on its own. -/
theorem splitChars_append (separator : Char) (cs rest : List Char) :
    splitChars separator (cs ++ separator :: rest) =
      splitChars separator cs ++ splitChars separator rest := by
  induction cs with
  | nil => exact splitChars_cons_self separator rest
  | cons c cs ih =>
    rw [List.cons_append]
    by_cases hc : c = separator
    · subst hc
      rw [splitChars_cons_self, splitChars_cons_self, ih, List.cons_append]
    · rw [splitChars_cons_of_ne hc, splitChars_cons_of_ne hc, ih]
      cases hsplit : splitChars separator cs with
      | nil => exact absurd hsplit (splitChars_ne_nil separator cs)
      | cons first pieces => rfl

theorem splitChars_of_notMem (h : separator ∉ cs) : splitChars separator cs = [cs] := by
  induction cs with
  | nil => rfl
  | cons c cs ih =>
    have hc : c ≠ separator := fun heq => h (by simp [heq])
    have hcs : separator ∉ cs := fun hmem => h (by simp [hmem])
    rw [splitChars_cons_of_ne hc, ih hcs, List.modifyHead_cons]

theorem head?_splitChars :
    (splitChars separator cs).head? = some piece ↔
      separator ∉ piece ∧ piece ++ [separator] <+: cs ++ [separator] := by
  induction cs generalizing piece with
  | nil => cases piece <;> simp [splitChars, List.prefix_cons_iff]
  | cons c cs ih =>
    by_cases hc : c = separator
    · subst hc
      rw [splitChars_cons_self]
      cases piece with
      | nil => simp
      | cons d piece => simp +contextual [List.cons_prefix_cons, eq_comm]
    · rw [splitChars_cons_of_ne hc, List.head?_modifyHead]
      cases piece with
      | nil => simp [Ne.symm hc, List.cons_prefix_cons]
      | cons d piece =>
        simp only [Option.map_eq_some_iff, ih, List.cons_append, List.cons_prefix_cons]
        grind

theorem mem_iff_head_tail {pieces : List (List Char)} :
    piece ∈ pieces ↔ pieces.head? = some piece ∨ piece ∈ pieces.tail := by
  cases pieces with
  | nil => simp
  | cons first pieces => simp [eq_comm]

theorem mem_tail_splitChars :
    piece ∈ (splitChars separator cs).tail ↔
      separator ∉ piece ∧ separator :: (piece ++ [separator]) <:+: cs ++ [separator] := by
  induction cs with
  | nil => simp [splitChars, List.infix_cons_iff]
  | cons c cs ih =>
    rw [List.cons_append, List.infix_cons_iff, List.cons_prefix_cons]
    by_cases hc : c = separator
    · subst hc
      rw [splitChars_cons_self, List.tail_cons, mem_iff_head_tail, head?_splitChars, ih,
        ← and_or_left, eq_self_iff_true, true_and]
    · rw [splitChars_cons_of_ne hc, List.tail_modifyHead, ih]
      simp [Ne.symm hc]

/-- What a text is cut into, said without cutting it. -/
theorem mem_splitChars : piece ∈ splitChars separator cs ↔ IsPiece separator cs piece := by
  rw [mem_iff_head_tail, head?_splitChars, mem_tail_splitChars, ← and_or_left, IsPiece,
    List.infix_cons_iff, List.cons_prefix_cons, eq_self_iff_true, true_and]

end Split

theorem mem_commaList {name text : String} : name ∈ commaList text ↔ Listed name text.toList := by
  rw [commaList, mem_trimAll_iff]
  constructor
  · rintro ⟨trimmed, _, hmem, padded⟩
    obtain ⟨piece, hpiece, rfl⟩ := List.mem_map.1 hmem
    rw [String.toList_ofList] at padded
    exact ⟨trimmed, piece, mem_splitChars.1 hpiece, padded⟩
  · rintro ⟨trimmed, piece, hpiece, padded⟩
    refine ⟨trimmed, String.ofList piece, List.mem_map_of_mem (mem_splitChars.2 hpiece), ?_⟩
    rwa [String.toList_ofList]

theorem comma_notMem_of_mem_commaList {name text : String} (h : name ∈ commaList text) :
    ',' ∉ name.toList := by
  obtain ⟨_, piece, hpiece, left, right, rfl, _⟩ := mem_commaList.1 h
  intro hcomma
  exact hpiece.1 (by simp [hcomma])

theorem commaList_append (text other : String) :
    commaList (text ++ "," ++ other) = commaList text ++ commaList other := by
  have hcut : splitChars ',' (text ++ "," ++ other).toList =
      splitChars ',' text.toList ++ splitChars ',' other.toList := by
    simp [splitChars_append]
  rw [commaList, hcut, List.map_append, trimAll_append]
  rfl

/-- Texts that are joined with commas have their names one after another, also where they have
commas of their own or are blank. -/
theorem commaList_intercalate (texts : List String) :
    commaList (",".intercalate texts) = texts.flatMap commaList := by
  induction texts with
  | nil => decide
  | cons text texts ih =>
    cases texts with
    | nil => simp
    | cons next rest =>
      rw [String.intercalate_cons_cons, commaList_append, ih]
      exact List.flatMap_cons.symm

theorem commaList_eq_singleton {name : String} (trimmed : Trimmed name)
    (noComma : ',' ∉ name.toList) : commaList name = [name] := by
  have hone : ∀ text ∈ [name], Trimmed text := by simpa using trimmed
  rw [commaList, splitChars_of_notMem noComma, List.map_singleton, String.ofList_toList,
    trimAll_eq_self hone]

end Text

end FieldGrouping
