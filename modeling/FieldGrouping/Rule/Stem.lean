import FieldGrouping.Text.Blank

/-!
Stems of field names. A stem of a name is what stands before one of its underscores: the stems of
`contact_home_phone` are `contact` and `contact_home`. A stem covers the names that continue it
with an underscore.
-/

set_option autoImplicit false

namespace FieldGrouping

/-- A stem covers a name that goes on with an underscore after it. -/
def Covers (stem name : String) : Prop :=
  stem.toList ++ ['_'] <+: name.toList

instance (stem name : String) : Decidable (Covers stem name) :=
  inferInstanceAs (Decidable (_ <+: _))

def accumulated (read : List Char) : List (List Char) → List (List Char)
  | [] => []
  | segment :: segments =>
    let longer := read ++ '_' :: segment
    longer :: accumulated longer segments

def stems (name : String) : List String :=
  match (Text.splitChars '_' name.toList).dropLast with
  | [] => []
  | first :: segments => (first :: accumulated first segments).map String.ofList

/-- The stems of a name that goes on with the given characters; `read` holds those before them,
backwards. -/
def stemsFrom (read : List Char) : List Char → List (List Char)
  | [] => []
  | c :: cs =>
    if c = '_' then read.reverse :: stemsFrom (c :: read) cs else stemsFrom (c :: read) cs

theorem stemsFrom_eq (read cs : List Char) :
    stemsFrom read cs =
      match (Text.splitChars '_' cs).dropLast with
      | [] => []
      | first :: segments =>
        (read.reverse ++ first) :: accumulated (read.reverse ++ first) segments := by
  induction cs generalizing read with
  | nil => rfl
  | cons c cs ih =>
    by_cases hc : c = '_'
    · have hdrop : ([] :: Text.splitChars '_' cs).dropLast =
          [] :: (Text.splitChars '_' cs).dropLast :=
        List.dropLast_cons_of_ne_nil (Text.splitChars_ne_nil '_' cs)
      simp only [stemsFrom, Text.splitChars, hc, if_true, hdrop, ih]
      cases (Text.splitChars '_' cs).dropLast <;> simp [accumulated]
    · rw [stemsFrom, if_neg hc, ih, Text.splitChars, if_neg hc]
      cases hsplit : Text.splitChars '_' cs with
      | nil => exact absurd hsplit (Text.splitChars_ne_nil '_' cs)
      | cons piece pieces => cases pieces <;> simp

/-- Joining the segments of a name again gives what a scan for its underscores gives. -/
theorem stems_eq (name : String) : stems name = (stemsFrom [] name.toList).map String.ofList := by
  rw [stems, stemsFrom_eq]
  cases (Text.splitChars '_' name.toList).dropLast <;> rfl

theorem mem_stemsFrom {read cs p : List Char} :
    p ∈ stemsFrom read cs ↔ ∃ q, p = read.reverse ++ q ∧ q ++ ['_'] <+: cs := by
  induction cs generalizing read with
  | nil => simp [stemsFrom]
  | cons c cs ih =>
    have step : p ∈ stemsFrom (c :: read) cs ↔
        ∃ q, p = read.reverse ++ (c :: q) ∧ q ++ ['_'] <+: cs := by
      simp [ih]
    constructor
    · intro h
      simp only [stemsFrom] at h
      split at h
      · rename_i hc
        subst hc
        rcases List.mem_cons.1 h with rfl | h
        · exact ⟨[], by simp, by simp⟩
        · obtain ⟨q, rfl, hq⟩ := step.1 h
          exact ⟨'_' :: q, rfl, by simpa using hq⟩
      · obtain ⟨q, rfl, hq⟩ := step.1 h
        exact ⟨c :: q, rfl, by simpa using hq⟩
    · rintro ⟨q, rfl, hq⟩
      cases q with
      | nil =>
        have hc : '_' = c := by simpa using hq
        subst hc
        simp [stemsFrom]
      | cons d q =>
        obtain ⟨rfl, htail⟩ : d = c ∧ q ++ ['_'] <+: cs := by simpa using hq
        have := step.2 ⟨q, rfl, htail⟩
        simp only [stemsFrom]
        split
        · exact List.mem_cons_of_mem _ this
        · exact this

/-- The stems of a name are those that cover it. -/
theorem mem_stems {stem name : String} : stem ∈ stems name ↔ Covers stem name := by
  simp only [stems_eq, List.mem_map, mem_stemsFrom, Covers]
  constructor
  · rintro ⟨_, ⟨q, rfl, hq⟩, rfl⟩
    simpa using hq
  · intro h
    exact ⟨stem.toList, ⟨stem.toList, by simp, h⟩, by simp⟩

end FieldGrouping
