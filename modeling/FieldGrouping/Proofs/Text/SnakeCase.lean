import FieldGrouping.Proofs.Text.LowerCase
import FieldGrouping.Proofs.Text.WordBreaks

/-!
What names in snake case are like. Underscores are put only behind other characters, so that such a
name begins with one just if the name it comes from begins with one or with a hyphen. It has nothing
left to cut, to replace or to bring to lower case; and on the way to it underscores are put in,
hyphens are taken for them and letters change their case, and that is all.
-/

set_option autoImplicit false

namespace FieldGrouping.Text

section Characters

variable {c : Char} {cs : List Char}

theorem not_isCapital_of_settled (h : Settled c) : isCapital c = false := by
  rw [Bool.eq_false_iff]
  intro hc
  obtain ⟨d, hd, hcode⟩ := lowerChar_of_capital (isCapital_iff.1 hc)
  rw [h.lowerChar_eq] at hd
  rw [(List.cons.inj hd).1] at hcode
  omega

theorem cutAll_nameCut_of_no_capital (h : ∀ c ∈ cs, isCapital c = false) :
    cutAll nameCut cs = cs := by
  induction cs with
  | nil => rfl
  | cons c cs ih =>
    have hcut : cutsHead nameCut c cs = false := by
      cases cs with
      | nil => rfl
      | cons d cs =>
        have hd : isCapital d = false := h d (by simp)
        simp [cutsHead, nameCut, hd]
    rw [cutAll_cons_of_not hcut, ih fun d hd => h d (by simp [hd])]

theorem filter_cutAll (cut : Cut) {keeps : Char → Bool} (h : keeps '_' = false) (cs : List Char) :
    (cutAll cut cs).filter keeps = cs.filter keeps := by
  induction cs with
  | nil => rfl
  | cons c cs ih =>
    rw [cutAll, List.filter_append, ih]
    split <;> cases hc : keeps c <;> simp [hc, h]

theorem mem_or_of_mem_cutAll {cut : Cut} (h : c ∈ cutAll cut cs) : c ∈ cs ∨ c = '_' := by
  by_cases hc : c = '_'
  · exact .inr hc
  · have hkept : c ∈ (cutAll cut cs).filter (· ≠ '_') := by simp [h, hc]
    rw [filter_cutAll cut (by simp)] at hkept
    exact .inl (List.mem_filter.1 hkept).1

end Characters

section Snake

variable {c : Char} {cs : List Char}

theorem head?_snakeChars_iff (cs : List Char) :
    (snakeChars cs).head? = some '_' ↔ cs.head? = some '_' ∨ cs.head? = some '-' := by
  rw [snakeChars_eq, head?_lowerChars_iff, List.head?_map, head?_cutAll]
  cases cs.head? with
  | none => simp
  | some c => by_cases h : c = '-' <;> simp [h]

theorem settled_of_mem_snakeChars (h : c ∈ snakeChars cs) : Settled c :=
  settled_of_mem_lowerFrom h

theorem hyphen_notMem_snakeChars (cs : List Char) : '-' ∉ snakeChars cs := by
  rw [snakeChars_eq, lowerChars, mem_lowerFrom_iff (by decide) (by decide), List.mem_map]
  rintro ⟨c, _, hc⟩
  split at hc
  · cases hc
  · contradiction

theorem snakeChars_snakeChars (cs : List Char) : snakeChars (snakeChars cs) = snakeChars cs := by
  have hcut : cutAll nameCut (snakeChars cs) = snakeChars cs :=
    cutAll_nameCut_of_no_capital fun c hc => not_isCapital_of_settled (settled_of_mem_snakeChars hc)
  have hhyphen : (snakeChars cs).map (fun c => if c = '-' then '_' else c) = snakeChars cs := by
    refine (List.map_congr_left fun c hc => ?_).trans (List.map_id _)
    have hne : c ≠ '-' := fun heq => hyphen_notMem_snakeChars cs (heq ▸ hc)
    rw [if_neg hne, id]
  calc snakeChars (snakeChars cs)
      = lowerChars ((cutAll nameCut (snakeChars cs)).map fun c => if c = '-' then '_' else c) :=
        snakeChars_eq _
    _ = lowerChars (snakeChars cs) := by rw [hcut, hhyphen]
    _ = snakeChars cs := lowerFrom_of_settled fun c => settled_of_mem_snakeChars

/-- Leaving out characters of ASCII that are no letters can be done before or after. -/
theorem filter_flatMap_lowerChar {keeps : Char → Bool}
    (h : ∀ c, keeps c = false → c.toNat < 96 ∧ ¬ (65 ≤ c.toNat ∧ c.toNat ≤ 90)) (cs : List Char) :
    (cs.flatMap lowerChar).filter keeps = (cs.filter keeps).flatMap lowerChar := by
  induction cs with
  | nil => rfl
  | cons c cs ih =>
    rw [List.flatMap_cons, List.filter_append, ih]
    cases hc : keeps c with
    | false =>
      obtain ⟨hlow, hletter⟩ := h c hc
      rw [(settled_of_ascii (by omega) hletter).lowerChar_eq]
      simp [hc]
    | true =>
      have hall : (lowerChar c).filter keeps = lowerChar c := by
        refine List.filter_eq_self.2 fun d hd => ?_
        cases hkeeps : keeps d with
        | true => rfl
        | false =>
          obtain ⟨hlow, hletter⟩ := h d hkeeps
          rw [mem_lowerChar_iff hlow hletter] at hd
          rw [← hkeeps, ← hc, hd]
      rw [hall, List.filter_cons_of_pos hc, List.flatMap_cons]

theorem filter_map_hyphen (cs : List Char) :
    (cs.map fun c => if c = '-' then '_' else c).filter (· ≠ '_') =
      cs.filter fun c => c ≠ '_' ∧ c ≠ '-' := by
  induction cs with
  | nil => rfl
  | cons c cs ih =>
    by_cases hhyphen : c = '-'
    · simpa [hhyphen] using ih
    · by_cases hunderscore : c = '_'
      · simpa [hunderscore] using ih
      · simpa [hhyphen, hunderscore] using ih

theorem filter_snakeChars (h : 'Σ' ∉ cs) :
    (snakeChars cs).filter (· ≠ '_') = (lowerChars cs).filter fun c => c ≠ '_' ∧ c ≠ '-' := by
  have hsigma : 'Σ' ∉ (cutAll nameCut cs).map fun c => if c = '-' then '_' else c := by
    rw [List.mem_map]
    rintro ⟨c, hc, heq⟩
    split at heq
    · cases heq
    · subst heq
      rcases mem_or_of_mem_cutAll hc with hc | hc
      · exact h hc
      · cases hc
  have hunderscore : ∀ c : Char, decide (c ≠ '_') = false →
      c.toNat < 96 ∧ ¬ (65 ≤ c.toNat ∧ c.toNat ≤ 90) := by
    intro c hc
    have heq : c = '_' := by simpa using hc
    subst heq
    decide
  have hboth : ∀ c : Char, decide (c ≠ '_' ∧ c ≠ '-') = false →
      c.toNat < 96 ∧ ¬ (65 ≤ c.toNat ∧ c.toNat ≤ 90) := by
    intro c hc
    have heq : c = '_' ∨ c = '-' := by grind
    rcases heq with rfl | rfl <;> decide
  rw [snakeChars_eq, lowerChars, lowerFrom_eq_flatMap hsigma, filter_flatMap_lowerChar hunderscore,
    filter_map_hyphen, filter_cutAll nameCut (by decide), lowerChars, lowerFrom_eq_flatMap h,
    filter_flatMap_lowerChar hboth]

end Snake

/-- A name in snake case is not changed by a second turn, and it has neither hyphens nor capitals. For
a name in ASCII it is, but for underscores, the name in lower case without hyphens. -/
theorem snakeCase_normal_form (name : String) :
    snakeCase (snakeCase name) = snakeCase name ∧
    (∀ c ∈ (snakeCase name).toList, c ≠ '-' ∧ isCapital c = false) ∧
    ((∀ c ∈ name.toList, c.toNat < 128) →
      (snakeCase name).toList.filter (· ≠ '_') =
        (lower name).toList.filter fun c => c ≠ '_' ∧ c ≠ '-') := by
  simp only [snakeCase, lower, String.toList_ofList]
  refine ⟨?_, fun c hc => ⟨?_, ?_⟩, fun ascii => ?_⟩
  · rw [snakeChars_snakeChars]
  · exact fun heq => hyphen_notMem_snakeChars name.toList (heq ▸ hc)
  · exact not_isCapital_of_settled (settled_of_mem_snakeChars hc)
  · refine filter_snakeChars fun hsigma => ?_
    exact absurd (ascii 'Σ' hsigma) (by decide)

theorem snakeCase_normal_form_mixed :
    (∀ c ∈ "XMLHttpRequest2-ABc_d".toList, c.toNat < 128) ∧
    (snakeCase "XMLHttpRequest2-ABc_d").toList.filter (· ≠ '_') = "xmlhttprequest2abcd".toList ∧
    snakeCase (snakeCase "XMLHttpRequest2-ABc_d") = snakeCase "XMLHttpRequest2-ABc_d" := by
  have hascii : ∀ c ∈ "XMLHttpRequest2-ABc_d".toList, c.toNat < 128 := by simp
  obtain ⟨htwice, _, hletters⟩ := snakeCase_normal_form "XMLHttpRequest2-ABc_d"
  refine ⟨hascii, (hletters hascii).trans ?_, htwice⟩
  decide +kernel

end FieldGrouping.Text
