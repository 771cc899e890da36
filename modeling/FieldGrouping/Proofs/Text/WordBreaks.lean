import FieldGrouping.Proofs.Text.Substitution

/-!
Where a name is cut into words. Both passes over a name put underscores between characters by
looking at no more than the two characters and the one behind them; the second finds nothing to do
where the first has put one, so that the two together are one such pass.
-/

set_option autoImplicit false

namespace FieldGrouping.Text

/-! ### Classes of characters -/

section Classes

variable {c : Char}

theorem isCapital_iff : isCapital c = true ↔ 65 ≤ c.toNat ∧ c.toNat ≤ 90 := by
  simp [isCapital, Char.le_def, UInt32.le_iff_toNat_le]

theorem isSmall_iff : isSmall c = true ↔ 97 ≤ c.toNat ∧ c.toNat ≤ 122 := by
  simp [isSmall, Char.le_def, UInt32.le_iff_toNat_le]

/-- The digits of ASCII come before its letters, and those of other scripts long after. -/
theorem not_isDigit_of_letter (low : 58 ≤ c.toNat) (high : c.toNat ≤ 127) : isDigit c = false := by
  have hzeros : digitZeros.all (fun first => first + 9 < 58 || 127 < first) = true := by
    decide +kernel
  have hnone : digitZeros.find? (fun first => first ≤ c.toNat && c.toNat ≤ first + 9) = none := by
    refine List.find?_eq_none.2 fun first hfirst => ?_
    have hfirst := List.all_eq_true.1 hzeros first hfirst
    simp only [Bool.or_eq_true, decide_eq_true_eq] at hfirst
    simp only [Bool.and_eq_true, decide_eq_true_eq]
    omega
  rw [isDigit, digitValue?, hnone]
  rfl

theorem not_isSmall_of_isCapital (h : isCapital c = true) : isSmall c = false := by
  rw [isCapital_iff] at h
  rw [Bool.eq_false_iff, Ne, isSmall_iff]
  omega

theorem not_isDigit_of_isCapital (h : isCapital c = true) : isDigit c = false := by
  rw [isCapital_iff] at h
  exact not_isDigit_of_letter (by omega) (by omega)

theorem not_isAcronymChar_of_isSmall (h : isSmall c = true) : isAcronymChar c = false := by
  have hcapital : isCapital c = false := by
    rw [Bool.eq_false_iff]
    intro hc
    rw [not_isSmall_of_isCapital hc] at h
    cases h
  rw [isSmall_iff] at h
  rw [isAcronymChar, hcapital, not_isDigit_of_letter (by omega) (by omega)]
  rfl

theorem not_isSmall_of_isAcronymChar (h : isAcronymChar c = true) : isSmall c = false := by
  rw [Bool.eq_false_iff]
  intro hc
  rw [not_isAcronymChar_of_isSmall hc] at h
  cases h

end Classes

/-! ### Cuts -/

/-- Whether to cut between two characters, where a third may follow. -/
abbrev Cut := Char → Char → Option Char → Bool

def cutsHead (cut : Cut) (c : Char) : List Char → Bool
  | [] => false
  | d :: cs => cut c d cs.head?

def cutAll (cut : Cut) : List Char → List Char
  | [] => []
  | c :: cs => (if cutsHead cut c cs then [c, '_'] else [c]) ++ cutAll cut cs

/-- Whether a text is cut behind the character at a position. -/
def cutsAt (cut : Cut) (cs : List Char) (i : Nat) : Bool :=
  match cs[i]?, cs[i + 1]? with
  | some c, some d => cut c d cs[i + 2]?
  | _, _ => false

/-- Puts an underscore behind the characters at some positions. -/
def underscoredAt (places : Nat → Bool) (cs : List Char) : List Char :=
  cs.zipIdx.flatMap fun entry => if places entry.2 then [entry.1, '_'] else [entry.1]

theorem underscoredAt_cons (places : Nat → Bool) (c : Char) (cs : List Char) :
    underscoredAt places (c :: cs) =
      (if places 0 then [c, '_'] else [c]) ++ underscoredAt (fun i => places (i + 1)) cs := by
  rw [underscoredAt, List.zipIdx_cons, List.flatMap_cons, List.zipIdx_succ, List.flatMap_map]
  rfl

theorem cutAll_eq_underscoredAt (cut : Cut) (cs : List Char) :
    cutAll cut cs = underscoredAt (cutsAt cut cs) cs := by
  induction cs with
  | nil => rfl
  | cons c cs ih =>
    have hhead : cutsAt cut (c :: cs) 0 = cutsHead cut c cs := by
      cases cs with
      | nil => rfl
      | cons d cs => cases cs <;> rfl
    have htail : (fun i => cutsAt cut (c :: cs) (i + 1)) = cutsAt cut cs := rfl
    rw [underscoredAt_cons, hhead, htail, ← ih, cutAll]

theorem head?_cutAll (cut : Cut) (cs : List Char) : (cutAll cut cs).head? = cs.head? := by
  cases cs with
  | nil => rfl
  | cons c cs =>
    rw [cutAll]
    split <;> rfl

theorem cutAll_cons_of_not {cut : Cut} {c : Char} {cs : List Char}
    (h : cutsHead cut c cs = false) : cutAll cut (c :: cs) = c :: cutAll cut cs := by
  simp [cutAll, h]

theorem cutAll_cons_of_cuts {cut : Cut} {c : Char} {cs : List Char}
    (h : cutsHead cut c cs = true) : cutAll cut (c :: cs) = c :: '_' :: cutAll cut cs := by
  simp [cutAll, h]

/-- Before the last capital of an acronym, if a small letter is behind it. -/
def acronymCut : Cut :=
  fun c d next => isAcronymChar c && isCapital d && next.any isSmall

/-- Between the end of a word and a capital. -/
def wordCut : Cut :=
  fun c d _ => (isSmall c || isDigit c) && isCapital d

/-- Before a capital that is behind a small letter or a digit, or behind a capital and before a
small letter. -/
def nameCut : Cut :=
  fun c d next =>
    isCapital d && (isSmall c || isDigit c || isCapital c && next.any isSmall)

/-! ### The first pass -/

section Acronyms

variable {c d : Char} {cs : List Char}

theorem cutsHead_acronymCut_of_not (h : isAcronymChar c = false) (cs : List Char) :
    cutsHead acronymCut c cs = false := by
  cases cs <;> simp [cutsHead, acronymCut, h]

theorem cutsHead_acronymCut_before (h : isCapital d = false) (c : Char) (cs : List Char) :
    cutsHead acronymCut c (d :: cs) = false := by
  simp [cutsHead, acronymCut, h]

/-- No cut is two characters before one that is not small. -/
theorem cutsHead_acronymCut_two {e : Char} (h : isSmall e = false) (c d : Char) (cs : List Char) :
    cutsHead acronymCut c (d :: e :: cs) = false := by
  simp [cutsHead, acronymCut, h]

/-- An acronym in front of two of its characters is not cut. -/
theorem cutAll_acronymCut_append (run : List Char) (hrun : ∀ c ∈ run, isAcronymChar c = true)
    (hc : isAcronymChar c = true) (hd : isAcronymChar d = true) (cs : List Char) :
    cutAll acronymCut (run ++ c :: d :: cs) = run ++ cutAll acronymCut (c :: d :: cs) := by
  induction run with
  | nil => rfl
  | cons first run ih =>
    have hrest := ih fun x hx => hrun x (by simp [hx])
    -- A cut needs a small letter two characters on, and there the acronym still lasts.
    have hcut : cutsHead acronymCut first (run ++ c :: d :: cs) = false := by
      match run with
      | [] => exact cutsHead_acronymCut_two (not_isSmall_of_isAcronymChar hd) _ _ _
      | [x] => exact cutsHead_acronymCut_two (not_isSmall_of_isAcronymChar hc) _ _ _
      | x :: y :: rest =>
        have hy : isAcronymChar y = true := hrun y (by simp)
        exact cutsHead_acronymCut_two (not_isSmall_of_isAcronymChar hy) _ _ _
    rw [List.cons_append, cutAll_cons_of_not hcut, hrest, List.cons_append]

theorem cutAll_acronymCut_run {run : List Char} (hrun : ∀ c ∈ run, isAcronymChar c = true) :
    cutAll acronymCut run.reverse = run.reverse := by
  match run with
  | [] => rfl
  | [c] => rfl
  | last :: before :: earlier =>
    have hlast : isAcronymChar last = true := hrun last (by simp)
    have hbefore : isAcronymChar before = true := hrun before (by simp)
    have hrest : ∀ c ∈ earlier.reverse, isAcronymChar c = true :=
      fun c hc => hrun c (by simp [List.mem_reverse.1 hc])
    have hsplit : (last :: before :: earlier).reverse = earlier.reverse ++ [before, last] := by simp
    rw [hsplit, cutAll_acronymCut_append _ hrest hbefore hlast]
    simp [cutAll, cutsHead, acronymCut]

/-- Closing a run in front of another character cuts as is done there. -/
theorem cutAll_acronymCut_close {run : List Char} (hrun : ∀ c ∈ run, isAcronymChar c = true)
    (hc : isAcronymChar c = false) (cs : List Char) :
    cutAll acronymCut (run.reverse ++ c :: cs) =
      closeAcronym run (some c) ++ c :: cutAll acronymCut cs := by
  have hcapital : isCapital c = false := by
    simp only [isAcronymChar, Bool.or_eq_false_iff] at hc
    exact hc.1
  have hhead : cutAll acronymCut (c :: cs) = c :: cutAll acronymCut cs :=
    cutAll_cons_of_not (cutsHead_acronymCut_of_not hc cs)
  match run with
  | [] => exact hhead
  | [last] =>
    have hcut : cutsHead acronymCut last (c :: cs) = false :=
      cutsHead_acronymCut_before hcapital last cs
    simpa [closeAcronym, hhead] using cutAll_cons_of_not hcut
  | last :: before :: earlier =>
    have hlast : isAcronymChar last = true := hrun last (by simp)
    have hbefore : isAcronymChar before = true := hrun before (by simp)
    have hrest : ∀ c ∈ earlier.reverse, isAcronymChar c = true :=
      fun c hc => hrun c (by simp [List.mem_reverse.1 hc])
    have hsplit : (last :: before :: earlier).reverse ++ c :: cs =
        earlier.reverse ++ before :: last :: c :: cs := by simp
    have hcut : cutsHead acronymCut last (c :: cs) = false :=
      cutsHead_acronymCut_before hcapital last cs
    rw [hsplit, cutAll_acronymCut_append _ hrest hbefore hlast]
    by_cases h : isCapital last && isSmall c
    · have hcuts : cutsHead acronymCut before (last :: c :: cs) = true := by
        simpa [cutsHead, acronymCut, hbefore] using h
      simp [closeAcronym, h, cutAll_cons_of_cuts hcuts, cutAll_cons_of_not hcut, hhead]
    · have hcuts : cutsHead acronymCut before (last :: c :: cs) = false := by
        simpa [cutsHead, acronymCut, hbefore] using h
      simp [closeAcronym, h, cutAll_cons_of_not hcuts, cutAll_cons_of_not hcut, hhead]

theorem splitAcronymsFrom_eq_cutAll {run : List Char}
    (hrun : ∀ c ∈ run, isAcronymChar c = true) (cs : List Char) :
    splitAcronymsFrom run cs = cutAll acronymCut (run.reverse ++ cs) := by
  induction cs generalizing run with
  | nil =>
    have hclose : closeAcronym run none = run.reverse := by simp [closeAcronym]
    rw [splitAcronymsFrom, hclose, List.append_nil, cutAll_acronymCut_run hrun]
  | cons c cs ih =>
    rw [splitAcronymsFrom]
    split
    · next hc =>
      have hlonger : ∀ x ∈ c :: run, isAcronymChar x = true := by
        intro x hx
        rcases List.mem_cons.1 hx with rfl | hx
        · exact hc
        · exact hrun x hx
      rw [ih hlonger]
      simp
    · next hc =>
      have hnone : ∀ x ∈ ([] : List Char), isAcronymChar x = true := by simp
      rw [cutAll_acronymCut_close hrun (by simpa using hc) cs, ih hnone]
      rfl

theorem splitAcronyms_eq_cutAll (cs : List Char) : splitAcronyms cs = cutAll acronymCut cs :=
  splitAcronymsFrom_eq_cutAll (by simp) cs

end Acronyms

/-! ### The second pass -/

section Words

variable {c : Char} {cs : List Char}

theorem cutsHead_wordCut (c : Char) (cs : List Char) :
    cutsHead wordCut c cs = ((isSmall c || isDigit c) && cs.head?.any isCapital) := by
  cases cs <;> simp [cutsHead, wordCut]

theorem cutsHead_wordCut_of_isCapital (h : isCapital c = true) (cs : List Char) :
    cutsHead wordCut c cs = false := by
  rw [cutsHead_wordCut, not_isSmall_of_isCapital h, not_isDigit_of_isCapital h]
  rfl

theorem splitWords_eq_cutAll (cs : List Char) : splitWords cs = cutAll wordCut cs := by
  fun_induction splitWords cs with
  | case1 c d cs hcut ih =>
    have hcuts : cutsHead wordCut c (d :: cs) = true := hcut
    have hd : isCapital d = true := (Bool.and_eq_true_iff.1 hcut).2
    rw [cutAll_cons_of_cuts hcuts, cutAll_cons_of_not (cutsHead_wordCut_of_isCapital hd cs), ih]
  | case2 c d cs hcut ih =>
    have hcuts : cutsHead wordCut c (d :: cs) = false := by simpa [cutsHead, wordCut] using hcut
    rw [cutAll_cons_of_not hcuts, ih]
  | case3 cs hshort =>
    match cs with
    | [] => rfl
    | [c] => rfl
    | c :: d :: cs => exact absurd rfl (hshort c d cs)

theorem cutsHead_nameCut (c : Char) (cs : List Char) :
    cutsHead nameCut c cs = (cutsHead acronymCut c cs || cutsHead wordCut c cs) := by
  cases cs with
  | nil => rfl
  | cons d cs =>
    simp only [cutsHead, nameCut, acronymCut, wordCut, isAcronymChar]
    cases isCapital c <;> cases isDigit c <;> cases isSmall c <;> cases isCapital d <;> simp

/-- The second pass cuts where the first has left the characters together. -/
theorem cutAll_wordCut_cutAll (cs : List Char) :
    cutAll wordCut (cutAll acronymCut cs) = cutAll nameCut cs := by
  induction cs with
  | nil => rfl
  | cons c cs ih =>
    have hname := cutsHead_nameCut c cs
    cases hacronym : cutsHead acronymCut c cs with
    | true =>
      -- The underscore keeps the second pass from cutting before it and behind it.
      have hbefore : cutsHead wordCut c ('_' :: cutAll acronymCut cs) = false := by
        have hunderscore : isCapital '_' = false := by decide
        simp [cutsHead, wordCut, hunderscore]
      have hbehind : cutsHead wordCut '_' (cutAll acronymCut cs) = false := by
        have hunderscore : isSmall '_' = false ∧ isDigit '_' = false := by decide +kernel
        simp [cutsHead_wordCut, hunderscore]
      rw [hacronym, Bool.true_or] at hname
      rw [cutAll_cons_of_cuts hacronym, cutAll_cons_of_not hbefore, cutAll_cons_of_not hbehind, ih,
        cutAll_cons_of_cuts hname]
    | false =>
      -- What comes next is the same, since a pass changes no first character.
      have hword : cutsHead wordCut c (cutAll acronymCut cs) = cutsHead wordCut c cs := by
        rw [cutsHead_wordCut, cutsHead_wordCut, head?_cutAll]
      rw [hacronym, Bool.false_or] at hname
      rw [cutAll_cons_of_not hacronym, cutAll, cutAll, hword, hname, ih]

theorem splitWords_splitAcronyms (cs : List Char) :
    splitWords (splitAcronyms cs) = cutAll nameCut cs := by
  rw [splitAcronyms_eq_cutAll, splitWords_eq_cutAll, cutAll_wordCut_cutAll]

theorem snakeChars_eq (cs : List Char) :
    snakeChars cs = lowerChars ((cutAll nameCut cs).map fun c => if c = '-' then '_' else c) := by
  rw [snakeChars, splitWords_splitAcronyms]

end Words

/-! ### Patterns -/

theorem wordStart?_eq_some {cs after : List Char} (h : wordStart? cs = some after) :
    ∃ d e rest, cs = d :: e :: rest ∧ after = [d, e] ∧ isCapital d = true ∧ isSmall e = true := by
  unfold wordStart? at h
  split at h
  · next d e rest =>
    split at h
    · next hde =>
      cases h
      obtain ⟨hd, he⟩ := Bool.and_eq_true_iff.1 hde
      exact ⟨d, e, rest, rfl, rfl, hd, he⟩
    · cases h
  · cases h

theorem cutsHead_acronymCut_iff {c : Char} {cs : List Char} :
    cutsHead acronymCut c cs = true ↔ isAcronymChar c = true ∧ wordStart? cs ≠ none := by
  match cs with
  | [] => simp [cutsHead, wordStart?]
  | [d] => simp [cutsHead, acronymCut, wordStart?]
  | d :: e :: cs => simp [cutsHead, acronymCut, wordStart?, and_assoc]

/-- A match of the first pattern is a run that is cut only before its last capital. -/
theorem cutAll_of_firstMatch?_acronymPattern {cs before after : List Char}
    (h : acronymPattern.firstMatch? cs = some (before, after)) :
    ∃ d e rest, cs = before ++ d :: e :: rest ∧ after = [d, e] ∧ isCapital d = true ∧
      before ≠ [] ∧ (∀ c ∈ before, isAcronymChar c = true) ∧
      cutAll acronymCut cs = before ++ '_' :: d :: e :: cutAll acronymCut rest := by
  induction cs generalizing before after with
  | nil =>
    rw [firstMatch?_acronymPattern_nil] at h
    cases h
  | cons c cs ih =>
    rw [firstMatch?_acronymPattern_cons] at h
    split at h
    · next hc =>
      cases hlonger : acronymPattern.firstMatch? cs with
      | some groups =>
        rw [hlonger] at h
        cases h
        obtain ⟨d, e, rest, rfl, hafter, hd, hne, hbefore, hcut⟩ := ih hlonger
        -- The character two behind the first is in the run or is its last capital.
        have hnot : cutsHead acronymCut c (groups.1 ++ d :: e :: rest) = false := by
          match hgroup : groups.1 with
          | [] => exact absurd hgroup hne
          | [x] => exact cutsHead_acronymCut_two (not_isSmall_of_isCapital hd) _ _ _
          | x :: y :: run =>
            have hy : isAcronymChar y = true := hbefore y (by simp [hgroup])
            exact cutsHead_acronymCut_two (not_isSmall_of_isAcronymChar hy) _ _ _
        refine ⟨d, e, rest, rfl, hafter, hd, by simp, ?_, ?_⟩
        · intro x hx
          rcases List.mem_cons.1 hx with rfl | hx
          · exact hc
          · exact hbefore x hx
        · rw [cutAll_cons_of_not hnot, hcut, List.cons_append]
      | none =>
        rw [hlonger, Option.map_none, Option.none_or, Option.map_eq_some_iff] at h
        obtain ⟨after', hstart, heq⟩ := h
        cases heq
        obtain ⟨d, e, rest, rfl, rfl, hd, he⟩ := wordStart?_eq_some hstart
        have hcuts : cutsHead acronymCut c (d :: e :: rest) = true :=
          cutsHead_acronymCut_iff.2 ⟨hc, by simp [hstart]⟩
        have hsmall : isAcronymChar e = false := not_isAcronymChar_of_isSmall he
        have hcapital : isCapital e = false := (Bool.or_eq_false_iff.1 hsmall).1
        refine ⟨d, e, rest, rfl, rfl, hd, by simp, by simpa using hc, ?_⟩
        rw [cutAll_cons_of_cuts hcuts,
          cutAll_cons_of_not (cutsHead_acronymCut_before hcapital d rest),
          cutAll_cons_of_not (cutsHead_acronymCut_of_not hsmall rest)]
        rfl
    · cases h

theorem replace_acronymPattern (cs : List Char) :
    acronymPattern.replace cs = cutAll acronymCut cs := by
  refine Pattern.replace_eq rfl (fun c cs hnone => ?_) (fun cs before after hmatch => ?_) cs
  · rw [firstMatch?_acronymPattern_cons] at hnone
    refine cutAll_cons_of_not (Bool.eq_false_iff.2 fun hcut => ?_)
    obtain ⟨hc, hstart⟩ := cutsHead_acronymCut_iff.1 hcut
    rw [if_pos hc, Option.or_eq_none_iff, Option.map_eq_none_iff, Option.map_eq_none_iff] at hnone
    exact hstart hnone.2
  · obtain ⟨d, e, rest, hcs, rfl, _, hne, _, hcut⟩ := cutAll_of_firstMatch?_acronymPattern hmatch
    exact ⟨rest, by simp [hcs], hne, by simp [hcut]⟩

example : acronymPattern.replace "XMLHTTPRequest2ABc".toList = "XMLHTTP_Request2A_Bc".toList := by
  decide +kernel

theorem replace_wordPattern (cs : List Char) : wordPattern.replace cs = cutAll wordCut cs := by
  refine Pattern.replace_eq rfl (fun c cs hnone => ?_) (fun cs before after hmatch => ?_) cs
  · rw [firstMatch?_wordPattern] at hnone
    refine cutAll_cons_of_not ?_
    cases cs with
    | nil => rfl
    | cons d cs => simpa [cutsHead, wordCut] using hnone
  · rw [firstMatch?_wordPattern] at hmatch
    split at hmatch
    · next c d rest =>
      split at hmatch
      · next hcut =>
        cases hmatch
        have hcuts : cutsHead wordCut c (d :: rest) = true := hcut
        have hd : isCapital d = true := (Bool.and_eq_true_iff.1 hcut).2
        refine ⟨rest, rfl, by simp, ?_⟩
        rw [cutAll_cons_of_cuts hcuts, cutAll_cons_of_not (cutsHead_wordCut_of_isCapital hd rest)]
        rfl
      · cases hmatch
    · cases hmatch

theorem ne_underscore_of_cutsAt {cs : List Char} {i : Nat} (h : cutsAt wordCut cs i = true) :
    cs[i]? ≠ some '_' ∧ cs[i + 1]? ≠ some '_' := by
  have hunderscore : isSmall '_' = false ∧ isDigit '_' = false ∧ isCapital '_' = false := by
    decide +kernel
  unfold cutsAt at h
  split at h
  · next c d hc hd =>
    constructor
    · rw [hc]
      rintro ⟨⟩
      simp [wordCut, hunderscore] at h
    · rw [hd]
      rintro ⟨⟩
      simp [wordCut, hunderscore] at h
  · cases h

/-- A name is cut in a single pass: an underscore goes before a capital that is behind a small letter
or a digit, or behind a capital and before a small letter; then hyphens become underscores and the
whole goes to lower case. This is what replacing the matches of two patterns one after the other
comes to, and the second puts no underscore beside another. -/
theorem snakeCase_single_pass (name : String) :
    snakeCase name =
      lower (String.ofList ((underscoredAt (cutsAt nameCut name.toList) name.toList).map
        fun c => if c = '-' then '_' else c)) ∧
    underscoredAt (cutsAt nameCut name.toList) name.toList =
      wordPattern.replace (acronymPattern.replace name.toList) ∧
    acronymPattern.replace name.toList =
      underscoredAt (cutsAt acronymCut name.toList) name.toList ∧
    wordPattern.replace (acronymPattern.replace name.toList) =
      underscoredAt (cutsAt wordCut (acronymPattern.replace name.toList))
        (acronymPattern.replace name.toList) ∧
    ∀ i, cutsAt wordCut (acronymPattern.replace name.toList) i = true →
      (acronymPattern.replace name.toList)[i]? ≠ some '_' ∧
        (acronymPattern.replace name.toList)[i + 1]? ≠ some '_' := by
  have hpatterns : wordPattern.replace (acronymPattern.replace name.toList) =
      cutAll nameCut name.toList := by
    rw [replace_acronymPattern, replace_wordPattern, cutAll_wordCut_cutAll]
  refine ⟨?_, ?_, ?_, ?_, fun i => ne_underscore_of_cutsAt⟩
  · rw [snakeCase, snakeChars_eq, ← cutAll_eq_underscoredAt, lower, String.toList_ofList]
  · rw [hpatterns, cutAll_eq_underscoredAt]
  · rw [replace_acronymPattern, cutAll_eq_underscoredAt]
  · rw [replace_wordPattern, cutAll_eq_underscoredAt]

theorem snakeCase_single_pass_mixed :
    snakeCase "aHTTPServer1D-é" = "a_http_server1_d_é" ∧
    cutsAt wordCut (acronymPattern.replace "aHTTPServer1D-é".toList) 0 = true ∧
    (acronymPattern.replace "aHTTPServer1D-é".toList)[0]? ≠ some '_' ∧
    (acronymPattern.replace "aHTTPServer1D-é".toList)[1]? ≠ some '_' := by
  obtain ⟨hsnake, _, _, _, hbeside⟩ := snakeCase_single_pass "aHTTPServer1D-é"
  have hplace : cutsAt wordCut (acronymPattern.replace "aHTTPServer1D-é".toList) 0 = true := by
    decide +kernel
  refine ⟨hsnake.trans ?_, hplace, hbeside 0 hplace⟩
  decide +kernel

end FieldGrouping.Text
