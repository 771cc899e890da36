import FieldGrouping.Text.Lines

/-!
Two ways to count lines. The lines of a source end at line feeds and carriage returns; the lines of
a text end at every character that separates lines. A number means the same line in both as long as
the lines of the source up to it hold no further separator, and only then for every number.
-/

set_option autoImplicit false

namespace FieldGrouping.Text

/-- The lines of a source: they end at a line feed, at a carriage return, or at both together. -/
def sourceLines (text : String) : List String :=
  ((unifyNewlines text.toList).splitOn '\n').map String.ofList

/-- The first lines of a source hold no line break besides their ends. -/
def PlainThrough (text : String) (count : Nat) : Prop :=
  ∀ line ∈ (sourceLines text).take count, ∀ c ∈ line.toList, isLineBreak c = false

section Newlines

theorem return_notMem_unifyNewlines (cs : List Char) : '\r' ∉ unifyNewlines cs := by
  fun_induction unifyNewlines cs with
  | case1 cs ih => simp [ih]
  | case2 cs _ ih => simp [ih]
  | case3 c cs _ hc ih =>
    have hne : c ≠ '\r' := fun he => hc he
    simp [ih, hne.symm]
  | case4 => simp

theorem mem_unifyNewlines {c : Char} (feed : c ≠ '\n') (carriage : c ≠ '\r') {cs : List Char} :
    c ∈ unifyNewlines cs ↔ c ∈ cs := by
  fun_induction unifyNewlines cs with
  | case1 cs ih => simp [ih, feed, carriage]
  | case2 cs _ ih => simp [ih, feed, carriage]
  | case3 d cs _ _ ih => simp [ih]
  | case4 => simp

end Newlines

section Cutting

theorem linesFrom_cons {c : Char} (carriage : c ≠ '\r') (line cs : List Char) :
    linesFrom line (c :: cs) =
      if isLineBreak c then line.reverse :: linesFrom [] cs else linesFrom (c :: line) cs := by
  rw [linesFrom]
  intro _ he
  exact absurd he carriage

theorem linesFrom_unifyNewlines (line cs : List Char) :
    linesFrom line (unifyNewlines cs) = linesFrom line cs := by
  fun_induction unifyNewlines cs generalizing line with
  | case1 cs ih => rw [linesFrom_cons (by decide), linesFrom, ih]; rfl
  | case2 cs hn ih =>
    rw [linesFrom_cons (by decide), linesFrom, ih]
    · rfl
    · intro rest _ he
      exact hn rest he
  | case3 c cs _ hc ih =>
    have hne : c ≠ '\r' := fun he => hc he
    simp only [linesFrom_cons hne, ih]
  | case4 => rfl

theorem not_isLineBreak_of_mem_linesFrom {line cs : List Char}
    (plain : ∀ c ∈ line, isLineBreak c = false) :
    ∀ found ∈ linesFrom line cs, ∀ c ∈ found, isLineBreak c = false := by
  fun_induction linesFrom line cs with
  | case1 line he => simp
  | case2 line he => simpa using plain
  | case3 line cs ih => simpa using ⟨plain, ih (by simp)⟩
  | case4 line c cs _ hb ih => simpa using ⟨plain, ih (by simp)⟩
  | case5 line c cs _ hb ih => exact ih (by simpa [hb] using plain)

theorem modifyHead_nothing (found : List (List Char)) :
    found.modifyHead (([] : List Char).reverse ++ ·) = found :=
  congrFun List.modifyHead_id found

/-- A line of a text is that of its source, if the source has no other line break up to there. The
part of the first line that was read before is put in front of it. -/
theorem getD_linesFrom {cs : List Char} (carriage : '\r' ∉ cs) (line : List Char) (index : Nat)
    (plain : ∀ found ∈ (cs.splitOn '\n').take (index + 1), ∀ c ∈ found, isLineBreak c = false) :
    (linesFrom line cs)[index]?.getD [] =
      ((cs.splitOn '\n').modifyHead (line.reverse ++ ·))[index]?.getD [] := by
  induction cs generalizing line index with
  | nil =>
    cases line <;> cases index <;> simp [linesFrom]
  | cons c cs ih =>
    obtain ⟨hc, hcs⟩ : '\r' ≠ c ∧ '\r' ∉ cs := by simpa using carriage
    rw [linesFrom_cons hc.symm]
    rw [List.splitOn_cons_eq_if_modifyHead] at plain ⊢
    by_cases hn : c = '\n'
    · subst hn
      have hbreak : isLineBreak '\n' = true := by decide
      simp only [BEq.rfl, if_true, hbreak] at plain ⊢
      cases index with
      | zero => simp
      | succ index =>
        have hrest := ih hcs [] index fun found hf => plain found (by simpa using .inr hf)
        rw [modifyHead_nothing] at hrest
        simpa using hrest
    · obtain ⟨first, rest, hs⟩ :=
        List.exists_cons_of_ne_nil (List.splitOn_ne_nil '\n' cs)
      simp only [beq_iff_eq, hn, if_false, hs, List.modifyHead_cons] at plain ⊢
      have hfirst : ∀ d ∈ c :: first, isLineBreak d = false := plain _ (by simp)
      have hbreak : isLineBreak c = false := hfirst c (by simp)
      have hmore := ih hcs (c :: line) index fun found hf => by
        rw [hs, List.take_succ_cons, List.mem_cons] at hf
        rcases hf with rfl | hf
        · exact fun d hd => hfirst d (by simp [hd])
        · exact plain found (by simp [hf])
      simpa [hbreak, hs] using hmore

end Cutting

section Agreement

theorem flatten_splitOn (separator : Char) (cs : List Char) :
    (cs.splitOn separator).flatten = cs.filter (· ≠ separator) := by
  induction cs with
  | nil => simp
  | cons c cs ih =>
    rw [List.splitOn_cons_eq_if_modifyHead]
    obtain ⟨first, rest, hs⟩ := List.exists_cons_of_ne_nil (List.splitOn_ne_nil separator cs)
    by_cases hc : c = separator
    · simp [hc, ih]
    · rw [hs] at ih
      simpa [hc, hs] using ih

theorem exists_mem_sourceLines_iff {c : Char} {text : String} :
    (∃ line ∈ sourceLines text, c ∈ line.toList) ↔ c ∈ text.toList ∧ c ≠ '\n' ∧ c ≠ '\r' := by
  have hlines : (∃ line ∈ sourceLines text, c ∈ line.toList) ↔
      c ∈ ((unifyNewlines text.toList).splitOn '\n').flatten := by
    simp only [sourceLines, List.mem_map, List.mem_flatten]
    constructor
    · rintro ⟨_, ⟨found, hf, rfl⟩, hc⟩
      exact ⟨found, hf, by simpa using hc⟩
    · rintro ⟨found, hf, hc⟩
      exact ⟨_, ⟨found, hf, rfl⟩, by simpa using hc⟩
  rw [hlines, flatten_splitOn, List.mem_filter, decide_eq_true_eq]
  constructor
  · rintro ⟨hmem, hn⟩
    have hr : c ≠ '\r' := by
      rintro rfl
      exact return_notMem_unifyNewlines _ hmem
    exact ⟨(mem_unifyNewlines hn hr).1 hmem, hn, hr⟩
  · rintro ⟨hmem, hn, hr⟩
    exact ⟨(mem_unifyNewlines hn hr).2 hmem, hn⟩

theorem not_isLineBreak_of_mem_lines {text line : String} (h : line ∈ lines text) {c : Char}
    (hc : c ∈ line.toList) : isLineBreak c = false := by
  obtain ⟨found, hf, rfl⟩ := List.mem_map.1 h
  rw [String.toList_ofList] at hc
  exact not_isLineBreak_of_mem_linesFrom (by simp) found hf c hc

theorem getD_map_ofList (found : List (List Char)) (index : Nat) :
    (found.map String.ofList)[index]?.getD "" = String.ofList (found[index]?.getD []) := by
  rw [List.getElem?_map]
  cases found[index]? <;> rfl

theorem getD_lines {text : String} {index : Nat} (plain : PlainThrough text (index + 1)) :
    (lines text)[index]?.getD "" = (sourceLines text)[index]?.getD "" := by
  rw [lines, sourceLines, getD_map_ofList, getD_map_ofList, ← linesFrom_unifyNewlines]
  rw [getD_linesFrom (return_notMem_unifyNewlines _)]
  · rw [modifyHead_nothing]
  · intro found hf c hc
    refine plain (String.ofList found) ?_ c (by simpa using hc)
    rw [sourceLines, ← List.map_take]
    exact List.mem_map_of_mem hf

/-- A number means the same line in both countings, whatever the number, just if no character
separates lines of the text without ending a line of the source. -/
theorem getD_lines_iff (text : String) :
    (∀ index : Nat, (lines text)[index]?.getD "" = (sourceLines text)[index]?.getD "") ↔
      ∀ c ∈ text.toList, isLineBreak c = true → c = '\n' ∨ c = '\r' := by
  constructor
  · intro h c hc hb
    refine Decidable.byContradiction fun hother => ?_
    obtain ⟨line, hl, hm⟩ := exists_mem_sourceLines_iff.2 ⟨hc, not_or.1 hother⟩
    obtain ⟨index, hi⟩ := List.mem_iff_getElem?.1 hl
    have hline : (lines text)[index]?.getD "" = line := by rw [h index, hi, Option.getD_some]
    -- The line is not empty, so it is one of the text.
    cases hg : (lines text)[index]? with
    | none =>
      rw [hg, Option.getD_none] at hline
      simp [← hline] at hm
    | some found =>
      rw [hg, Option.getD_some] at hline
      subst hline
      have hplain := not_isLineBreak_of_mem_lines (List.mem_of_getElem? hg) hm
      simp [hb] at hplain
  · intro h index
    refine getD_lines fun line hl c hc => ?_
    obtain ⟨hmem, hn, hr⟩ := exists_mem_sourceLines_iff.1 ⟨line, List.mem_of_mem_take hl, hc⟩
    cases hb : isLineBreak c with
    | false => rfl
    | true => exact absurd (h c hmem hb) (not_or.2 ⟨hn, hr⟩)

end Agreement

end FieldGrouping.Text
