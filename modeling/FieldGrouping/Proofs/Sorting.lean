import FieldGrouping.Sorting

/-!
What stable sorting does: the result has the elements of the list, none of them should come before
one that stands in front of it, and those of which neither should come first stand as they did. An
increasing list is its own sorted list.
-/

set_option autoImplicit false

namespace FieldGrouping

universe u

variable {α : Type u} {before : α → α → Bool}

theorem insertStable_perm (a : α) (bs : List α) : (insertStable before a bs).Perm (a :: bs) := by
  induction bs with
  | nil => simp [insertStable]
  | cons b bs ih =>
    simp only [insertStable]
    split
    · exact (ih.cons b).trans (List.Perm.swap a b bs)
    · exact List.Perm.refl _

theorem sortStable_perm (as : List α) : (sortStable before as).Perm as := by
  induction as with
  | nil => exact List.Perm.refl _
  | cons a as ih => exact (insertStable_perm a _).trans (ih.cons a)

section Stable

variable {R : α → α → Prop} (asymm : ∀ a b, before a b = true → before b a = false)
  (trans : ∀ a b c, before b a = false → before c b = false → before c a = false)

include asymm trans

/-- One step: an element that stands in `R` to all others comes behind only those before it. -/
theorem pairwise_insertStable {a : α} {bs : List α} (first : ∀ b ∈ bs, R a b)
    (h : bs.Pairwise fun x y => before x y = true ∨ before y x = false ∧ R x y) :
    (insertStable before a bs).Pairwise
      fun x y => before x y = true ∨ before y x = false ∧ R x y := by
  induction bs with
  | nil => simp [insertStable]
  | cons b bs ih =>
    obtain ⟨hb, hbs⟩ := List.pairwise_cons.1 h
    simp only [insertStable]
    split
    · rename_i hba
      refine List.pairwise_cons.2 ⟨fun x hx => ?_, ih (fun c hc => first c (by simp [hc])) hbs⟩
      rcases List.mem_cons.1 ((insertStable_perm a bs).mem_iff.1 hx) with rfl | hx
      · exact .inl hba
      · exact hb x hx
    · rename_i hba
      have hba : before b a = false := by simpa using hba
      refine List.pairwise_cons.2 ⟨fun x hx => .inr ⟨?_, first x hx⟩, h⟩
      rcases List.mem_cons.1 hx with rfl | hx
      · exact hba
      · have hxb : before x b = false := (hb x hx).elim (asymm b x) And.left
        exact trans a b x hba hxb

/-- Sorting keeps any order that the list has, except where `before` asks for another. -/
theorem pairwise_sortStable {as : List α} (h : as.Pairwise R) :
    (sortStable before as).Pairwise fun x y => before x y = true ∨ before y x = false ∧ R x y := by
  induction as with
  | nil => simp [sortStable]
  | cons a as ih =>
    obtain ⟨ha, has⟩ := List.pairwise_cons.1 h
    refine pairwise_insertStable asymm trans (fun b hb => ha b ?_) (ih has)
    exact (sortStable_perm as).mem_iff.1 hb

end Stable

/-- In a list that is ordered by `R`, what stands before an element is what is before it by `R`. -/
theorem filter_of_pairwise {R : α → α → Prop} [DecidableRel R] (asymm : ∀ a b, R a b → ¬ R b a)
    {earlier later : List α} {a : α} (h : (earlier ++ a :: later).Pairwise R) :
    (earlier ++ a :: later).filter (R · a) = earlier := by
  obtain ⟨_, hlater, hearlier⟩ := List.pairwise_append.1 h
  have hleft : earlier.filter (R · a) = earlier :=
    List.filter_eq_self.2 fun b hb => by simpa using hearlier b hb a (by simp)
  have hright : (a :: later).filter (R · a) = [] := by
    refine List.filter_eq_nil_iff.2 fun b hb => ?_
    rw [decide_eq_true_eq]
    rcases List.mem_cons.1 hb with rfl | hb
    · exact fun hbb => asymm b b hbb hbb
    · exact asymm a b ((List.pairwise_cons.1 hlater).1 b hb)
  rw [List.filter_append, hleft, hright, List.append_nil]

section Distinct

variable [LT α] [DecidableLT α] [DecidableEq α]

theorem insertDistinct_of_lt {a : α} {as : List α} (h : ∀ b ∈ as, a < b) :
    insertDistinct a as = a :: as := by
  cases as with
  | nil => rfl
  | cons b bs => simp [insertDistinct, h b (by simp)]

theorem distinctSorted_of_pairwise {as : List α} (h : as.Pairwise (· < ·)) :
    distinctSorted as = as := by
  induction as with
  | nil => rfl
  | cons a as ih =>
    obtain ⟨ha, has⟩ := List.pairwise_cons.1 h
    rw [distinctSorted, List.foldr_cons]
    rw [distinctSorted] at ih
    rw [ih has, insertDistinct_of_lt ha]

end Distinct

end FieldGrouping
