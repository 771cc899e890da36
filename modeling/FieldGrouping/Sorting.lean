/-!
Sorted lists. `sortStable` keeps equal elements in their order; `distinctSorted` gives the
elements of a list once each, in increasing order, so that two lists with the same elements have
the same result.
-/

set_option autoImplicit false

namespace FieldGrouping

universe u

def insertStable {α : Type u} (before : α → α → Bool) (a : α) : List α → List α
  | [] => [a]
  | b :: bs => if before b a then b :: insertStable before a bs else a :: b :: bs

/-- Sorts by `before`; elements that are equal under it keep their order. -/
def sortStable {α : Type u} (before : α → α → Bool) (as : List α) : List α :=
  as.foldr (insertStable before) []

section Distinct

variable {α : Type u} [LT α] [DecidableLT α] [DecidableEq α]

def insertDistinct (a : α) : List α → List α
  | [] => [a]
  | b :: bs =>
    if a < b then a :: b :: bs else if a = b then b :: bs else b :: insertDistinct a bs

def distinctSorted (as : List α) : List α :=
  as.foldr insertDistinct []

@[simp]
theorem mem_insertDistinct {a x : α} {bs : List α} :
    x ∈ insertDistinct a bs ↔ x = a ∨ x ∈ bs := by
  induction bs with
  | nil => simp [insertDistinct]
  | cons b bs ih =>
    simp only [insertDistinct]
    split
    · simp
    · split
      · rename_i h
        subst h
        simp
      · simp only [List.mem_cons, ih]
        exact or_left_comm

@[simp]
theorem mem_distinctSorted {x : α} {as : List α} : x ∈ distinctSorted as ↔ x ∈ as := by
  induction as with
  | nil => simp [distinctSorted]
  | cons a as ih =>
    simp only [distinctSorted, List.foldr_cons, mem_insertDistinct, List.mem_cons] at ih ⊢
    rw [ih]

variable [Trans (fun x y : α => x < y) (fun x y : α => x < y) (fun x y : α => x < y)]
  [Std.Trichotomous (fun x y : α => x < y)]

theorem pairwise_insertDistinct {a : α} {bs : List α} (h : bs.Pairwise (· < ·)) :
    (insertDistinct a bs).Pairwise (· < ·) := by
  induction bs with
  | nil => simp [insertDistinct]
  | cons b bs ih =>
    obtain ⟨hb, hbs⟩ := List.pairwise_cons.1 h
    simp only [insertDistinct]
    split
    · rename_i hab
      refine List.pairwise_cons.2 ⟨fun x hx => ?_, h⟩
      rcases List.mem_cons.1 hx with rfl | hx
      · exact hab
      · exact Std.lt_trans hab (hb x hx)
    · split
      · exact h
      · rename_i hab hne
        refine List.pairwise_cons.2 ⟨fun x hx => ?_, ih hbs⟩
        rcases mem_insertDistinct.1 hx with rfl | hx
        · exact (Std.lt_trichotomy b x).resolve_right
            fun hor => hor.elim (fun e => hne e.symm) hab
        · exact hb x hx

theorem pairwise_distinctSorted (as : List α) : (distinctSorted as).Pairwise (· < ·) := by
  induction as with
  | nil => simp [distinctSorted]
  | cons a as ih => exact pairwise_insertDistinct ih

end Distinct

end FieldGrouping
