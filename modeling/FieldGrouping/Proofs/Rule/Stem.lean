import FieldGrouping.Rule.Stem

/-!
The stems of one name are nested: of two of them the longer is covered by the shorter, and no two
have the same length.
-/

set_option autoImplicit false

namespace FieldGrouping

namespace Covers

variable {p q name : String}

theorem length_lt (h : Covers p name) : p.length < name.length := by
  have hl := List.IsPrefix.length_le h
  simp only [List.length_append, List.length_singleton, String.length_toList] at hl
  omega

theorem isPrefix (h : Covers p name) : p.toList <+: name.toList :=
  (List.prefix_append _ _).trans h

/-- Of two stems of one name the longer one goes on after the shorter with an underscore. -/
theorem of_length_lt (hp : Covers p name) (hq : Covers q name) (h : p.length < q.length) :
    Covers p q := by
  have hl : (p.toList ++ ['_']).length ≤ q.toList.length := by
    simp only [List.length_append, List.length_singleton, String.length_toList]
    omega
  exact List.prefix_of_prefix_length_le hp hq.isPrefix hl

theorem eq_of_length_eq (hp : Covers p name) (hq : Covers q name) (h : p.length = q.length) :
    p = q := by
  have hl : p.toList.length = q.toList.length := by
    rw [String.length_toList, String.length_toList, h]
  have hpq := List.prefix_of_prefix_length_le hp.isPrefix hq.isPrefix (Nat.le_of_eq hl)
  exact String.toList_inj.1 (hpq.eq_of_length hl)

end Covers

theorem pairwise_stemsFrom (read cs : List Char) :
    (stemsFrom read cs).Pairwise fun p q => p.length < q.length := by
  induction cs generalizing read with
  | nil => simp [stemsFrom]
  | cons c cs ih =>
    simp only [stemsFrom]
    split
    · refine List.pairwise_cons.2 ⟨fun p hp => ?_, ih _⟩
      obtain ⟨q, rfl, _⟩ := mem_stemsFrom.1 hp
      simp only [List.length_append, List.length_reverse, List.length_cons]
      omega
    · exact ih _

theorem pairwise_stems (name : String) : (stems name).Pairwise fun p q => p.length < q.length := by
  simpa [stems_eq, List.pairwise_map] using pairwise_stemsFrom [] name.toList

theorem nodup_stems (name : String) : (stems name).Nodup := by
  refine (pairwise_stems name).imp fun h e => ?_
  rw [e] at h
  exact Nat.lt_irrefl _ h

end FieldGrouping
