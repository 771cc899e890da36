import FieldGrouping.Sorting

/-! Finite sets of names, kept as increasing lists so that equal sets are equal values. -/

set_option autoImplicit false

namespace FieldGrouping

structure NameSet where
  toList : List String
  increasing : toList.Pairwise (· < ·)
  deriving DecidableEq

namespace NameSet

def ofList (names : List String) : NameSet :=
  ⟨distinctSorted names, pairwise_distinctSorted names⟩

def contains (set : NameSet) (name : String) : Bool :=
  set.toList.contains name

instance : Membership String NameSet :=
  ⟨fun set name => name ∈ set.toList⟩

@[simp]
theorem mem_ofList {name : String} {names : List String} : name ∈ ofList names ↔ name ∈ names :=
  mem_distinctSorted

@[simp]
theorem contains_iff {set : NameSet} {name : String} : set.contains name = true ↔ name ∈ set := by
  simp [contains, Membership.mem]

def union (set other : NameSet) : NameSet :=
  ofList (set.toList ++ other.toList)

theorem mem_union {set other : NameSet} {name : String} :
    name ∈ set.union other ↔ name ∈ set ∨ name ∈ other :=
  mem_ofList.trans List.mem_append

end NameSet

end FieldGrouping
