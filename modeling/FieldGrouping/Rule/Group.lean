import FieldGrouping.Declaration
import FieldGrouping.NameSet
import FieldGrouping.Rule.Stem
import FieldGrouping.Sorting

/-!
Groups of fields with a common stem. First every stem that is not allowed gathers the fields it
covers; then groups are taken, the longest stem first, each of the fields that no group taken
earlier has. Fields are told apart by their position, so that equal declarations stay two fields.
-/

set_option autoImplicit false

namespace FieldGrouping

structure Slot where
  position : Nat
  field : Field
  deriving DecidableEq, Repr

def slots (fields : List Field) : List Slot :=
  fields.zipIdx.map fun entry => ⟨entry.2, entry.1⟩

structure Group where
  stem : String
  members : List Slot
  deriving DecidableEq, Repr

namespace Group

def names (group : Group) : List String :=
  group.members.map (·.field.name)

def gather (stem : String) (slot : Slot) : List Group → List Group
  | [] => [⟨stem, [slot]⟩]
  | group :: groups =>
    if group.stem = stem then ⟨stem, group.members ++ [slot]⟩ :: groups
    else group :: gather stem slot groups

def gatherSlot (allowed : NameSet) (groups : List Group) (slot : Slot) : List Group :=
  (stems slot.field.name).foldl
    (fun groups stem => if allowed.contains stem then groups else gather stem slot groups) groups

/-- The groups of all stems that are not allowed, in the order in which the stems first occur. -/
def candidates (allowed : NameSet) (slots : List Slot) : List Group :=
  slots.foldl (gatherSlot allowed) []

def byLength (groups : List Group) : List Group :=
  sortStable (fun a b => b.stem.length < a.stem.length) groups

/-- Takes groups in order. A group has the fields that were not claimed before; it is left out,
and claims nothing, if they are fewer than `minimum`. -/
def takeFrom (minimum : Int) (claimed : List Slot) : List Group → List Group
  | [] => []
  | group :: groups =>
    let free := group.members.filter fun slot => !claimed.contains slot
    -- The fields of a small group stay free for shorter stems.
    if (free.length : Int) < minimum then takeFrom minimum claimed groups
    else ⟨group.stem, free⟩ :: takeFrom minimum (free ++ claimed) groups

def select (minimum : Int) (groups : List Group) : List Group :=
  takeFrom minimum [] (byLength groups)

end Group

end FieldGrouping
