import FieldGrouping.Calendar
import FieldGrouping.Number.Binary64

/-!
Configuration values and tables. A table keeps its keys in the order in which they were first
written; writing a key again keeps its place.
-/

set_option autoImplicit false

namespace FieldGrouping.Config

/-- A configuration value. `absent` stands for an option that is named without being given. -/
inductive Value where
  | absent
  | bool (b : Bool)
  | int (n : Int)
  | float (x : Binary64)
  | text (s : String)
  | date (d : Date)
  | time (t : TimeOfDay)
  | moment (m : Moment)
  | list (items : List Value)
  | table (entries : List (String × Value))
  deriving Inhabited

abbrev Table := List (String × Value)

namespace Table

def get? (table : Table) (key : String) : Option Value :=
  List.lookup key table

/-- Writes a value under a key, in the key's place if it has one and at the end otherwise. -/
def put (key : String) (value : Value) : Table → Table
  | [] => [(key, value)]
  | entry :: rest =>
    if entry.1 = key then (key, value) :: rest else entry :: put key value rest

theorem get?_nil (key : String) : get? [] key = none := rfl

theorem get?_put_self (key : String) (value : Value) (table : Table) :
    get? (put key value table) key = some value := by
  induction table with
  | nil => simp [put, get?]
  | cons entry rest ih =>
    obtain ⟨name, old⟩ := entry
    by_cases h : name = key
    · simp [put, h, get?]
    · have h' : (key == name) = false := by simpa using fun e => h e.symm
      simpa [put, h, get?, List.lookup_cons, h'] using ih

theorem get?_put_of_ne {key other : String} (h : other ≠ key) (value : Value) (table : Table) :
    get? (put key value table) other = get? table other := by
  induction table with
  | nil =>
    have h' : (other == key) = false := by simpa using h
    simp [put, get?, List.lookup_cons, h']
  | cons entry rest ih =>
    obtain ⟨name, old⟩ := entry
    by_cases hk : name = key
    · subst hk
      have h' : (other == name) = false := by simpa using h
      simp [put, get?, List.lookup_cons, h']
    · by_cases ho : other = name
      · subst ho
        simp [put, hk, get?]
      · have h' : (other == name) = false := by simpa using ho
        simpa [put, hk, get?, List.lookup_cons, h'] using ih

def subtable (table : Table) (key : String) : Table :=
  match table.get? key with
  | some (.table entries) => entries
  | _ => []

end Table

def overlay (payload defaults : Table) : Table :=
  payload.foldl (fun merged entry =>
    match entry.2 with
    | .absent => merged
    | value => merged.put entry.1 value) defaults

end FieldGrouping.Config
