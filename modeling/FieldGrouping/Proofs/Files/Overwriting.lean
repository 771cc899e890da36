import FieldGrouping.Files.Discovery

/-!
Trees that differ in the content of one file. Following a path through both trees leads to the same
place, and to the same content unless that place is the file's; so both trees have the same sources.
-/

set_option autoImplicit false

namespace FieldGrouping.Files

/-- The entry with the content of the file at a place below it replaced, if there is such a file. -/
def Entry.overwrite (bytes : List UInt8) : List String → Entry → Entry
  | [], .file own _ => .file own bytes
  | name :: names, .folder own items =>
    .folder own (items.map fun item =>
      if item.name = name then item.overwrite bytes names else item)
  | _, entry => entry

/-- The entries of a folder with the content of the file at a place replaced. -/
def overwriteIn (bytes : List UInt8) (place : List String) (items : List Entry) : List Entry :=
  match place with
  | [] => items
  | name :: names =>
    items.map fun item => if item.name = name then item.overwrite bytes names else item

def Workspace.overwrite (workspace : Workspace) (place : List String) (bytes : List UInt8) :
    Workspace :=
  ⟨overwriteIn bytes place workspace.root, workspace.directory⟩

/-- The names that lead from one folder to the next without going back, the last one first, after
some more names; `entered` are those so far. -/
def placeAfter (entered : List String) : List String → List String
  | [] => entered
  | name :: names =>
    if name = ".." then placeAfter entered.tail names else placeAfter (name :: entered) names

/-- The names that lead from the root to what a path leads to, without going back. -/
def Workspace.placeOf (workspace : Workspace) (path : Path) : List String :=
  (placeAfter [] (workspace.namesFromRoot path)).reverse

/-- Whether a path leads to the file at a place. Two dots lead back, so that a file has more than
one path. -/
def Workspace.leadsTo (workspace : Workspace) (place : List String) (path : Path) : Bool :=
  match workspace.locate path with
  | .ok (.file _ _) => workspace.placeOf path == place
  | _ => false

section Entry

variable {bytes : List UInt8}

theorem overwrite_folder (place : List String) (own : String) (items : List Entry) :
    (Entry.folder own items).overwrite bytes place =
      .folder own (overwriteIn bytes place items) := by
  cases place <;> simp [Entry.overwrite, overwriteIn]

theorem name_overwrite (place : List String) (entry : Entry) :
    (entry.overwrite bytes place).name = entry.name := by
  cases place <;> cases entry <;> simp [Entry.overwrite, Entry.name]

theorem filesBelow_map {excluded : String → Bool} {change : Entry → Entry}
    (same : ∀ item path, (change item).files excluded path = item.files excluded path)
    (path : Path) (items : List Entry) :
    filesBelow excluded path (items.map change) = filesBelow excluded path items := by
  induction items with
  | nil => rfl
  | cons item rest ih => simp only [List.map_cons, filesBelow, same, ih]

theorem files_overwrite (excluded : String → Bool) (place : List String) (path : Path)
    (entry : Entry) :
    (entry.overwrite bytes place).files excluded path = entry.files excluded path := by
  induction place generalizing path entry with
  | nil => cases entry <;> simp [Entry.overwrite, Entry.files]
  | cons name names ih =>
    cases entry with
    | file own old => simp [Entry.overwrite]
    | folder own items =>
      simp only [Entry.overwrite, Entry.files]
      rw [filesBelow_map fun item path => ?_]
      split
      · exact ih path item
      · rfl

theorem filesBelow_overwriteIn (excluded : String → Bool) (place : List String) (path : Path)
    (items : List Entry) :
    filesBelow excluded path (overwriteIn bytes place items) = filesBelow excluded path items := by
  cases place with
  | nil => rfl
  | cons name names =>
    refine filesBelow_map (fun item path => ?_) path items
    split
    · exact files_overwrite excluded names path item
    · rfl

end Entry

section Follow

/-- What is left of a place after the names that were entered. -/
def routeAfter (place : List String) : List String → Option (List String)
  | [] => some place
  | name :: outer =>
    match routeAfter place outer with
    | some (first :: rest) => if first = name then some rest else none
    | _ => none

theorem routeAfter_eq_some_iff {place entered rest : List String} :
    routeAfter place entered = some rest ↔ place = entered.reverse ++ rest := by
  induction entered generalizing rest with
  | nil => simp [routeAfter]
  | cons name outer ih =>
    have hlong : (name :: outer).reverse ++ rest = outer.reverse ++ name :: rest := by simp
    rw [hlong, ← ih]
    cases hr : routeAfter place outer with
    | none => simp [routeAfter, hr]
    | some route => cases route <;> simp [routeAfter, hr]

/-- The entry at some entered names in the tree with the file at the place replaced. -/
def Entry.changed (bytes : List UInt8) (place entered : List String) (entry : Entry) : Entry :=
  match routeAfter place entered with
  | some rest => entry.overwrite bytes rest
  | none => entry

def changedIn (bytes : List UInt8) (place entered : List String) (items : List Entry) :
    List Entry :=
  match routeAfter place entered with
  | some rest => overwriteIn bytes rest items
  | none => items

/-- The folders around the entry at some entered names, in that tree. -/
def changedAbove (bytes : List UInt8) (place : List String) :
    List String → List (List Entry) → List (List Entry)
  | _ :: outer, items :: above =>
    changedIn bytes place outer items :: changedAbove bytes place outer above
  | _, _ => []

variable {bytes : List UInt8} {place : List String}

theorem changed_folder (entered : List String) (own : String) (items : List Entry) :
    (Entry.folder own items).changed bytes place entered =
      .folder own (changedIn bytes place entered items) := by
  unfold Entry.changed changedIn
  split
  · exact overwrite_folder _ own items
  · rfl

theorem changed_file (entered : List String) (own : String) (old : List UInt8) :
    (Entry.file own old).changed bytes place entered =
      .file own (if place = entered.reverse then bytes else old) := by
  have hend : routeAfter place entered = some [] ↔ place = entered.reverse := by
    rw [routeAfter_eq_some_iff, List.append_nil]
  simp only [← hend]
  unfold Entry.changed
  cases hr : routeAfter place entered with
  | none => simp
  | some rest => cases rest <;> simp [Entry.overwrite]

theorem filesBelow_changedIn (excluded : String → Bool) (entered : List String) (path : Path)
    (items : List Entry) :
    filesBelow excluded path (changedIn bytes place entered items) =
      filesBelow excluded path items := by
  unfold changedIn
  split
  · exact filesBelow_overwriteIn excluded _ path items
  · rfl

theorem name_of_find? {name : String} {items : List Entry} {found : Entry}
    (h : find? name items = some found) : found.name = name := by
  simpa using List.find?_some h

theorem find?_overwriteIn (first name : String) (rest : List String) (items : List Entry) :
    find? name (overwriteIn bytes (first :: rest) items) =
      (find? name items).map fun item =>
        if first = name then item.overwrite bytes rest else item := by
  have hname (item : Entry) :
      (if item.name = first then item.overwrite bytes rest else item).name = item.name := by
    split
    · exact name_overwrite rest item
    · rfl
  simp only [find?, overwriteIn, List.find?_map, Function.comp_def, hname]
  cases hfound : items.find? (·.name == name) with
  | none => rfl
  | some found =>
    have hn : found.name = name := name_of_find? hfound
    simp [hn, eq_comm]

theorem find?_changedIn (entered : List String) (name : String) (items : List Entry) :
    find? name (changedIn bytes place entered items) =
      (find? name items).map (Entry.changed bytes place (name :: entered)) := by
  unfold changedIn
  cases hr : routeAfter place entered with
  | none =>
    have hchanged : Entry.changed bytes place (name :: entered) = id := by
      funext entry
      simp [Entry.changed, routeAfter, hr]
    rw [hchanged, Option.map_id]
    rfl
  | some route =>
    cases route with
    | nil =>
      have hchanged : Entry.changed bytes place (name :: entered) = id := by
        funext entry
        simp [Entry.changed, routeAfter, hr]
      rw [hchanged, Option.map_id]
      rfl
    | cons first rest =>
      have hchanged : Entry.changed bytes place (name :: entered) =
          fun item => if first = name then item.overwrite bytes rest else item := by
        funext item
        by_cases hn : first = name <;> simp [Entry.changed, routeAfter, hr, hn]
      rw [hchanged]
      exact find?_overwriteIn first name rest items

/-- Following names leads to the same place in both trees. -/
theorem follow_changed {entered : List String} {above : List (List Entry)}
    (depth : entered.length = above.length) (entry : Entry) (names : List String) :
    follow (changedAbove bytes place entered above) (entry.changed bytes place entered) names =
      (follow above entry names).map (Entry.changed bytes place (placeAfter entered names)) := by
  induction names generalizing entered above entry with
  | nil => simp [follow, placeAfter, Except.map]
  | cons name names ih =>
    cases entry with
    | file own old =>
      rw [changed_file]
      simp [follow, Except.map]
    | folder own items =>
      rw [changed_folder]
      by_cases hup : name = ".."
      · cases above with
        | nil =>
          obtain rfl : entered = [] := by simpa using depth
          have hstay := ih depth (.folder own items)
          rw [changed_folder] at hstay
          simp only [follow, hup, if_true, changedAbove, placeAfter, List.tail_nil]
          exact hstay
        | cons outer above =>
          cases entered with
          | nil => simp at depth
          | cons last entered =>
            have hdepth : entered.length = above.length := by simpa using depth
            have hout := ih hdepth (.folder "" outer)
            rw [changed_folder] at hout
            simp only [follow, hup, if_true, changedAbove, placeAfter, List.tail_cons]
            exact hout
      · by_cases hlong : nameLimit < name.utf8ByteSize
        · simp [follow, hup, hlong, Except.map]
        · simp only [follow, hup, hlong, if_false, placeAfter, find?_changedIn]
          cases hfound : find? name items with
          | none => simp [Except.map]
          | some inner =>
            have hdepth : (name :: entered).length = (items :: above).length := by
              simpa using depth
            have hin := ih hdepth inner
            simpa [changedAbove] using hin

end Follow

section Workspace

variable {workspace : Workspace} {place : List String} {bytes : List UInt8} {path : Path}

theorem locate_overwrite :
    (workspace.overwrite place bytes).locate path =
      (workspace.locate path).map (Entry.changed bytes place (workspace.placeOf path).reverse) := by
  have hfollow : follow (changedAbove bytes place [] [])
      ((Entry.folder "" workspace.root).changed bytes place [])
      (workspace.namesFromRoot path) = _ :=
    follow_changed rfl (.folder "" workspace.root) (workspace.namesFromRoot path)
  rw [changed_folder] at hfollow
  unfold Workspace.locate Workspace.placeOf
  rw [List.reverse_reverse]
  split
  · rfl
  · exact hfollow

/-- Only a path to the file itself reads another text. -/
theorem readText_overwrite (h : workspace.leadsTo place path = false) :
    (workspace.overwrite place bytes).readText path = workspace.readText path := by
  unfold Workspace.readText
  rw [locate_overwrite]
  cases hl : workspace.locate path with
  | error fault => rfl
  | ok entry =>
    cases entry with
    | folder own items =>
      rw [Except.map, changed_folder]
    | file own old =>
      have hne : ¬ place = (workspace.placeOf path).reverse.reverse := fun he => by
        simp [Workspace.leadsTo, hl, he] at h
      rw [Except.map, changed_file, if_neg hne]

theorem folder?_overwrite :
    (workspace.overwrite place bytes).folder? path =
      (workspace.folder? path).map (changedIn bytes place (workspace.placeOf path).reverse) := by
  unfold Workspace.folder?
  rw [locate_overwrite]
  cases hl : workspace.locate path with
  | error fault => rfl
  | ok entry =>
    cases entry with
    | file own old =>
      rw [Except.map, changed_file]
      rfl
    | folder own items =>
      rw [Except.map, changed_folder]
      cases path.hasNull <;> rfl

/-- Both trees have the same sources. -/
theorem sourcePaths_overwrite (registry : Source.Registry Source.Reader) (settings : Settings)
    (paths : List Path) :
    sourcePaths (workspace.overwrite place bytes) registry settings paths =
      sourcePaths workspace registry settings paths := by
  have hexpand : expand (workspace.overwrite place bytes) registry settings =
      expand workspace registry settings := by
    funext path
    unfold expand
    rw [folder?_overwrite]
    cases workspace.folder? path with
    | none => rfl
    | some items => simp only [Option.map_some, filesBelow_changedIn]
  rw [sourcePaths, hexpand, sourcePaths]

end Workspace

end FieldGrouping.Files
