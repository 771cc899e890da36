import FieldGrouping.Proofs.Files.Discovery

/-!
Naming a file and naming a folder around it. A walk leaves out folders by their names, while a path
that is given is left out by any of its parts, its last one too. So a file is found in both ways or
in none, unless its own name is an excluded one.
-/

set_option autoImplicit false

namespace FieldGrouping

/-- The parts that stand for the root. -/
def Path.IsRoot (part : String) : Prop :=
  part = "/" ∨ part = "//"

theorem Path.isAbsolute_cons {first : String} {rest : List String} :
    (Path.mk (first :: rest)).isAbsolute = true ↔ IsRoot first := by
  simp [isAbsolute, IsRoot]

theorem Path.isAbsolute_of_not_isRoot {first : String} {rest : List String}
    (h : ¬ IsRoot first) : (Path.mk (first :: rest)).isAbsolute = false := by
  rwa [Bool.eq_false_iff, ne_eq, isAbsolute_cons]

theorem Path.name_concat {front : List String} {last : String} (h : ¬ IsRoot last) :
    (Path.mk (front ++ [last])).name = last := by
  unfold name names
  cases front with
  | nil => simp [isAbsolute_of_not_isRoot h]
  | cons first rest =>
    split
    · simp
    · simp only [List.getLast?_concat, Option.getD_some]

namespace Files

open Source (Registry Reader)

/-! ### Proper trees -/

/-- Names that files and folders can have. -/
def isProperName (name : String) : Bool :=
  !(["", ".", ".."].contains name) && !name.toList.contains '/' &&
    !name.toList.contains '\x00' && name.utf8ByteSize ≤ nameLimit

mutual

/-- Whether entries have proper names, and no two of one folder the same. -/
def areProper : List Entry → Bool
  | [] => true
  | item :: rest => item.isProper && (find? item.name rest).isNone && areProper rest

/-- Whether an entry and all those below it are proper. -/
def Entry.isProper : Entry → Bool
  | .file name _ => isProperName name
  | .folder name items => isProperName name && areProper items

end

/-- What is directly in an entry. -/
def Entry.items : Entry → List Entry
  | .file _ _ => []
  | .folder _ items => items

/-- A workspace in whose tree all entries are proper. -/
def Workspace.IsProper (workspace : Workspace) : Prop :=
  areProper workspace.root = true

section Proper

theorem areProper_cons {item : Entry} {rest : List Entry} :
    areProper (item :: rest) = true ↔
      item.isProper = true ∧ find? item.name rest = none ∧ areProper rest = true := by
  simp [areProper, and_assoc]

theorem isProper_of_mem {items : List Entry} (proper : areProper items = true) {item : Entry}
    (mem : item ∈ items) : item.isProper = true := by
  induction items with
  | nil => simp at mem
  | cons first rest ih =>
    obtain ⟨hfirst, _, hrest⟩ := areProper_cons.1 proper
    rcases List.mem_cons.1 mem with rfl | mem
    · exact hfirst
    · exact ih hrest mem

theorem find?_of_mem {items : List Entry} (proper : areProper items = true) {item : Entry}
    (mem : item ∈ items) : find? item.name items = some item := by
  induction items with
  | nil => simp at mem
  | cons first rest ih =>
    obtain ⟨_, hother, hrest⟩ := areProper_cons.1 proper
    rcases List.mem_cons.1 mem with rfl | mem
    · simp [find?]
    · have hfound := ih hrest mem
      have hne : first.name ≠ item.name := fun he => by simp [he, hfound] at hother
      simpa [find?, List.find?_cons, hne] using hfound

theorem Entry.isProper_folder {name : String} {items : List Entry} :
    (Entry.folder name items).isProper = true ↔
      isProperName name = true ∧ areProper items = true := by
  simp [Entry.isProper]

theorem isProperName_of_mem {items : List Entry} (proper : areProper items = true) {item : Entry}
    (mem : item ∈ items) : isProperName item.name = true := by
  have hitem := isProper_of_mem proper mem
  cases item with
  | file name bytes => exact hitem
  | folder name inner => exact (Entry.isProper_folder.1 hitem).1

theorem areProper_items {item : Entry} (proper : item.isProper = true) :
    areProper item.items = true := by
  cases item with
  | file name bytes => rfl
  | folder name inner => exact (Entry.isProper_folder.1 proper).2

theorem areProper_of_mem {items : List Entry} (proper : areProper items = true) {name : String}
    {inner : List Entry} (mem : .folder name inner ∈ items) : areProper inner = true :=
  areProper_items (isProper_of_mem proper mem)

theorem ne_up_of_isProperName {name : String} (h : isProperName name = true) : name ≠ ".." := by
  rintro rfl
  simp [isProperName] at h

theorem size_of_isProperName {name : String} (h : isProperName name = true) :
    ¬ nameLimit < name.utf8ByteSize := by
  simp only [isProperName, Bool.and_eq_true, decide_eq_true_eq] at h
  omega

theorem not_isRoot_of_isProperName {name : String} (h : isProperName name = true) :
    ¬ Path.IsRoot name := by
  rintro (rfl | rfl) <;> simp [isProperName] at h

theorem FileAt.isProperName {items : List Entry} {names : List String} (h : FileAt items names)
    (proper : areProper items = true) : ∀ name ∈ names, isProperName name = true := by
  induction h with
  | file here => exact List.forall_mem_singleton.2 (isProperName_of_mem proper here)
  | folder here below ih =>
    exact List.forall_mem_cons.2
      ⟨isProperName_of_mem proper here, ih (areProper_of_mem proper here)⟩

end Proper

/-! ### Following the names of a file -/

section Follow

theorem exists_follow_append {above : List (List Entry)} {entry inner : Entry}
    {names : List String} (h : follow above entry names = .ok inner) :
    ∃ around, ∀ more, follow above entry (names ++ more) = follow around inner more := by
  fun_induction follow above entry names with
  | case1 above entry =>
    cases h
    exact ⟨above, fun more => rfl⟩
  | case2 | case5 | case6 => cases h
  | case3 names own items ih | case4 names own items outer rest ih =>
    obtain ⟨around, hmore⟩ := ih h
    exact ⟨around, fun more => by simpa [follow] using hmore more⟩
  | case7 above name names own items hup hsize inner' hfound ih =>
    obtain ⟨around, hmore⟩ := ih h
    exact ⟨around, fun more => by simpa [follow, hup, hsize, hfound] using hmore more⟩

/-- In a proper tree a path leads to proper entries, also by way of the folders above. -/
theorem areProper_items_of_follow {above : List (List Entry)} {entry inner : Entry}
    {names : List String} (h : follow above entry names = .ok inner)
    (outer : ∀ items ∈ above, areProper items = true) (proper : areProper entry.items = true) :
    areProper inner.items = true := by
  fun_induction follow above entry names with
  | case1 => cases h; exact proper
  | case2 | case5 | case6 => cases h
  | case3 names own items ih => exact ih h outer proper
  | case4 names own items outermost rest ih =>
    exact ih h (fun items hitems => outer items (by simp [hitems])) (outer outermost (by simp))
  | case7 above name names own items hup hsize found hfound ih =>
    have hmem : found ∈ items := List.mem_of_find?_eq_some hfound
    exact ih h (List.forall_mem_cons.2 ⟨proper, outer⟩)
      (areProper_items (isProper_of_mem proper hmem))

theorem follow_cons_of_mem {items : List Entry} (proper : areProper items = true) {item : Entry}
    (mem : item ∈ items) (above : List (List Entry)) (own : String) (names : List String) :
    follow above (.folder own items) (item.name :: names) = follow (items :: above) item names := by
  have hname := isProperName_of_mem proper mem
  have hup := ne_up_of_isProperName hname
  have hsize := size_of_isProperName hname
  simp only [follow, hup, hsize, if_false, find?_of_mem proper mem]

theorem follow_of_fileAt {items : List Entry} {names : List String} (h : FileAt items names)
    (proper : areProper items = true) (above : List (List Entry)) (own : String) :
    ∃ name bytes, follow above (.folder own items) names = .ok (.file name bytes) := by
  induction h generalizing above own with
  | @file items name bytes here =>
    exact ⟨name, bytes, follow_cons_of_mem proper here above own []⟩
  | @folder items inner name names here below ih =>
    obtain ⟨last, bytes, hfile⟩ := ih (areProper_of_mem proper here) (items :: above) name
    exact ⟨last, bytes, (follow_cons_of_mem proper here above own names).trans hfile⟩

end Follow

section Workspace

variable {workspace : Workspace} {folder : Path} {items : List Entry} {names : List String}

theorem isAbsolute_below (proper : ∀ name ∈ names, isProperName name = true) :
    (folder.below names).isAbsolute = folder.isAbsolute := by
  obtain ⟨parts⟩ := folder
  cases parts with
  | cons first rest => rfl
  | nil =>
    cases names with
    | nil => rfl
    | cons first rest =>
      exact Path.isAbsolute_of_not_isRoot (not_isRoot_of_isProperName (proper first (by simp)))

/-- What leads on from a path leads on from the root. -/
theorem namesFromRoot_below (workspace : Workspace)
    (proper : ∀ name ∈ names, isProperName name = true) :
    workspace.namesFromRoot (folder.below names) = workspace.namesFromRoot folder ++ names := by
  unfold Workspace.namesFromRoot Path.names
  rw [isAbsolute_below proper]
  cases h : folder.isAbsolute with
  | false => simp [Path.below]
  | true =>
    obtain ⟨parts⟩ := folder
    cases parts with
    | nil => cases h
    | cons first rest => rfl

theorem folder?_eq_some_iff : workspace.folder? folder = some items ↔
    folder.hasNull = false ∧ ∃ own, workspace.locate folder = .ok (.folder own items) := by
  unfold Workspace.folder?
  split
  · next own inner hl => cases folder.hasNull <;> simp [hl]
  · next hother =>
    simp only [reduceCtorEq, false_iff, not_and, not_exists]
    exact fun _ own => hother own items

theorem follow_of_folder? (isFolder : workspace.folder? folder = some items) :
    ∃ own, follow [] (.folder "" workspace.root) (workspace.namesFromRoot folder) =
      .ok (.folder own items) := by
  obtain ⟨_, own, hlocate⟩ := folder?_eq_some_iff.1 isFolder
  unfold Workspace.locate at hlocate
  split at hlocate
  · cases hlocate
  · exact ⟨own, hlocate⟩

theorem areProper_of_folder? (proper : workspace.IsProper)
    (isFolder : workspace.folder? folder = some items) : areProper items = true := by
  obtain ⟨own, hfollow⟩ := follow_of_folder? isFolder
  exact areProper_items_of_follow hfollow (by simp) proper

/-- The path to a file below a folder is not the path of a folder. -/
theorem folder?_below (proper : workspace.IsProper)
    (isFolder : workspace.folder? folder = some items) (file : FileAt items names) :
    workspace.folder? (folder.below names) = none := by
  have hitems := areProper_of_folder? proper isFolder
  obtain ⟨own, hfollow⟩ := follow_of_folder? isFolder
  obtain ⟨around, hmore⟩ := exists_follow_append hfollow
  obtain ⟨name, bytes, hfile⟩ := follow_of_fileAt file hitems around own
  unfold Workspace.folder? Workspace.locate
  rw [namesFromRoot_below workspace (file.isProperName hitems), hmore names, hfile]
  by_cases hlong : pathLimit < (folder.below names).text.utf8ByteSize <;> simp [hlong]

end Workspace

/-! ### Both ways of naming -/

section Naming

variable {workspace : Workspace} {registry : Registry Reader} {settings : Settings}
  {folder path : Path} {items : List Entry} {names : List String}

theorem standsFor_folder_iff (isFolder : workspace.folder? folder = some items) :
    StandsFor workspace registry settings folder path ↔
      ∃ names, FileAt items names ∧ (∀ name ∈ names.dropLast, name ∉ settings.excluded) ∧
        isSource registry (folder.below names) = true ∧ path = folder.below names := by
  constructor
  · intro h
    cases h with
    | below hfolder file kept known =>
      cases isFolder.symm.trans hfolder
      exact ⟨_, file, kept, isSource_iff.2 known, rfl⟩
    | itself other kept => simp [isFolder] at other
  · rintro ⟨names, file, kept, source, rfl⟩
    exact .below isFolder file kept (isSource_iff.1 source)

theorem standsFor_other_iff {given : Path} (other : workspace.folder? given = none) :
    StandsFor workspace registry settings given path ↔
      path = given ∧ ∀ part ∈ given.parts, part ∉ settings.excluded := by
  constructor
  · intro h
    cases h with
    | below folder file kept known => simp [other] at folder
    | itself _ kept => exact ⟨rfl, kept⟩
  · rintro ⟨rfl, kept⟩
    exact .itself other kept

/-- The names that lead to a file end in its own. -/
theorem names_eq_concat (folder : Path) (file : FileAt items names)
    (proper : areProper items = true) :
    names = names.dropLast ++ [(folder.below names).name] := by
  have hlast := file.isProperName proper _ (List.getLast_mem file.ne_nil)
  have hsplit := List.dropLast_append_getLast file.ne_nil
  have hparts : folder.below names =
      ⟨(folder.parts ++ names.dropLast) ++ [names.getLast file.ne_nil]⟩ := by
    rw [List.append_assoc, hsplit]
    rfl
  rw [hparts, Path.name_concat (not_isRoot_of_isProperName hlast), hsplit]

/-- A file below a folder is kept under its own path if the walk finds it and its name is not
excluded. -/
theorem kept_below_iff (file : FileAt items names) (proper : areProper items = true)
    (kept : ∀ part ∈ folder.parts, part ∉ settings.excluded) :
    (∀ part ∈ (folder.below names).parts, part ∉ settings.excluded) ↔
      (∀ name ∈ names.dropLast, name ∉ settings.excluded) ∧
        (folder.below names).name ∉ settings.excluded := by
  have hparts : (folder.below names).parts =
      folder.parts ++ (names.dropLast ++ [(folder.below names).name]) := by
    rw [← names_eq_concat folder file proper]
    rfl
  rw [hparts]
  simp only [List.forall_mem_append, List.forall_mem_singleton]
  exact ⟨And.right, fun h => ⟨kept, h⟩⟩

theorem mem_sourcePaths_singleton {given : Path} :
    path ∈ sourcePaths workspace registry settings [given] ↔
      StandsFor workspace registry settings given path := by
  simp only [mem_sourcePaths, List.mem_singleton, exists_eq_left]

/-- For a file below a folder: being kept under its own path is being found by the walk, and not
having an excluded name. -/
theorem mem_sourcePaths_itself_iff (proper : workspace.IsProper)
    (isFolder : workspace.folder? folder = some items)
    (kept : ∀ part ∈ folder.parts, part ∉ settings.excluded) (file : FileAt items names)
    (source : isSource registry (folder.below names) = true) :
    folder.below names ∈ sourcePaths workspace registry settings [folder.below names] ↔
      folder.below names ∈ sourcePaths workspace registry settings [folder] ∧
        (folder.below names).name ∉ settings.excluded := by
  rw [mem_sourcePaths_singleton, mem_sourcePaths_singleton,
    standsFor_other_iff (folder?_below proper isFolder file), standsFor_folder_iff isFolder,
    kept_below_iff file (areProper_of_folder? proper isFolder) kept]
  constructor
  · rintro ⟨_, hwalk, hname⟩
    exact ⟨⟨names, file, hwalk, source, rfl⟩, hname⟩
  · rintro ⟨⟨others, _, hwalk, _, heq⟩, hname⟩
    obtain rfl : names = others := by simpa [Path.below] using heq
    exact ⟨rfl, hwalk, hname⟩

end Naming

/-- A file below a folder that is not excluded itself is found under its own path exactly if it is
found in the folder and its name is not an excluded one. So the sources of a folder, given one by
one, are those of the folder but for the ones of an excluded name. -/
theorem sourcePaths_by_name (workspace : Workspace) (registry : Registry Reader)
    (settings : Settings) (folder : Path) (items : List Entry) (proper : workspace.IsProper)
    (isFolder : workspace.folder? folder = some items)
    (kept : ∀ part ∈ folder.parts, part ∉ settings.excluded) :
    (∀ names, FileAt items names → isSource registry (folder.below names) = true →
      (folder.below names ∈ sourcePaths workspace registry settings [folder.below names] ↔
        folder.below names ∈ sourcePaths workspace registry settings [folder] ∧
          (folder.below names).name ∉ settings.excluded)) ∧
    sourcePaths workspace registry settings (sourcePaths workspace registry settings [folder]) =
      (sourcePaths workspace registry settings [folder]).filter
        fun path => !settings.excluded.contains path.name := by
  refine ⟨fun names file source => mem_sourcePaths_itself_iff proper isFolder kept file source, ?_⟩
  refine (eq_sourcePaths ((pairwise_sourcePaths [folder]).filter _) fun path => ?_).symm
  rw [List.mem_filter, Bool.not_eq_true', contains_eq_false_iff]
  constructor
  · rintro ⟨hpath, hname⟩
    obtain ⟨names, file, _, source, rfl⟩ :=
      (standsFor_folder_iff isFolder).1 (mem_sourcePaths_singleton.1 hpath)
    have hitself := (mem_sourcePaths_itself_iff proper isFolder kept file source).2 ⟨hpath, hname⟩
    exact ⟨_, hpath, mem_sourcePaths_singleton.1 hitself⟩
  · rintro ⟨input, hinput, hstands⟩
    obtain ⟨names, file, _, source, rfl⟩ :=
      (standsFor_folder_iff isFolder).1 (mem_sourcePaths_singleton.1 hinput)
    obtain ⟨rfl, _⟩ := (standsFor_other_iff (folder?_below proper isFolder file)).1 hstands
    exact (mem_sourcePaths_itself_iff proper isFolder kept file source).1
      (mem_sourcePaths_singleton.2 hstands)

/-- A source whose name is an excluded one, beside another one and one in an excluded folder. -/
def helpers : List Entry :=
  [.file "conftest.py" [], .file "user.py" [], .folder "build" [.file "copy.py" []]]

def helped : Workspace :=
  ⟨[.folder "w" [.folder "app" helpers]], ["w"]⟩

def withoutHelpers : Settings :=
  ⟨RuleOptions.default, NameSet.ofList ["build", "conftest.py"], .default⟩

theorem helped_isProper : helped.IsProper := by
  unfold Workspace.IsProper
  decide +kernel

/-- The folder is reached through the one above. -/
theorem sourcePaths_by_name_helpers :
    helped.IsProper ∧ helped.folder? ⟨["..", "w", "app"]⟩ = some helpers ∧
    (∀ part ∈ (Path.mk ["..", "w", "app"]).parts, part ∉ withoutHelpers.excluded) ∧
    sourcePaths helped (Registry.standard default) withoutHelpers
      (sourcePaths helped (Registry.standard default) withoutHelpers [⟨["..", "w", "app"]⟩]) =
        [⟨["..", "w", "app", "user.py"]⟩] := by
  have isFolder : helped.folder? ⟨["..", "w", "app"]⟩ = some helpers := rfl
  have kept : ∀ part ∈ (Path.mk ["..", "w", "app"]).parts, part ∉ withoutHelpers.excluded := by
    simp only [← contains_eq_false_iff]
    decide +kernel
  have hfound : sourcePaths helped (Registry.standard default) withoutHelpers
      [⟨["..", "w", "app"]⟩] =
      [⟨["..", "w", "app", "conftest.py"]⟩, ⟨["..", "w", "app", "user.py"]⟩] := by
    decide +kernel
  obtain ⟨_, hagain⟩ := sourcePaths_by_name helped (Registry.standard default) withoutHelpers
    ⟨["..", "w", "app"]⟩ helpers helped_isProper isFolder kept
  refine ⟨helped_isProper, isFolder, kept, hagain.trans ?_⟩
  rw [hfound]
  decide +kernel

/-- A walk through the folder finds a source that is left out under its own path. -/
theorem sourcePaths_miss_by_name :
    helped.IsProper ∧ helped.folder? ⟨["app"]⟩ = some helpers ∧
    FileAt helpers ["conftest.py"] ∧
    isSource (Registry.standard default) ⟨["app", "conftest.py"]⟩ = true ∧
    "app" ∉ withoutHelpers.excluded ∧
    ¬ (⟨["app", "conftest.py"]⟩ ∈
        sourcePaths helped (Registry.standard default) withoutHelpers [⟨["app"]⟩] ↔
      ⟨["app", "conftest.py"]⟩ ∈
        sourcePaths helped (Registry.standard default) withoutHelpers
          [⟨["app", "conftest.py"]⟩]) := by
  have hfile : FileAt helpers ["conftest.py"] := .file (List.mem_cons_self ..)
  have hkept : "app" ∉ withoutHelpers.excluded := contains_eq_false_iff.1 (by decide +kernel)
  exact ⟨helped_isProper, rfl, hfile, by decide +kernel, hkept, by decide +kernel⟩

end Files

end FieldGrouping
