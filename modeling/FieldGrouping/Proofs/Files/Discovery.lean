import FieldGrouping.Files.Discovery
import Mathlib.Data.List.Sort

/-!
Which files some paths stand for, told from the tree and not from the walk through it. A folder
stands for the files below it to which no excluded folder leads; a path that is no folder stands
for itself. The files come in increasing order, so that only the set of the given paths counts.
-/

set_option autoImplicit false

namespace FieldGrouping

/-- What some names lead to from a path. -/
def Path.below (path : Path) (names : List String) : Path :=
  ⟨path.parts ++ names⟩

theorem Path.below_child (path : Path) (name : String) (names : List String) :
    (path.child name).below names = path.below (name :: names) := by
  simp [below, child]

instance : Trans (fun a b : Path => a < b) (fun a b : Path => a < b) (fun a b : Path => a < b) where
  trans {a b c} hab hbc := by
    have hparts : a.parts < c.parts := List.lt_trans hab hbc
    exact hparts

instance : Std.Trichotomous (fun a b : Path => a < b) where
  trichotomous a b hab hba := by
    have hparts : a.parts = b.parts := List.le_antisymm hba hab
    cases a
    cases b
    exact congrArg Path.mk hparts

instance : Std.Asymm (fun a b : Path => a < b) where
  asymm a b hab hba := by
    have hparts : a.parts < b.parts := hab
    exact List.lt_asymm hparts hba

namespace Files

open Source (Registry Reader)

/-- Some names lead down from a folder to a file. -/
@[mk_iff]
inductive FileAt : List Entry → List String → Prop
  | file {items : List Entry} {name : String} {bytes : List UInt8}
    (here : .file name bytes ∈ items) : FileAt items [name]
  | folder {items inner : List Entry} {name : String} {names : List String}
    (here : .folder name inner ∈ items) (below : FileAt inner names) : FileAt items (name :: names)

section Walk

theorem FileAt.ne_nil {items : List Entry} {names : List String} (h : FileAt items names) :
    names ≠ [] := by
  cases h <;> simp

theorem not_fileAt_nil {names : List String} : ¬ FileAt [] names := by
  rw [fileAt_iff]
  simp

theorem fileAt_cons_file {name : String} {bytes : List UInt8} {rest : List Entry}
    {names : List String} :
    FileAt (.file name bytes :: rest) names ↔ names = [name] ∨ FileAt rest names := by
  rw [fileAt_iff, fileAt_iff rest]
  grind

theorem fileAt_cons_folder {name : String} {inner rest : List Entry} {names : List String} :
    FileAt (.folder name inner :: rest) names ↔
      (∃ below, FileAt inner below ∧ names = name :: below) ∨ FileAt rest names := by
  rw [fileAt_iff, fileAt_iff rest]
  grind

/-- Some names pass through no excluded folder. The last one is the name of a file. -/
def PassesBy (excluded : String → Bool) (names : List String) : Prop :=
  ∀ name ∈ names.dropLast, excluded name = false

theorem passesBy_cons {excluded : String → Bool} {name : String} {names : List String}
    (ne : names ≠ []) :
    PassesBy excluded (name :: names) ↔ excluded name = false ∧ PassesBy excluded names := by
  simp [PassesBy, List.dropLast_cons_of_ne_nil ne]

theorem mem_filesBelow {excluded : String → Bool} (items : List Entry) (path found : Path) :
    found ∈ filesBelow excluded path items ↔
      ∃ names, FileAt items names ∧ PassesBy excluded names ∧ found = path.below names := by
  match items with
  | [] => simp [filesBelow, not_fileAt_nil]
  | .file name bytes :: rest =>
    simp only [filesBelow, Entry.files, List.singleton_append, List.mem_cons, mem_filesBelow rest,
      fileAt_cons_file, or_and_right, exists_or, exists_eq_left]
    simp [PassesBy, Path.below, Path.child]
  | .folder name inner :: rest =>
    simp only [filesBelow, Entry.files, List.mem_append, mem_filesBelow rest, fileAt_cons_folder,
      or_and_right, exists_or]
    refine or_congr ?_ Iff.rfl
    constructor
    · intro h
      cases hx : excluded name with
      | true => simp [hx] at h
      | false =>
        simp only [hx, Bool.false_eq_true, if_false] at h
        obtain ⟨names, hf, hp, rfl⟩ := (mem_filesBelow inner (path.child name) found).1 h
        exact ⟨name :: names, ⟨names, hf, rfl⟩, (passesBy_cons hf.ne_nil).2 ⟨hx, hp⟩,
          Path.below_child path name names⟩
    · rintro ⟨_, ⟨names, hf, rfl⟩, hp, rfl⟩
      obtain ⟨hx, hp⟩ := (passesBy_cons hf.ne_nil).1 hp
      simp only [hx, Bool.false_eq_true, if_false]
      exact (mem_filesBelow inner (path.child name) _).2
        ⟨names, hf, hp, (Path.below_child path name names).symm⟩

end Walk

/-! ### The sources of a list of paths -/

/-- What a path that is given stands for: a folder for the files of a registered extension below
it that no excluded folder leads to, any other path for itself. -/
inductive StandsFor (workspace : Workspace) (registry : Registry Reader) (settings : Settings)
    (given : Path) : Path → Prop
  | below {items : List Entry} {names : List String} (folder : workspace.folder? given = some items)
    (file : FileAt items names) (kept : ∀ name ∈ names.dropLast, name ∉ settings.excluded)
    (known : Text.lower (given.below names).suffix ∈ registry.knownExtensions) :
    StandsFor workspace registry settings given (given.below names)
  | itself (other : workspace.folder? given = none)
    (kept : ∀ part ∈ given.parts, part ∉ settings.excluded) :
    StandsFor workspace registry settings given given

section Sources

variable {workspace : Workspace} {registry : Registry Reader} {settings : Settings}

theorem isSource_iff {path : Path} :
    isSource registry path = true ↔ Text.lower path.suffix ∈ registry.knownExtensions := by
  simp only [isSource, Registry.forExtension?, Registry.knownExtensions, mem_distinctSorted,
    List.lookup_isSome_iff, List.mem_map, beq_iff_eq]
  exact exists_congr fun entry => and_congr_right fun _ => eq_comm

theorem contains_eq_false_iff {set : NameSet} {name : String} :
    set.contains name = false ↔ name ∉ set := by
  rw [← NameSet.contains_iff, Bool.not_eq_true]

theorem ignores_eq_false_iff {path : Path} :
    settings.ignores path = false ↔ ∀ part ∈ path.parts, part ∉ settings.excluded := by
  simp [Settings.ignores]

theorem mem_expand {given path : Path} :
    path ∈ expand workspace registry settings given ↔
      StandsFor workspace registry settings given path := by
  unfold expand
  cases hf : workspace.folder? given with
  | none =>
    constructor
    · intro h
      cases hi : settings.ignores given with
      | true => simp [hi] at h
      | false =>
        obtain rfl : path = given := by simpa [hi] using h
        exact .itself hf (ignores_eq_false_iff.1 hi)
    · intro h
      cases h with
      | below folder file kept known => simp [hf] at folder
      | itself other kept => simp [ignores_eq_false_iff.2 kept]
  | some items =>
    simp only [List.mem_filter, mem_filesBelow, isSource_iff]
    constructor
    · rintro ⟨⟨names, hfile, hp, rfl⟩, hk⟩
      exact .below hf hfile (fun name hn => contains_eq_false_iff.1 (hp name hn)) hk
    · intro h
      cases h with
      | below folder file kept known =>
        cases hf.symm.trans folder
        exact ⟨⟨_, file, fun name hn => contains_eq_false_iff.2 (kept name hn), rfl⟩, known⟩
      | itself other kept => simp [hf] at other

theorem mem_sourcePaths {given : List Path} {path : Path} :
    path ∈ sourcePaths workspace registry settings given ↔
      ∃ input ∈ given, StandsFor workspace registry settings input path := by
  simp only [sourcePaths, mem_distinctSorted, List.mem_flatMap, mem_expand]

theorem discover_eq_ok_iff {given found : List Path} :
    discover workspace registry settings given = .ok found ↔
      (∀ input ∈ given, workspace.refuses input = false) ∧
        found = sourcePaths workspace registry settings given := by
  unfold discover
  cases h : given.find? workspace.refuses with
  | none =>
    have followed : ∀ input ∈ given, workspace.refuses input = false := by
      simpa using List.find?_eq_none.1 h
    simp only [Except.ok.injEq]
    exact ⟨fun heq => ⟨followed, heq.symm⟩, fun heq => heq.2.symm⟩
  | some path =>
    simp only [reduceCtorEq, false_iff, not_and]
    intro followed
    have hrefused := List.find?_some h
    rw [followed path (List.mem_of_find?_eq_some h)] at hrefused
    cases hrefused

theorem pairwise_sourcePaths (given : List Path) :
    (sourcePaths workspace registry settings given).Pairwise (· < ·) :=
  pairwise_distinctSorted _

/-- An increasing list is known by its elements. -/
theorem eq_sourcePaths {given paths : List Path} (increasing : paths.Pairwise (· < ·))
    (mem : ∀ path, path ∈ paths ↔
      ∃ input ∈ given, StandsFor workspace registry settings input path) :
    paths = sourcePaths workspace registry settings given :=
  increasing.eq_of_mem_iff (pairwise_sourcePaths given) fun path =>
    (mem path).trans mem_sourcePaths.symm

end Sources

/-- The files that some paths stand for are found unless a path is refused. They come in increasing
order, and are all the files that one of the paths stands for. So neither the order nor the number
of times a path is given counts, and two lists of paths together stand for what they stand for by
themselves. -/
theorem sourcePaths_exact (workspace : Workspace) (registry : Registry Reader)
    (settings : Settings) (given : List Path) :
    (discover workspace registry settings given =
        .ok (sourcePaths workspace registry settings given) ↔
      ∀ input ∈ given, workspace.refuses input = false) ∧
    (sourcePaths workspace registry settings given).Pairwise (· < ·) ∧
    (∀ path, path ∈ sourcePaths workspace registry settings given ↔
      ∃ input ∈ given, StandsFor workspace registry settings input path) ∧
    (∀ others, (∀ input, input ∈ others ↔ input ∈ given) →
      sourcePaths workspace registry settings others =
        sourcePaths workspace registry settings given) ∧
    ∀ more,
      sourcePaths workspace registry settings (given ++ more) =
        distinctSorted (sourcePaths workspace registry settings given ++
          sourcePaths workspace registry settings more) := by
  refine ⟨by simp [discover_eq_ok_iff], pairwise_sourcePaths given, fun path => mem_sourcePaths,
    fun others same => ?_, fun more => ?_⟩
  · refine eq_sourcePaths (pairwise_sourcePaths others) fun path => ?_
    simp only [mem_sourcePaths, same]
  · refine (eq_sourcePaths (pairwise_distinctSorted _) fun path => ?_).symm
    simp only [mem_distinctSorted, List.mem_append, mem_sourcePaths, or_and_right, exists_or]

/-- Files in excluded folders and without, one of them with its extension in capitals, and a folder
beside the one that paths start from. -/
def mixed : Workspace where
  root :=
    [.folder "w" [.file "b.PY" [], .file "notes.txt" [], .folder "build" [.file "x.py" []]],
     .folder "app" [.file "u.pyi" [], .folder "build" [.file "v.py" []]]]
  directory := ["w"]

theorem sourcePaths_exact_repeated :
    (∀ input : Path, input ∈ [⟨["..", "app"]⟩, ⟨[]⟩, ⟨["..", "app"]⟩] ↔
      input ∈ [⟨[]⟩, ⟨["..", "app"]⟩]) ∧
    sourcePaths mixed (Registry.standard default) Settings.default
      [⟨["..", "app"]⟩, ⟨[]⟩, ⟨["..", "app"]⟩] = [⟨["..", "app", "u.pyi"]⟩, ⟨["b.PY"]⟩] ∧
    discover mixed (Registry.standard default) Settings.default [⟨[]⟩, ⟨["..", "app"]⟩] =
      .ok [⟨["..", "app", "u.pyi"]⟩, ⟨["b.PY"]⟩] ∧
    StandsFor mixed (Registry.standard default) Settings.default ⟨["//", "..", "w"]⟩
      ⟨["//", "..", "w", "b.PY"]⟩ := by
  have same (input : Path) : input ∈ [⟨["..", "app"]⟩, ⟨[]⟩, ⟨["..", "app"]⟩] ↔
      input ∈ [⟨[]⟩, ⟨["..", "app"]⟩] := by
    simp only [List.mem_cons, List.not_mem_nil]
    tauto
  have hrun : sourcePaths mixed (Registry.standard default) Settings.default
      [⟨[]⟩, ⟨["..", "app"]⟩] = [⟨["..", "app", "u.pyi"]⟩, ⟨["b.PY"]⟩] := by
    decide +kernel
  have hfollowed : ∀ input ∈ [⟨[]⟩, ⟨["..", "app"]⟩], mixed.refuses input = false := by
    decide +kernel
  have hsingle : ⟨["//", "..", "w", "b.PY"]⟩ ∈
      sourcePaths mixed (Registry.standard default) Settings.default [⟨["//", "..", "w"]⟩] := by
    decide +kernel
  obtain ⟨hdiscover, _, _, hsame, _⟩ :=
    sourcePaths_exact mixed (Registry.standard default) Settings.default [⟨[]⟩, ⟨["..", "app"]⟩]
  obtain ⟨_, _, hmem, _⟩ :=
    sourcePaths_exact mixed (Registry.standard default) Settings.default [⟨["//", "..", "w"]⟩]
  refine ⟨same, (hsame _ same).trans hrun, ?_, ?_⟩
  · rw [hdiscover.2 hfollowed, hrun]
  · simpa using (hmem _).1 hsingle

end Files

end FieldGrouping
