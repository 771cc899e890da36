import FieldGrouping.Config.Settings
import FieldGrouping.Files.Workspace
import FieldGrouping.Source.Registry

/-!
Which files a run looks at. A folder stands for the files below it that there is a reader for,
without the excluded folders; any other path stands for itself, unless a part of it is excluded.
-/

set_option autoImplicit false

namespace FieldGrouping.Files

open Source (Registry Reader)

def isSource (registry : Registry Reader) (path : Path) : Bool :=
  (registry.forExtension? path.suffix).isSome

def expand (workspace : Workspace) (registry : Registry Reader) (settings : Settings)
    (path : Path) : List Path :=
  match workspace.folder? path with
  | some items => (filesBelow settings.excluded.contains path items).filter (isSource registry)
  | none => if settings.ignores path then [] else [path]

def sourcePaths (workspace : Workspace) (registry : Registry Reader) (settings : Settings)
    (paths : List Path) : List Path :=
  distinctSorted (paths.flatMap (expand workspace registry settings))

structure PathTooLong where
  path : Path
  deriving DecidableEq, Repr

/-- Finds the files that some paths stand for, up to the first path that is refused. -/
def discover (workspace : Workspace) (registry : Registry Reader) (settings : Settings)
    (paths : List Path) : Except PathTooLong (List Path) :=
  match paths.find? workspace.refuses with
  | some path => .error ⟨path⟩
  | none => .ok (sourcePaths workspace registry settings paths)

end FieldGrouping.Files
