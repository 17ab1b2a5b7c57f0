import AnomalyWatch.Document.SpecRecord
import AnomalyWatch.Document.YamlFormat
import AnomalyWatch.Error
import AnomalyWatch.Files.Tree

/-!
Specs in a directory tree, one YAML file each.

Files are visited in the order of their names, a directory in the place of its name. Hidden directories are passed
over and so are files that are hidden or have no YAML ending. Of several files with one id the first counts;
a file that cannot be read does not stand in the way of others.
-/

set_option autoImplicit false
set_option relaxedAutoImplicit false

namespace AnomalyWatch

/-- Why a spec file is not used. -/
inductive LoadFailure
  | duplicate (id : Nat)
  | broken (cause : Error)

def LoadFailure.message : LoadFailure → String
  | duplicate id => "duplicate function id " ++ toString id
  | broken cause => cause.message

/-- What becomes of a file. -/
inductive LoadStatus
  | loaded (id : Nat)
  | skipped (reason : String)
  | failed (failure : LoadFailure)

/-- A file by the names on the way from the root, and what became of it. -/
structure Load where
  path : List FileName
  status : LoadStatus

namespace SpecDirectory

/-- Why a file is passed over, by its name. -/
def skipReason? (name : FileName) : Option String :=
  if name.isHidden then some "dotfile"
  else
    match name.ending? with
    | some "yml" | some "yaml" => none
    | _ => some "not a YAML file"

/-- The spec in the bytes of a file. -/
def readSpec (path : String) (content : ByteArray) : Except Error Spec :=
  match String.fromUTF8? content with
  | none => .error (.inputOutput "stream did not contain valid UTF-8")
  | some text =>
    match (Yaml.Document.parse? text).bind fun d => Spec.ofDocument? d.format d.root with
    | none => .error (.malformedSpec path "not a function spec")
    | some spec =>
      if Text.allBlank spec.collection then .error (.noCollection spec.id) else .ok spec

/-- A file that was found, by the names on the way from the root. -/
structure Found where
  names : List FileName
  content : ByteArray

/-- The name of the file in its directory. -/
def Found.name (f : Found) : FileName :=
  f.names.getLastD ⟨[]⟩

/-- A file below a directory, as it is found from where the directory is. -/
def Found.under (directory : FileName) (f : Found) : Found :=
  { f with names := directory :: f.names }

/-- What each entry of a directory holds, in the order of the names. -/
def inOrder (found : List (FileName × List Found)) : List Found :=
  (found.mergeSort fun a b => a.1 ≤ b.1).flatMap Prod.snd

mutual

/-- The files at an entry of a directory; a hidden directory is not entered. -/
def filesAt (name : FileName) : FileTree → List Found
  | .file content => [⟨[name], content⟩]
  | .directory entries =>
    if name.isHidden then [] else (inOrder (filesOf entries)).map (Found.under name)

/-- The files at each entry of a directory. -/
def filesOf : List (FileName × FileTree) → List (FileName × List Found)
  | [] => []
  | (name, node) :: rest => (name, filesAt name node) :: filesOf rest

end

/-- The files of a directory; what is no directory has none. -/
def files : Option FileTree → List Found
  | some (.directory entries) => inOrder (filesOf entries)
  | _ => []

/-- What has been loaded so far. -/
structure Loads where
  specs : SortedMap Nat Spec
  loads : List Load

def loadFile (so : Loads) (f : Found) : Loads :=
  let report (status : LoadStatus) : Loads := { so with loads := so.loads ++ [⟨f.names, status⟩] }
  match skipReason? f.name with
  | some reason => report (.skipped reason)
  | none =>
    match readSpec (FileName.pathText f.names) f.content with
    | .error cause => report (.failed (.broken cause))
    | .ok spec =>
      if so.specs.contains spec.id then report (.failed (.duplicate spec.id))
      else
        { specs := so.specs.insert spec.id spec
          loads := so.loads ++ [⟨f.names, .loaded spec.id⟩] }

/-- Load every spec of a directory. -/
def load (root : Option FileTree) : Loads :=
  (files root).foldl loadFile ⟨∅, []⟩

/-- Load every spec of a directory in the place of the specs that a store has. -/
def loadAll (root : Option FileTree) : StateM (SortedMap Nat Spec) (List Load) := do
  let loaded := load root
  set loaded.specs
  return loaded.loads

/-- A summary of a load: the files that were passed over and those that failed, and how many specs and files
there are. -/
structure Report where
  skipped : List (String × String)
  failed : List (String × LoadFailure)
  loaded : Nat
  total : Nat

def report (loads : List Load) : Report where
  skipped := loads.filterMap fun
    | ⟨path, .skipped reason⟩ => some (FileName.pathText path, reason)
    | _ => none
  failed := loads.filterMap fun
    | ⟨path, .failed failure⟩ => some (FileName.pathText path, failure)
    | _ => none
  loaded := (loads.filter fun
    | ⟨_, .loaded _⟩ => true
    | _ => false).length
  total := loads.length

end SpecDirectory

end AnomalyWatch
