import AnomalyWatch.Files.Name

/-!
Directory trees: files with their bytes, and directories with their entries in the order of their names.

Paths are lists of names. A change that would need a file to be a directory, or a directory to be a file, has no
result.
-/

set_option autoImplicit false
set_option relaxedAutoImplicit false

namespace AnomalyWatch

/-- A file or a directory. -/
inductive FileTree where
  | file (content : ByteArray)
  | directory (entries : List (FileName × FileTree))

namespace FileTree

/-- A directory without entries. -/
def empty : FileTree := directory []

instance : Inhabited FileTree := ⟨empty⟩

/-- The names on the way that a path goes. -/
def namesOf (path : String) : List FileName :=
  ((path.splitOn "/").filter fun name => name ≠ "" && name ≠ ".").map FileName.ofText

/-- Put an entry in its place by name, in the place of one that has the name. -/
def place (name : FileName) (node : FileTree) :
    List (FileName × FileTree) → List (FileName × FileTree)
  | [] => [(name, node)]
  | e :: rest =>
    match compare name e.1 with
    | .lt => (name, node) :: e :: rest
    | .eq => (name, node) :: rest
    | .gt => e :: place name node rest

/-- What is at a path. -/
def get? : FileTree → List FileName → Option FileTree
  | t, [] => some t
  | file _, _ :: _ => none
  | directory entries, name :: path => (entries.lookup name).bind fun child => child.get? path

/-- Change what is at a path, where directories on the way are made as needed. The change is told what is
there. -/
def update? (change : Option FileTree → Option FileTree) :
    Option FileTree → List FileName → Option FileTree
  | t, [] => change t
  | some (file _), _ :: _ => none
  | some (directory entries), name :: path =>
    (update? change (entries.lookup name) path).map fun child => directory (place name child entries)
  | none, name :: path => (update? change none path).map fun child => directory [(name, child)]

/-- Write a file, in the place of one that is there. -/
def write? (t : FileTree) (path : List FileName) (content : ByteArray) : Option FileTree :=
  update? (fun
    | some (directory _) => none
    | _ => some (file content)) (some t) path

/-- Make sure that there is a directory. -/
def makeDirectory? (t : FileTree) (path : List FileName) : Option FileTree :=
  update? (fun
    | some (file _) => none
    | some (directory entries) => some (directory entries)
    | none => some empty) (some t) path

/-- Put a file or a directory in the place of whatever is there. -/
def replace? (t : FileTree) (path : List FileName) (node : FileTree) : Option FileTree :=
  update? (fun _ => some node) (some t) path

/-- Remove what is at a path, if there is something. -/
def remove : FileTree → List FileName → FileTree
  | t, [] => t
  | file content, _ :: _ => file content
  | directory entries, [name] => directory (entries.filter (·.1 ≠ name))
  | directory entries, name :: path =>
    match entries.lookup name with
    | some child => directory (place name (child.remove path) entries)
    | none => directory entries

/-- Write bytes behind those of a file, which is made if its directory is there. -/
def append? (t : FileTree) (path : List FileName) (bytes : ByteArray) : Option FileTree :=
  match t.get? path.dropLast with
  | some (directory _) =>
    update? (fun
      | some (directory _) => none
      | some (file content) => some (file (content ++ bytes))
      | none => some (file bytes)) (some t) path
  | _ => none

end FileTree

end AnomalyWatch
