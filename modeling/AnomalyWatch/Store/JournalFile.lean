import AnomalyWatch.Files.Tree
import AnomalyWatch.Store.Journal

/-!
A journal in a directory tree.
-/

set_option autoImplicit false
set_option relaxedAutoImplicit false

namespace AnomalyWatch.Journal

/-- Open the journal at a path: its directory is made, and a file that is there is replayed. -/
def openAt (path : String) (tree : FileTree) : Except Error Ledger × FileTree :=
  let names := FileTree.namesOf path
  match tree.makeDirectory? names.dropLast with
  | none => (.error (.inputOutput "not a directory"), tree)
  | some tree =>
    match tree.get? names with
    | none => (.ok .empty, tree)
    | some (.directory _) => (.error (.inputOutput "is a directory"), tree)
    | some (.file content) => (replay path content, tree)

/-- Append rows to the journal at a path; no rows leave it alone. -/
def appendAt (path : String) (rows : List Anomaly) (tree : FileTree) : Except Error Unit × FileTree :=
  if rows.isEmpty then (.ok (), tree)
  else
    match tree.append? (FileTree.namesOf path) (bytes rows) with
    | some tree => (.ok (), tree)
    | none => (.error (.inputOutput "cannot open the journal"), tree)

end AnomalyWatch.Journal
