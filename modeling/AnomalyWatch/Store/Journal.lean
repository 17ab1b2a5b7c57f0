import AnomalyWatch.Document.AnomalyRecord
import AnomalyWatch.Document.JsonFormat
import AnomalyWatch.Store.Basic

/-!
The journal of a result store: a text file with one committed row on a line.

Opening a store replays the journal; a commit appends its rows at the end. Blank lines do not count. A line that
cannot be read makes the whole journal unreadable, and the error tells which line it was.
-/

set_option autoImplicit false
set_option relaxedAutoImplicit false

namespace AnomalyWatch.Journal

/-- The line of a row, with its line feed. -/
def line (a : Anomaly) : List Char :=
  a.toJson.chars ++ ['\n']

def encode (rows : List Anomaly) : List Char :=
  rows.flatMap line

/-- The bytes of rows. -/
def bytes (rows : List Anomaly) : ByteArray :=
  (String.ofList (encode rows)).toUTF8

/-- A line without the carriage return at its end. -/
def withoutReturn (cs : List Char) : List Char :=
  if cs.getLast? == some '\r' then cs.dropLast else cs

/-- The lines of a text; one that ends the text without a line feed keeps its carriage return. -/
def lines (cs : List Char) : List (List Char) :=
  let pieces := Text.pieces (· == '\n') cs
  let last := pieces.getLastD []
  pieces.dropLast.map withoutReturn ++ if last.isEmpty then [] else [last]

def row? (cs : List Char) : Option Anomaly :=
  (Json.parse? (String.ofList cs)).bind Anomaly.ofJson?

/-- The rows on lines that are numbered from `number` on. -/
def rowsFrom (path : String) (number : Nat) : List (List Char) → Except Error (List Anomaly)
  | [] => .ok []
  | cs :: rest =>
    if cs.all Text.isBlank then rowsFrom path (number + 1) rest
    else
      match row? cs with
      | none => .error (.malformedRow path number "not a stored anomaly")
      | some a => (rowsFrom path (number + 1) rest).map (a :: ·)

def rows (path : String) (cs : List Char) : Except Error (List Anomaly) :=
  rowsFrom path 1 (lines cs)

def replay (path : String) (content : ByteArray) : Except Error Ledger :=
  match String.fromUTF8? content with
  | none => .error (.inputOutput "stream did not contain valid UTF-8")
  | some text => (rows path text.toList).map Ledger.ofRows

end AnomalyWatch.Journal
