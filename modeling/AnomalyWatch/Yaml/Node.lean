import AnomalyWatch.Yaml.Token

/-!
The value of a YAML document.

Every anchor has a number, and an alias stands for the node whose anchor had its number last. Missing keys and
values are empty plain scalars.
-/

set_option autoImplicit false
set_option relaxedAutoImplicit false

namespace AnomalyWatch.Yaml

/-- A node. -/
inductive Node where
  | scalar (style : Style) (tag : Option String) (text : String)
  | sequence (tag : Option String) (items : List Node)
  | mapping (tag : Option String) (entries : List (Node × Node))
  | alias (number : Nat)
  deriving Inhabited

/-- A node that is not written. -/
def Node.missing : Node := .scalar .plain none ""

/-- A document: its node, and what the numbers of anchors stand for. -/
structure Document where
  root : Node
  anchored : List (Nat × Node)

namespace Node

/-- What has been read of a document. -/
structure Reader where
  tokens : List Token
  /-- The anchors seen so far, the latest first. -/
  anchors : List (String × Nat)
  anchored : List (Nat × Node)
  /-- What the handles of tags stand for. -/
  handles : List (String × String)

abbrev Read (α : Type) : Type := StateT Reader Option α

def peek : Read (Option Token) := do
  return (← get).tokens.head?

def skip : Read Unit :=
  modify fun r => { r with tokens := r.tokens.drop 1 }

/-- Step over a token if it comes next. -/
def accept (t : Token) : Read Bool := do
  if (← peek) = some t then
    skip
    return true
  else return false

/-- Step over a token that has to come next. -/
def expect (t : Token) : Read Unit := do
  if !(← accept t) then failure

/-- The number of a new anchor: how many different names were used before. -/
def numberAnchor (name : String) : Read Nat :=
  modifyGet fun r =>
    let number := r.anchors.length
    (number, { r with anchors := (name, number) :: r.anchors.filter (·.1 ≠ name) })

def resolveTag (handle rest : String) : Read String := do
  if handle.isEmpty then return rest
  else
    match (← get).handles.lookup handle with
    | some replaced => return replaced ++ rest
    | none => failure

/-- What stands in front of a node. -/
structure Properties where
  anchor : Option Nat
  tag : Option String

/-- An anchor, if one comes next. -/
def anchor? : Read (Option Nat) := do
  match ← peek with
  | some (.anchor name) =>
    skip
    return some (← numberAnchor name)
  | _ => return none

/-- A tag, if one comes next. -/
def tag? : Read (Option String) := do
  match ← peek with
  | some (.tag handle rest) =>
    skip
    return some (← resolveTag handle rest)
  | _ => return none

/-- At most one anchor and at most one tag, in either order. -/
def properties : Read Properties := do
  let anchor ← anchor?
  let tag ← tag?
  match anchor with
  | some n => return ⟨some n, tag⟩
  | none => return ⟨← anchor?, tag⟩

/-- The next token is one of these, or there is none. -/
def comesOneOf (ts : List Token) : Read Bool := do
  match ← peek with
  | none => return true
  | some t => return t ∈ ts

mutual

/-- A node; blocks are allowed where `block` says so, and dashes in the column of a key where `dashes` does. -/
def node (fuel : Nat) (block dashes : Bool) : Read Node :=
  match fuel with
  | 0 => failure
  | fuel + 1 => do
    match ← peek with
    | some (.alias name) =>
      skip
      match (← get).anchors.lookup name with
      | some number => return .alias number
      | none => failure
    | _ =>
      let p ← properties
      let n ← content fuel block dashes p
      match p.anchor with
      | some number => modify fun r => { r with anchored := (number, n) :: r.anchored }
      | none => pure ()
      return n

def content (fuel : Nat) (block dashes : Bool) (p : Properties) : Read Node :=
  match fuel with
  | 0 => failure
  | fuel + 1 => do
    match ← peek with
    | some .blockEntry =>
      if dashes then return .sequence p.tag (← dashItems fuel)
      else if p.anchor.isSome || p.tag.isSome then return .scalar .plain p.tag ""
      else failure
    | some (.scalar style text) =>
      skip
      return .scalar style p.tag text
    | some .flowSequence =>
      skip
      return .sequence p.tag (← flowItems fuel true)
    | some .flowMapping =>
      skip
      return .mapping p.tag (← flowEntries fuel true)
    | t =>
      if block && t = some .blockSequence then
        skip
        return .sequence p.tag (← blockItems fuel)
      else if block && t = some .blockMapping then
        skip
        return .mapping p.tag (← blockEntries fuel)
      else if p.anchor.isSome || p.tag.isSome then return .scalar .plain p.tag ""
      else failure

/-- A node in a block, or none where one of these tokens follows. -/
def blockNode (fuel : Nat) (dashes : Bool) (stops : List Token) : Read Node :=
  match fuel with
  | 0 => failure
  | fuel + 1 => do
    if (← peek).any (· ∈ stops) then return missing else node fuel true dashes

/-- A node inside brackets, or none where one of these tokens follows. -/
def flowNode (fuel : Nat) (stops : List Token) : Read Node :=
  match fuel with
  | 0 => failure
  | fuel + 1 => do
    if (← peek).any (· ∈ stops) then return missing else node fuel false false

/-- Items with dashes up to the end of their block. -/
def blockItems (fuel : Nat) : Read (List Node) :=
  match fuel with
  | 0 => failure
  | fuel + 1 => do
    if ← accept .blockEntry then
      let n ← blockNode fuel false [.blockEntry, .blockEnd]
      return n :: (← blockItems fuel)
    else
      expect .blockEnd
      return []

def dashItems (fuel : Nat) : Read (List Node) :=
  match fuel with
  | 0 => failure
  | fuel + 1 => do
    if ← accept .blockEntry then
      let n ← blockNode fuel false [.blockEntry, .key, .value, .blockEnd]
      return n :: (← dashItems fuel)
    else return []

/-- Keys and values up to the end of their block. -/
def blockEntries (fuel : Nat) : Read (List (Node × Node)) :=
  match fuel with
  | 0 => failure
  | fuel + 1 => do
    if ← accept .key then
      let stops := [Token.key, .value, .blockEnd]
      let k ← blockNode fuel true stops
      let v ← if ← accept .value then blockNode fuel true stops else pure missing
      return (k, v) :: (← blockEntries fuel)
    else
      expect .blockEnd
      return []

/-- Items up to the closing bracket; a comma stands before each but the first. -/
def flowItems (fuel : Nat) (first : Bool) : Read (List Node) :=
  match fuel with
  | 0 => failure
  | fuel + 1 => do
    if ← accept .flowSequenceEnd then return []
    else
      if !first then expect .flowEntry
      if ← accept .flowSequenceEnd then return []
      else if ← accept .key then
        let stops := [Token.value, .flowEntry, .flowSequenceEnd]
        let k ← flowNode fuel stops
        let v ← if ← accept .value then flowNode fuel [.flowEntry, .flowSequenceEnd]
          else pure missing
        return .mapping none [(k, v)] :: (← flowItems fuel false)
      else
        let n ← node fuel false false
        return n :: (← flowItems fuel false)

/-- Keys and values up to the closing brace; a comma stands before each but the first. -/
def flowEntries (fuel : Nat) (first : Bool) : Read (List (Node × Node)) :=
  match fuel with
  | 0 => failure
  | fuel + 1 => do
    if ← accept .flowMappingEnd then return []
    else
      if !first then expect .flowEntry
      if ← accept .flowMappingEnd then return []
      else if ← accept .key then
        let k ← flowNode fuel [.value, .flowEntry, .flowMappingEnd]
        let v ← if ← accept .value then flowNode fuel [.flowEntry, .flowMappingEnd]
          else pure missing
        return (k, v) :: (← flowEntries fuel false)
      else
        let k ← node fuel false false
        return (k, missing) :: (← flowEntries fuel false)

end

def directives : Nat → Bool → Read Bool
  | 0, _ => failure
  | fuel + 1, seen => do
    match ← peek with
    | some (.version major minor) =>
      if major = 1 && (minor = 1 || minor = 2) then
        skip
        directives fuel true
      else failure
    | some (.tagDirective handle replaced) =>
      skip
      modify fun r => { r with handles := (handle, replaced) :: r.handles }
      directives fuel true
    | _ => return seen

def documentEnds : Nat → Read Unit
  | 0 => pure ()
  | fuel + 1 => do
    if ← accept .documentEnd then documentEnds fuel

def document (fuel : Nat) : Read Node := do
  let announced ← directives fuel false
  let started ← accept .documentStart
  if announced && !started then failure
  let n ←
    if started && (← comesOneOf [.documentStart, .documentEnd]) then pure missing
    else node fuel true false
  documentEnds fuel
  if (← peek).isSome then failure
  return n

end Node

/-- The document in a text; a text without a document or with several has none. -/
def Document.parse? (text : String) : Option Document := do
  let ts ← tokens? text
  let handles := [("!", "!"), ("!!", "tag:yaml.org,2002:")]
  let (root, r) ← (Node.document (8 * ts.length + 8)).run ⟨ts, [], [], handles⟩
  return ⟨root, r.anchored⟩

end AnomalyWatch.Yaml
