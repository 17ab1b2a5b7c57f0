import AnomalyWatch.Text.Uppercase

/-!
Lower-casing by the partners of `upperChar`, one character at a time.
-/

set_option autoImplicit false
set_option relaxedAutoImplicit false

namespace AnomalyWatch.Text

def CaseRun.reaches (r : CaseRun) (n : Nat) : Bool :=
  r.covers ((n : Int) - r.shift).toNat

/-- The lower case of one character. Where several characters share an upper case, the one in the longer run of
letters is meant. -/
def lowerChar (c : Char) : Char :=
  let n := c.toNat
  if n < 0x80 then c.toLower
  else
    match caseRuns.find? (fun r => r.first < r.last && r.reaches n) <|> caseRuns.find? (·.reaches n) with
    | some r => Char.ofNat ((n : Int) - r.shift).toNat
    | none => c

end AnomalyWatch.Text
