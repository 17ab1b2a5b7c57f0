import AnomalyWatch.Collection.Sorted

/-!
Environment variables.
-/

set_option autoImplicit false
set_option relaxedAutoImplicit false

namespace AnomalyWatch

/-- The variables of a process by name. -/
abbrev Environment : Type := SortedMap String String

namespace Environment

/-- The value of a variable; an empty one counts as none. -/
def nonEmpty? (e : Environment) (name : String) : Option String :=
  (e.get? name).filter fun v => !v.isEmpty

/-- The value of a variable of a profile: the one with the profile in front of its name if there is one, otherwise the
one without. -/
def setting? (e : Environment) (profile name : String) : Option String :=
  if profile.isEmpty then e.nonEmpty? name
  else e.nonEmpty? (profile ++ "_" ++ name) <|> e.nonEmpty? name

/-- Define a variable that is not defined yet. -/
def define (e : Environment) (name value : String) : Environment :=
  if e.contains name then e else e.insert name value

end Environment

end AnomalyWatch
