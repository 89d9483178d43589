import Sift.Keyed
import Sift.Text.Split

/-!
# Sift.Environment

The environment of a process: texts of the form `NAME=value`.  A variable is looked
up by the text in front of an equals sign, so that a name that itself holds an
equals sign reaches into a value.
-/

namespace Sift

/-- Variables with their values. -/
structure Environment where
  bindings : Keyed String

namespace Environment

def empty : Environment := ⟨[]⟩

def set (env : Environment) (name value : String) : Environment :=
  ⟨Keyed.put env.bindings name value⟩

def unset (env : Environment) (name : String) : Environment :=
  ⟨env.bindings.filter (·.1 ≠ name)⟩

def get? (env : Environment) (name : String) : Option String :=
  env.bindings.findSome? fun e =>
    (Text.afterStart (name.toList ++ ['=']) (e.1.toList ++ '=' :: e.2.toList)).map String.ofList

end Environment

end Sift
