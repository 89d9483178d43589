import Sift.Environment
import Sift.Text.Case

/-!
# Sift.Logging

What is logged and how, as the environment asks for it:

* `FILTRA_DEBUG` — `true`, `1` or `yes` turns debugging on;
* `FILTRA_LOG_LEVEL` — one of five levels, else `debug` while debugging and `warn`
  otherwise;
* `FILTRA_LOG_FORMAT` — `json`, `pretty` or `compact`, and `json` for anything else.

Names and levels are compared without regard to the case of ASCII letters.
-/

namespace Sift.Logging

/-- How log lines are laid out. -/
inductive Format where
  | json | pretty | compact
deriving DecidableEq, Repr

namespace Format

def name : Format → String
  | .json => "json"
  | .pretty => "pretty"
  | .compact => "compact"

/-- The format of a name; unknown names are JSON. -/
def ofName (s : String) : Format :=
  match Text.asciiLowercase s with
  | "pretty" => .pretty
  | "compact" => .compact
  | _ => .json

/-- A format is read back from its name. -/
theorem ofName_name (f : Format) : ofName f.name = f := by cases f <;> decide

end Format

/-! ## Variables -/

/-- The variable that turns debugging on. -/
def debugVariable : String := "FILTRA_DEBUG"

/-- The variable that asks for a level. -/
def levelVariable : String := "FILTRA_LOG_LEVEL"

/-- The variable that asks for a format. -/
def formatVariable : String := "FILTRA_LOG_FORMAT"

def levels : List String := ["trace", "debug", "info", "warn", "error"]

/-! ## Settings -/

/-- What decides about logging: the environment, and a switch for the tracing of
filters that is independent of it. -/
structure Settings where
  environment : Environment
  tracing : Bool

namespace Settings

/-- Whether debugging is on, by the switch or by the environment. -/
def debugging (s : Settings) : Bool :=
  s.tracing || (s.environment.get? debugVariable).any fun v =>
    ["true", "1", "yes"].contains (Text.asciiLowercase v)

/-- The level that the environment asks for, if it is one. -/
def explicitLevel? (s : Settings) : Option String :=
  (s.environment.get? levelVariable).bind fun v =>
    levels.find? (· = Text.asciiLowercase v)

def level (s : Settings) : String :=
  s.explicitLevel?.getD (if s.debugging then "debug" else "warn")

def format (s : Settings) : Format :=
  ((s.environment.get? formatVariable).map Format.ofName).getD .json

/-- Turn the switch. -/
def setTracing (s : Settings) (on : Bool) : Settings := { s with tracing := on }

def withLevel (s : Settings) (level : String) : Settings :=
  { s with environment := s.environment.set levelVariable level }

def withDebugging (s : Settings) : Settings :=
  { s with environment := s.environment.set debugVariable "true" }

end Settings

end Sift.Logging
