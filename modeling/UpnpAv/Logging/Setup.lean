import UpnpAv.Logging.Filter

/-!
# Setting up logging

A process chooses once how its log lines are shown.  The filter comes from the
environment, or else from the chosen mode.
-/

namespace UpnpAv
namespace Logging

/-- How log lines are shown. -/
inductive Mode where
  /-- They are not shown. -/
  | silent
  | development
  | debug
deriving Repr, DecidableEq

/-- The variables of the environment that count. -/
structure Environment where
  /-- The name of the mode. -/
  mode : Option String
  /-- The filter. -/
  filter : Option String
  /-- The filter when there is no other. -/
  fallback : Option String
deriving Repr, DecidableEq

/-- The mode that a name stands for. -/
def Mode.ofName : Option String -> Mode
  | some "development" => development
  | some "debug" => debug
  | _ => silent

/-- The filter that the environment asks for, or a default. -/
def Environment.filterOr (environment : Environment) (default : String) : Filter :=
  .parse ((environment.filter.or environment.fallback).getD default)

/-- The filter of a mode; none when nothing is shown. -/
def Mode.filter (environment : Environment) : Mode -> Option Filter
  | silent => none
  | development => some (environment.filterOr "info")
  | debug => some (environment.filterOr "debug")

/-- What a process shows of its log lines; none before that is chosen. -/
abbrev Installed :=
  Option Filter

/-- Why logging cannot be set up. -/
inductive Error where
  | alreadyInstalled
deriving Repr, DecidableEq

/-- The text about a failure. -/
def Error.message : Error -> String
  | .alreadyInstalled =>
      "Failed to initialize tracing subscriber: a global default trace dispatcher has " ++
        "already been set"

/-- Set up a mode.  Silence leaves everything as it is; otherwise the first choice stays. -/
def install (environment : Environment) (mode : Mode) (installed : Installed) :
    Except Error Unit × Installed :=
  match mode.filter environment, installed with
  | none, installed => (.ok (), installed)
  | some _, some filter => (.error .alreadyInstalled, some filter)
  | some filter, none => (.ok (), some filter)

/-- Set up several modes in order.  Answers the result of each. -/
def installAll (environment : Environment) (installed : Installed) :
    List Mode -> List (Except Error Unit) × Installed
  | [] => ([], installed)
  | mode :: modes =>
      let (result, next) := install environment mode installed
      let (results, final) := installAll environment next modes
      (result :: results, final)

/-- What is shown of the lines of a target. -/
def shown (installed : Installed) (target : String) : Threshold :=
  installed.bind fun filter => filter.threshold target

end Logging
end UpnpAv
