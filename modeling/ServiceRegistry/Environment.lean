import ServiceRegistry.Dict
import ServiceRegistry.Text.Split

/-!
# Environment variables

An environment is a set of lines `NAME=VALUE`. A name is looked up as the start of a line before an
equals sign, so a name that holds an equals sign itself can still be found inside a value.
-/

namespace ServiceRegistry

/-- Variables and their values; no name holds an equals sign. -/
abbrev Environment := Dict String String

namespace Environment

/-- The value of a variable; there is none without a name. -/
def value? (e : Environment) (name : String) : Option String :=
  match Text.splitFirst '=' name.toList with
  | none => if name.isEmpty then none else e.get? name
  | some (front, start) =>
    match e.get? (String.ofList front) with
    | none => none
    | some value =>
      let start := start ++ ['=']
      if start.isPrefixOf value.toList then some (String.ofList (value.toList.drop start.length))
      else none

/-- Sets a variable, or removes it if there is no value. The line of a name that holds an equals
sign is one of the name before that sign, unless there is such a line already. -/
def set (e : Environment) (name : String) : Option String → Environment
  | some value =>
    match Text.splitFirst '=' name.toList with
    | none => e.insert name value
    | some (front, rest) =>
      if (e.get? (String.ofList front)).isSome then e
      else e.insert (String.ofList front) (String.ofList rest ++ "=" ++ value)
  | none => e.erase name

end Environment

end ServiceRegistry
