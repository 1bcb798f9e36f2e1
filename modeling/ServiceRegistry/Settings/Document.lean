import ServiceRegistry.Json.Decode
import ServiceRegistry.Json.Encode
import ServiceRegistry.Settings.Basic

/-!
# Settings as documents

How settings and layers are written as JSON and read from it. Keys have the same names in both; a
layer leaves out what it does not set.
-/

namespace ServiceRegistry

/-- A list of states as a JSON array. -/
def ModuleState.listToJson (states : List ModuleState) : Json :=
  .array (states.map fun s => .string s.text)

namespace Settings

/-- The keys of settings, in the order in which they are written. -/
def keys : List String :=
  ["debug", "descriptorDir", "cacheFailures", "consultEnv", "overrides", "startupStates"]

/-- A list of states, each by its name. -/
def asStates : Json.Decoder (List ModuleState) := Json.asList (Json.asName ModuleState.ofText?)

/-- Settings as a document, with all keys. -/
def toJson (s : Settings) : Json :=
  .object [
    ("debug", .bool s.debug),
    ("descriptorDir", .string s.descriptorFolder),
    ("cacheFailures", .bool s.cacheFailures),
    ("consultEnv", .bool s.consultEnvironment),
    ("overrides", s.pins.toJson),
    ("startupStates", ModuleState.listToJson s.startupStates)]

/-- Settings from a document; a key that is left out has its default. -/
def ofJson? : Json.Decoder Settings := fun j =>
  match Json.fields? keys 0 j with
  | some [debug, folder, cache, environment, pins, states] => do
    let start : Settings := {}
    return {
      debug := ← Json.defaulted start.debug Json.asBool debug
      descriptorFolder := ← Json.defaulted start.descriptorFolder Json.asString folder
      cacheFailures := ← Json.defaulted start.cacheFailures Json.asBool cache
      consultEnvironment := ← Json.defaulted start.consultEnvironment Json.asBool environment
      pins := ← Json.defaulted start.pins (Json.asDict Json.asString) pins
      startupStates := ← Json.defaulted start.startupStates asStates states }
  | _ => none

/-- A layer as a document, without the keys that it does not set. -/
def Layer.toJson (l : Layer) : Json :=
  .object ((l.debug.map fun b => ("debug", Json.bool b)).toList ++
    (l.descriptorFolder.map fun s => ("descriptorDir", Json.string s)).toList ++
    (l.cacheFailures.map fun b => ("cacheFailures", Json.bool b)).toList ++
    (l.consultEnvironment.map fun b => ("consultEnv", Json.bool b)).toList ++
    (if l.pins.isEmpty then [] else [("overrides", l.pins.toJson)]) ++
    (l.startupStates.map fun ss => ("startupStates", ModuleState.listToJson ss)).toList)

/-- A layer from a document. In an object any key can be left out; an array has all fields. -/
def Layer.ofJson? : Json.Decoder Layer := fun j =>
  match Json.fields? keys 6 j with
  | some [debug, folder, cache, environment, pins, states] => do
    return {
      debug := ← Json.defaulted none (Json.orNull Json.asBool) debug
      descriptorFolder := ← Json.defaulted none (Json.orNull Json.asString) folder
      cacheFailures := ← Json.defaulted none (Json.orNull Json.asBool) cache
      consultEnvironment := ← Json.defaulted none (Json.orNull Json.asBool) environment
      pins := ← Json.defaulted .empty (Json.asDict Json.asString) pins
      startupStates := ← Json.defaulted none (Json.orNull asStates) states }
  | _ => none

end Settings

end ServiceRegistry
