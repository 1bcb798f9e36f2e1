import ServiceRegistry.Json.Decode
import ServiceRegistry.Json.Encode
import ServiceRegistry.TypeSpace.Document

/-!
# Manifests

A folder that is a module can hold a manifest: a JSON document with the module's display name, the
types it defines and those it imports.
-/

namespace ServiceRegistry

/-- What a module's folder says about the module. -/
structure Manifest where
  /-- The display name; without it the folder's name serves. -/
  name : Option String := none
  /-- The types that the module defines. -/
  types : List String := []
  /-- The types that the module imports, with the modules that define them. -/
  imports : Dict String ModuleId := .empty
deriving DecidableEq

namespace Manifest

/-- The name of the file. -/
def fileName : List Char := "module.json".toList

/-- A manifest as a document. -/
def toJson (m : Manifest) : Json :=
  .object ((m.name.map fun name => ("name", Json.string name)).toList ++
    [("types", .array (m.types.map .string)), ("imports", TypeSpace.importsToJson m.imports)])

/-- A manifest from a document; every key can be left out. -/
def ofJson? : Json.Decoder Manifest := fun j =>
  match Json.fields? ["name", "types", "imports"] 0 j with
  | some [name, types, imports] => do
    return {
      name := ← Json.defaulted none (Json.orNull Json.asString) name
      types := ← Json.defaulted [] (Json.asList Json.asString) types
      imports := ← Json.defaulted .empty (Json.asDict Json.asModuleId) imports }
  | _ => none

/-- The types that a manifest lists. -/
def typeSpace (m : Manifest) : TypeSpace where
  defined := SortedSet.ofList m.types
  imports := m.imports

end Manifest

end ServiceRegistry
