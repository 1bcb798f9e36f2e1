import ServiceRegistry.Json.Decode
import ServiceRegistry.Json.Encode
import ServiceRegistry.TypeSpace

/-!
# Types as documents

How loaded types and type spaces are written as JSON and read from it.
-/

namespace ServiceRegistry

/-- A loaded type as a document. -/
def LoadedType.toJson (t : LoadedType) : Json :=
  .object [("name", .string t.name), ("origin", t.origin.toJson)]

/-- A loaded type from a document. -/
def LoadedType.ofJson? : Json.Decoder LoadedType := fun j =>
  match Json.fields? ["name", "origin"] 2 j with
  | some [name, origin] => do
    return {
      name := ← Json.needed Json.asString name
      origin := ← Json.needed Json.asModuleId origin }
  | _ => none

namespace TypeSpace

/-- Imports as a document. -/
def importsToJson (imports : Dict String ModuleId) : Json :=
  .object (imports.entries.map fun e => (e.1, e.2.toJson))

/-- A type space as a document. -/
def toJson (space : TypeSpace) : Json :=
  .object [
    ("defined", space.defined.toJson),
    ("imports", importsToJson space.imports),
    ("rejected", space.rejected.toJson)]

/-- A type space from a document; a key that is left out stands for nothing. -/
def ofJson? : Json.Decoder TypeSpace := fun j =>
  match Json.fields? ["defined", "imports", "rejected"] 0 j with
  | some [defined, imports, rejected] => do
    return {
      defined := ← Json.defaulted .empty Json.asSet defined
      imports := ← Json.defaulted .empty (Json.asDict Json.asModuleId) imports
      rejected := ← Json.defaulted .empty (Json.asDict Json.asString) rejected }
  | _ => none

end TypeSpace

end ServiceRegistry
