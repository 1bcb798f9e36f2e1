import ServiceRegistry.Follower
import ServiceRegistry.Json.Encode
import ServiceRegistry.TypeSpace.Document

/-!
# Reports

What the program tells a user: the modules with what they contribute, the types that were located,
or the services that have providers. A report is shown as plain text or as a JSON document.
-/

namespace ServiceRegistry

/-- A module with the services that it contributes. -/
structure ModuleReport where
  id : ModuleId
  name : String
  state : ModuleState
  services : List String

/-- The answer to one question. -/
inductive Report where
  /-- The modules and what each contributes. -/
  | modules (modules : List ModuleReport)
  /-- The preferred type for a service. -/
  | located (service : String) (found : Option LoadedType)
  /-- All types for a service. -/
  | locatedAll (service : String) (found : List LoadedType)
  /-- The services and how many providers each has. -/
  | services (services : List (String × Nat))

namespace Report

/-- The report on the modules of a host, with what a follower has registered for them. -/
def ofModules (hosted : List Hosted) (f : Follower) : Report :=
  .modules (hosted.map fun h =>
    ⟨h.module.id, h.module.name, h.state, (f.contributions? h.module.id).getD []⟩)

/-- The report on the services of a catalog. -/
def ofTable (t : Table) : Report := .services (t.entries.map fun e => (e.1, e.2.length))

/-- Whether nothing was located. -/
def isMiss : Report → Bool
  | located _ found => found.isNone
  | locatedAll _ found => found.isEmpty
  | _ => false

/-- The line for a located type. -/
def typeLine (t : LoadedType) : String := t.name ++ " (module " ++ t.origin.text ++ ")\n"

/-- The line for a service without a type. -/
def missLine (service : String) : String := "No provider for " ++ service ++ "\n"

/-- The lines for a module. -/
def moduleLines (m : ModuleReport) : String :=
  "[" ++ m.id.text ++ "] " ++ m.name ++ " (" ++ m.state.text ++ ")\n" ++
    String.join (m.services.map fun service => "  " ++ service ++ "\n")

/-- The report as plain text. -/
def text : Report → String
  | modules ms => String.join (ms.map moduleLines)
  | located _ (some t) => typeLine t
  | located service none => missLine service
  | locatedAll service [] => missLine service
  | locatedAll _ ts => String.join (ts.map typeLine)
  | services ss =>
    String.join (ss.map fun s => s.1 ++ " (" ++ Decimal.text s.2 ++ ")\n")

/-- The report as a document. -/
def toJson : Report → Json
  | modules ms => .object [
      ("kind", .string "scan"),
      ("modules", .array (ms.map fun m => .object [
        ("id", m.id.toJson),
        ("name", .string m.name),
        ("state", .string m.state.text),
        ("factoryIds", .array (m.services.map .string))]))]
  | located service found => .object [
      ("kind", .string "locate"),
      ("id", .string service),
      ("found", (found.map LoadedType.toJson).getD .null)]
  | locatedAll service found => .object [
      ("kind", .string "locate_all"),
      ("id", .string service),
      ("found", .array (found.map LoadedType.toJson))]
  | services ss => .object [
      ("kind", .string "ids"),
      ("ids", .array (ss.map fun s =>
        .object [("id", .string s.1), ("candidates", .nat s.2)]))]

end Report

end ServiceRegistry
