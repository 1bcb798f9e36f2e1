import ServiceRegistry.Stock
import ServiceRegistry.Text.Quoted

/-!
# Descriptions of values

One-line descriptions that show what a value is made of, for diagnosis. A value is described by the
name of its kind and its fields in braces, or by its only part in parentheses.
-/

namespace ServiceRegistry

namespace Description

/-- A kind with named fields. -/
def record (kind : String) (fields : List (String × String)) : String :=
  kind ++ " \x7b " ++ ", ".intercalate (fields.map fun f => f.1 ++ ": " ++ f.2) ++ " \x7d"

/-- A kind with one part. -/
def wrap (kind part : String) : String := kind ++ "(" ++ part ++ ")"

/-- A list. -/
def list (items : List String) : String := "[" ++ ", ".intercalate items ++ "]"

end Description

open Description Quoted

/-- The description of a module's number. -/
def ModuleId.describe (id : ModuleId) : String := wrap "ModuleId" id.text

/-- The description of a location. -/
def Location.describe (l : Location) : String := wrap "ResourceUrl" (quote l.text)

/-- The description of a loaded type. -/
def LoadedType.describe (t : LoadedType) : String :=
  record "TypeHandle" [("name", quote t.name), ("origin", t.origin.describe)]

/-- The description of why a type could not be loaded. -/
def TypeFault.describe : TypeFault → String
  | notVisible name viewer =>
    record "NotFound" [("name", quote name), ("module", viewer.describe)]
  | rejected name viewer reason =>
    record "Rejected" [("name", quote name), ("module", viewer.describe), ("reason", quote reason)]

/-- The description of why a provider has nothing to offer. -/
def ResolveError.describe : ResolveError → String
  | unreadable location reason =>
    record "Unreadable" [("url", location.describe), ("reason", quote reason)]
  | emptyDescriptor location => record "EmptyDescriptor" [("url", location.describe)]
  | typeLoad cause => wrap "TypeNotFound" cause.describe

/-- The description of what a provider remembers. -/
def describeMemo : Memo → String
  | none => "None"
  | some (.ok t) => wrap "Some" (wrap "Ok" t.describe)
  | some (.error e) => wrap "Some" (wrap "Err" e.describe)

/-- The description of a provider. -/
def Provider.describe (p : Provider) (memo : Memo) : String :=
  record "FactoryLoader" [
    ("factory_id", quote p.service),
    ("url", p.location.describe),
    ("module", p.module.id.describe),
    ("resolved", describeMemo memo)]

/-- The description of a chain of sources of pins. -/
def PinSource.describeChain (sources : List PinSource) : String :=
  record "OverrideChain" [("sources", list (sources.map fun s => quote s.name))]

/-- The description of a catalog. -/
def Catalog.describe (k : Catalog) : String :=
  record "Locator" [
    ("factory_ids", list (k.table.keys.map quote)),
    ("overrides", quote k.pins.name)]

end ServiceRegistry
