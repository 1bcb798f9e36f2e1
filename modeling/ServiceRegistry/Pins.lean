import ServiceRegistry.Environment
import ServiceRegistry.Settings.Basic

/-!
# Pinned implementations

A pin says which implementation of a service is wanted. Pins come from the environment, where the
service is the name of a variable, from fixed lists, and from chains of such sources, whose first
answer counts.
-/

namespace ServiceRegistry

/-- Where pins come from. -/
inductive PinSource where
  /-- Environment variables; an empty value is no pin. -/
  | environment
  /-- A fixed list. -/
  | fixed (pins : Dict String String)
  /-- Sources that are asked one after another. -/
  | chain (sources : List PinSource)

namespace PinSource

/-- The short name of the kind of source. -/
def name : PinSource → String
  | environment => "env"
  | fixed _ => "static"
  | chain _ => "chain"

mutual

/-- The implementation that a source pins for a service. -/
def lookup (e : Environment) (service : String) : PinSource → Option String
  | environment => (e.value? service).filter (!·.isEmpty)
  | fixed pins => pins.get? service
  | chain sources => lookupFirst e service sources

/-- The first pin that any of some sources has for a service. -/
def lookupFirst (e : Environment) (service : String) : List PinSource → Option String
  | [] => none
  | source :: rest => (lookup e service source).or (lookupFirst e service rest)

end

/-- The sources that settings ask for: the environment unless it is switched off, then the pins of
the settings if there are any. -/
def listOfSettings (s : Settings) : List PinSource :=
  (if s.consultEnvironment then [environment] else []) ++
    (if s.pins.isEmpty then [] else [fixed s.pins])

/-- The chain of the sources that settings ask for. -/
def ofSettings (s : Settings) : PinSource := chain (listOfSettings s)

end PinSource

end ServiceRegistry
