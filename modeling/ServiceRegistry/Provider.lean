import ServiceRegistry.Module.Basic

/-!
# Providers

A provider stands for the implementation that one descriptor names. It reads the descriptor only
when it is first resolved: the first line is the name of a type, which the descriptor's own module
then loads. What came out is remembered, a failure only if the provider is told so (`remember`).

Providers are compared by the location of their descriptor. `serial` tells provider objects apart,
each of which has a memory of its own.
-/

namespace ServiceRegistry

/-- Why a provider has no implementation to offer. -/
inductive ResolveError where
  /-- The descriptor cannot be read. -/
  | unreadable (location : Location) (reason : String)
  /-- The descriptor's first line is empty. -/
  | emptyDescriptor (location : Location)
  /-- The type that the descriptor names cannot be loaded. -/
  | typeLoad (cause : TypeFault)
deriving DecidableEq

/-- The text for people. -/
def ResolveError.message : ResolveError → String
  | unreadable location reason => "descriptor " ++ location.text ++ " is unreadable: " ++ reason
  | emptyDescriptor location => "descriptor " ++ location.text ++ " has an empty first line"
  | typeLoad cause => cause.message

/-- What resolving a provider gives. -/
abbrev Resolution := Except ResolveError LoadedType

/-- What a provider remembers: a resolution, or nothing yet. -/
abbrev Memo := Option Resolution

/-- The offer of one descriptor. -/
structure Provider where
  /-- Tells provider objects apart. -/
  serial : Nat
  /-- The service that is offered. -/
  service : String
  /-- The descriptor. -/
  location : Location
  /-- The module that holds the descriptor and loads the type. -/
  module : Module
  /-- Whether a failure is remembered too. -/
  cacheFailures : Bool := true
deriving DecidableEq

namespace Provider

/-- Whether a character ends the name in a descriptor's first line. -/
def endsName (c : Char) : Bool := c == '\r' || c == '\n'

/-- The name at the start of a line: all before the first carriage return or line feed. -/
def nameOfLine (line : String) : String :=
  String.ofList (line.toList.takeWhile fun c => !endsName c)

/-- Reads the first line of an opened descriptor. -/
def firstName (opened : Except Fault Stream) : Except Fault String := do
  let line ← (← opened).readLine
  match line.text? with
  | some text => .ok (nameOfLine text)
  | none => .error .notText

/-- The name of the type that the descriptor names in its first line. -/
def readName (p : Provider) (v : ModuleView) : Except ResolveError String :=
  match firstName (v.openEntry p.location) with
  | .error fault => .error (.unreadable p.location fault.text)
  | .ok name => if name.isEmpty then .error (.emptyDescriptor p.location) else .ok name

/-- Reads the descriptor and loads the type, whatever is remembered. -/
def fetch (p : Provider) (v : ModuleView) : Resolution :=
  match p.readName v with
  | .error e => .error e
  | .ok name => (v.loadType name).mapError .typeLoad

/-- How often a fetch asks the module for a type. -/
def typeLoads (p : Provider) (v : ModuleView) : Nat := if (p.readName v).isOk then 1 else 0

/-- What is remembered of a resolution. -/
def remember (p : Provider) (r : Resolution) : Memo :=
  if r.isOk || p.cacheFailures then some r else none

end Provider

end ServiceRegistry
