import ServiceRegistry.Files.Path
import ServiceRegistry.Text.Split

/-!
# Command-line arguments

A command line is a command with options. General options can stand before the command and after
it; an option that is given on both sides counts as it is given after. An option with a value has
it in the same argument or in the next one, and its value is examined only when the argument after
it makes sense, so of two mistakes it can be the later one that is reported.

`Arguments.parse` answers the arguments or says what is wrong with them, in no more detail than
whether it is a pin that does not have the form `ID=IMPL`.
-/

namespace ServiceRegistry

/-- What the program is asked to do. -/
inductive Command where
  /-- List what each module contributes. -/
  | scan
  /-- Locate the preferred type for a service. -/
  | locate (service : String)
  /-- Locate all types for a service. -/
  | locateAll (service : String)
  /-- List the services. -/
  | ids
deriving DecidableEq

/-- A command with its options. -/
structure Arguments where
  command : Command
  /-- The folders of the modules. -/
  modules : List Path
  /-- One more settings file. -/
  config : Option Path := none
  debug : Bool := false
  noEnvironment : Bool := false
  /-- Pins, in the order in which they are given. -/
  pins : List (String × String) := []
  descriptorFolder : Option String := none
  json : Bool := false
deriving DecidableEq

/-- Why a command line makes no sense. -/
inductive UsageError where
  /-- It does not have the right form. -/
  | form
  /-- A pin is not of the form `ID=IMPL`. -/
  | badPin (text : String)
deriving DecidableEq

/-- What is wrong with a command line, where more can be said than that it has the wrong form. -/
def UsageError.detail? : UsageError → Option String
  | form => none
  | badPin text => some ("expected ID=IMPL, got '" ++ text ++ "'")

namespace Arguments

/-- The options that take a value. -/
inductive ValueOption where
  | config
  | pin
  | descriptorFolder
  | module
deriving DecidableEq

/-- The options that take none. -/
inductive Flag where
  | debug
  | noEnvironment
  | json
deriving DecidableEq

/-- An option. -/
inductive Opt where
  | value (o : ValueOption)
  | flag (f : Flag)
deriving DecidableEq

/-- The names of the commands. -/
inductive CommandName where
  | scan
  | locate
  | locateAll
  | ids
deriving DecidableEq

namespace CommandName

/-- The command of a name. -/
def ofText? : String → Option CommandName
  | "scan" => some scan
  | "locate" => some locate
  | "locate-all" => some locateAll
  | "ids" => some ids
  | _ => none

/-- Whether the command is about one service. -/
def needsService : CommandName → Bool
  | locate | locateAll => true
  | scan | ids => false

end CommandName

/-- What has been given on one side of the command. -/
structure Given where
  config : Option Path := none
  debug : Bool := false
  noEnvironment : Bool := false
  pins : List (String × String) := []
  descriptorFolder : Option String := none
  json : Bool := false
  modules : List Path := []
  service : Option String := none

/-- An option that waits to be examined, with its value once that is known. -/
abbrev Pending := Option (ValueOption × Option String)

/-- A pin of the form `ID=IMPL`, with something on both sides. -/
def readPin (text : String) : Except UsageError (String × String) :=
  match Text.splitFirst '=' text.toList with
  | some (id, implementation) =>
    if id.isEmpty || implementation.isEmpty then .error (.badPin text)
    else .ok (String.ofList id, String.ofList implementation)
  | none => .error (.badPin text)

namespace Given

/-- Takes an option with its value. -/
def take (g : Given) (o : ValueOption) (value : String) : Except UsageError Given :=
  match o with
  | .config =>
    if value.isEmpty || g.config.isSome then .error .form
    else .ok { g with config := some value.toList }
  | .pin => do return { g with pins := g.pins ++ [← readPin value] }
  | .descriptorFolder =>
    if g.descriptorFolder.isSome then .error .form
    else .ok { g with descriptorFolder := some value }
  | .module =>
    if value.isEmpty then .error .form else .ok { g with modules := g.modules ++ [value.toList] }

/-- Takes an option without value. -/
def raise (g : Given) (f : Flag) : Except UsageError Given :=
  match f with
  | .debug => if g.debug then .error .form else .ok { g with debug := true }
  | .noEnvironment => if g.noEnvironment then .error .form else .ok { g with noEnvironment := true }
  | .json => if g.json then .error .form else .ok { g with json := true }

/-- Examines the option that waits. -/
def settle (g : Given) : Pending → Except UsageError Given
  | none => .ok g
  | some (_, none) => .error .form
  | some (o, some value) => g.take o value

end Given

/-- The option of a long name; the folders of modules belong to a command. -/
def longOption? (inCommand : Bool) (name : List Char) : Option Opt :=
  match String.ofList name with
  | "config" => some (.value .config)
  | "override" => some (.value .pin)
  | "descriptor-dir" => some (.value .descriptorFolder)
  | "debug" => some (.flag .debug)
  | "no-env" => some (.flag .noEnvironment)
  | "json" => some (.flag .json)
  | "module" => if inCommand then some (.value .module) else none
  | _ => none

/-- The option of a letter. -/
def shortOption? (inCommand : Bool) (c : Char) : Option Opt :=
  if c = 'd' then some (.flag .debug)
  else if c = 'm' ∧ inCommand then some (.value .module)
  else none

/-- The name of a long option and the value in the same argument, if there is one. -/
def splitLong (text : List Char) : List Char × Option String :=
  match Text.splitFirst '=' text with
  | some (name, value) => (name, some (String.ofList value))
  | none => (text, none)

/-- How far the reading of one side has got. -/
structure Reading where
  given : Given := {}
  pending : Pending := none
  /-- Whether the next argument is the value of the option that waits. -/
  awaitsValue : Bool := false
  /-- Whether only plain arguments follow. -/
  plainOnly : Bool := false

/-- Takes an option that has its value, if it takes one, in the same argument. -/
def Reading.withValue (r : Reading) (o : ValueOption) (value : Option String) :
    Except UsageError Reading := do
  let given ← r.given.settle r.pending
  match value with
  | some value =>
    return { r with given := ← given.take o value, pending := none, awaitsValue := false }
  | none => return { r with given, pending := some (o, none), awaitsValue := true }

/-- Takes an option without value. -/
def Reading.withFlag (r : Reading) (f : Flag) : Except UsageError Reading := do
  let given ← r.given.settle r.pending
  return { r with given := ← given.raise f, pending := none, awaitsValue := false }

/-- Reads a long option, without its dashes. -/
def Reading.long (r : Reading) (inCommand : Bool) (text : List Char) :
    Except UsageError Reading :=
  let (name, value) := splitLong text
  match longOption? inCommand name, value with
  | some (.value o), value => r.withValue o value
  | some (.flag f), none => r.withFlag f
  | some (.flag _), some _ => .error .form
  | none, _ => .error .form

/-- The value that follows a letter in the same argument; an equals sign before it does not
count. -/
def attached : List Char → Option String
  | [] => none
  | '=' :: rest => some (String.ofList rest)
  | rest => some (String.ofList rest)

/-- Reads options that are written as letters after one dash. -/
def Reading.short (r : Reading) (inCommand : Bool) : List Char → Except UsageError Reading
  | [] => .ok r
  | c :: rest =>
    match shortOption? inCommand c with
    | some (.flag f) => do (← r.withFlag f).short inCommand rest
    | some (.value o) => r.withValue o (attached rest)
    | none => .error .form

/-- Takes an argument that is no option: the value of the option before it, or the service. -/
def Reading.plain (r : Reading) (command : Option CommandName) (text : String) :
    Except UsageError Reading := do
  if r.awaitsValue && !r.plainOnly then
    return { r with
      pending := r.pending.map fun p => (p.1, some text)
      awaitsValue := false }
  else if (command.map CommandName.needsService).getD false && r.given.service.isNone then
    let given ← r.given.settle r.pending
    return { r with
      given := { given with service := some text }
      pending := none
      awaitsValue := false }
  else .error .form

/-- Takes one argument. -/
def Reading.argument (r : Reading) (command : Option CommandName) (text : String) :
    Except UsageError Reading :=
  if r.plainOnly then r.plain command text
  else match text.toList with
    | ['-', '-'] => .ok { r with plainOnly := true, awaitsValue := false }
    | '-' :: '-' :: rest => r.long command.isSome rest
    | '-' :: c :: rest => r.short command.isSome (c :: rest)
    | _ => r.plain command text

/-- Takes the arguments after the command; answers all that is given there. -/
def readCommand (name : CommandName) (texts : List String) : Except UsageError Given := do
  let r ← texts.foldlM (fun (r : Reading) text => r.argument (some name) text) {}
  let given ← r.given.settle r.pending
  if given.modules.isEmpty || (name.needsService && given.service.isNone) then .error .form
  else return given

/-- The command with its service. -/
def commandOf (name : CommandName) (given : Given) : Command :=
  let service := given.service.getD ""
  match name with
  | .scan => .scan
  | .locate => .locate service
  | .locateAll => .locateAll service
  | .ids => .ids

/-- What is given before and after the command, put together. -/
def combine (name : CommandName) (before after : Given) : Arguments where
  command := commandOf name after
  modules := after.modules
  config := after.config.or before.config
  debug := before.debug || after.debug
  noEnvironment := before.noEnvironment || after.noEnvironment
  pins := if after.pins.isEmpty then before.pins else after.pins
  descriptorFolder := after.descriptorFolder.or before.descriptorFolder
  json := before.json || after.json

/-- Takes the arguments one after another up to the command, and then those after it. -/
def read (r : Reading) : List String → Except UsageError Arguments
  | [] => do
    let _ ← r.given.settle r.pending
    .error .form
  | text :: rest =>
    match if r.awaitsValue || r.plainOnly then none else CommandName.ofText? text with
    | some name => do
      let after ← readCommand name rest
      let before ← r.given.settle r.pending
      return combine name before after
    | none => do read (← r.argument none text) rest

/-- The arguments of a command line. -/
def parse (texts : List String) : Except UsageError Arguments := read {} texts

end Arguments

end ServiceRegistry
