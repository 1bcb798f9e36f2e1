import ServiceRegistry.CommandLine.Arguments
import ServiceRegistry.Json.Printer
import ServiceRegistry.Report
import ServiceRegistry.Settings.Sources
import ServiceRegistry.World.Lifecycle
import ServiceRegistry.World.Search

/-!
# The program

The program starts a follower on an empty host, installs and starts a module for each folder, and
answers one question about what the catalog then holds. Nobody acts at signals here, so the whole
run is a function of the files, the variables and the arguments.
-/

namespace ServiceRegistry

/-- What a run of the program leaves: texts for people, and a code for other programs. -/
structure Outcome where
  exitCode : UInt8
  output : String := ""
  errorOutput : String := ""
deriving DecidableEq

namespace Outcome

/-- The code for a question without answer. -/
def missCode : UInt8 := 1

/-- The code for what cannot be done. -/
def failureCode : UInt8 := 2

/-- What is written about an error: the message, and the cause if the message alone does not serve
the user. -/
def errorText (e : Error) : String :=
  "error: " ++ e.message ++
    (match if e.isUserFacing then none else e.cause? with
      | some cause => "\n\nCaused by:\n    " ++ cause
      | none => "") ++ "\n"

/-- What an error leaves. -/
def ofError (e : Error) : Outcome where
  exitCode := if e.isNotFound then missCode else failureCode
  errorOutput := errorText e

/-- What a report leaves. -/
def ofReport (json : Bool) (r : Report) : Outcome where
  exitCode := if r.isMiss then missCode else 0
  output := if json then String.ofList r.toJson.pretty ++ "\n" else r.text

end Outcome

namespace Arguments

/-- The settings that are in force for a command line. -/
def settings (a : Arguments) (around : Surroundings) : Except Error Settings := do
  let s ← Settings.load around a.config
  let s := if a.debug then { s with debug := true } else s
  let s := if a.noEnvironment then { s with consultEnvironment := false } else s
  return match a.descriptorFolder with
    | some folder => s.setDescriptorFolder folder
    | none => s

/-- Where pins come from: first the command line, then what the settings ask for. -/
def pinSource (a : Arguments) (s : Settings) : PinSource :=
  .chain ((if a.pins.isEmpty then [] else [.fixed (Dict.ofList a.pins)]) ++
    PinSource.listOfSettings s)

/-- The world in which a command is carried out: an empty host, an empty catalog and a follower. -/
def world (a : Arguments) (s : Settings) (around : Surroundings) : World where
  stock := { files := around.files }
  environment := around.environment
  hosts := ⟨[{}]⟩
  catalogs := ⟨[{ pins := a.pinSource s }]⟩
  followers := ⟨[.ofSettings 0 s]⟩

/-- The host of the program. -/
def mainHost : HostHandle := { host := 0 }

/-- Takes a folder as a module. -/
def openModule (root : Path) (w : World) : Except Error Module × World :=
  let (id, h) := (w.host mainHost.host).takeId
  let w := w.setHost mainHost.host h
  match FolderModule.load w.stock.files id root with
  | .error e => (.error e, w)
  | .ok m =>
    let object := w.stock.objects.next
    let objects := w.stock.objects.set object { content := .folder m }
    (.ok ⟨object, id, m.name⟩, { w with stock := { w.stock with objects } })

/-- Installs and starts a module. -/
def bringUp (m : Module) : Work (Except HostError Unit) := do
  match ← World.install mainHost.host m with
  | .error refusal => return .error refusal
  | .ok id => World.start mainHost.host id

/-- Opens, installs and starts the modules of some folders, until one of them fails. -/
def bringUpAll : List Path → Work (Except Error Unit)
  | [] => return .ok ()
  | root :: rest => do
    match ← Interruptible.act (openModule root) with
    | .error e => return .error e
    | .ok m =>
      match ← bringUp m with
      | .error refusal => return .error refusal.toError
      | .ok () => bringUpAll rest

/-- Answers the question of a command. -/
def answer (c : Command) : Work Report :=
  match c with
  | .scan => do
    let hosted ← World.modules mainHost
    Interruptible.ask fun w => .ofModules hosted (w.follower 0)
  | .locate service => Interruptible.act fun w =>
    let (found, w) := w.locate 0 { name := service } service
    (.located service found, w)
  | .locateAll service => Interruptible.act fun w =>
    let (found, w) := w.locateAll 0 { name := service } service
    (.locatedAll service found, w)
  | .ids => Interruptible.ask fun w => .ofTable (w.catalog 0).table

/-- Carries out a command. -/
def work (a : Arguments) : Work (Except Error Report) := do
  match ← World.startFollower 0 mainHost with
  | .error e => return .error e
  | .ok () =>
    match ← bringUpAll a.modules with
    | .error e => return .error e
    | .ok () =>
      let r ← answer a.command
      Interruptible.change (·.stopFollower 0)
      return .ok r

/-- The report that a command line asks for. -/
def report (a : Arguments) (around : Surroundings) : Except Error Report := do
  let s ← a.settings around
  (a.work (a.world s around)).finish (fun _ w => w) |>.1

/-- What the program leaves. -/
def run (a : Arguments) (around : Surroundings) : Outcome :=
  match a.report around with
  | .ok r => .ofReport a.json r
  | .error e => .ofError e

end Arguments

end ServiceRegistry
