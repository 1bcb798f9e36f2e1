import ServiceRegistry.Session.Answer
import ServiceRegistry.World.Lifecycle
import ServiceRegistry.World.Search

/-!
# Sessions

A session is a world together with a desk: the names of its objects, the scripts that wait for their
moment, and the notes taken since they were last collected. Operations on the world know nothing of
the desk (`Turn.ofWork`); scripts reach it where operations are interrupted.
-/

namespace ServiceRegistry

/-- A script that is performed for the next events of a kind. -/
structure Cue where
  kind : EventKind
  script : Script
  /-- For how many more events. -/
  left : Nat

/-- Uses up one time of the first cue for a kind; answers the script to be performed. -/
def Cue.take (kind : EventKind) : List Cue → Script × List Cue
  | [] => ([], [])
  | cue :: rest =>
    if cue.kind = kind then
      match cue.left with
      | 0 => ([], cue :: rest)
      | left + 1 => (cue.script, { cue with left } :: rest)
    else
      let (script, rest) := Cue.take kind rest
      (script, cue :: rest)

/-- Who notes what it hears, and acts on the first events of each kind. -/
structure Recorder where
  name : String
  cues : List Cue := []

instance : Inhabited Recorder := ⟨{ name := "" }⟩

/-- Hears of an event; answers the script to be performed now. -/
def Recorder.hear (r : Recorder) (kind : EventKind) : Script × Recorder :=
  let (script, cues) := Cue.take kind r.cues
  (script, { r with cues })

/-- Where a reader of a bus has got to. -/
structure Receiver where
  host : Nat
  position : Nat

/-- A named host. -/
structure NamedHost where
  handle : HostHandle
  /-- Whether the host lists modules of its own and is not merely another name. -/
  own : Bool

/-- What is noted during an action. -/
inductive Note where
  /-- A recorder heard of an event. -/
  | heard (recorder : String) (kind : EventKind) (id : ModuleId)
  /-- An action of a script was performed. -/
  | performed (action : Action) (answer : Answer)

/-- Names, waiting scripts and notes. -/
structure Desk where
  modules : Dict String Module := .empty
  hosts : Dict String NamedHost := .empty
  listeners : Dict String ListenerId := .empty
  receivers : Dict String Receiver := .empty
  catalogs : Dict String Nat := .empty
  providers : Dict String Provider := .empty
  groups : Dict String Contribution := .empty
  followers : Dict String Nat := .empty
  finders : Dict String Finder := .empty
  /-- The scripts of modules that have not been listed yet, by module object. -/
  firstListings : Store (Option Script) := {}
  recorders : Store Recorder := {}
  /-- The scripts of watched hosts. -/
  watches : Store Script := {}
  /-- The hosts on which operations are in progress. -/
  busyHosts : List Nat := []
  /-- The notes, newest first. -/
  notes : List Note := []

/-- A world and a desk. -/
abbrev Session := World × Desk

/-- An operation on a session. -/
abbrev Turn (α : Type) := Interruptible Session Signal α

namespace Turn

/-- An operation on the world, as one on the session. -/
def ofWork {α : Type} (work : Work α) : Turn α := fun s => (work s.1).beside s.2

/-- Reads from the desk. -/
def askDesk {α : Type} (f : Desk → α) : Turn α := Interruptible.ask fun s => f s.2

/-- Reads from the world. -/
def askWorld {α : Type} (f : World → α) : Turn α := Interruptible.ask fun s => f s.1

/-- Changes the desk. -/
def changeDesk (f : Desk → Desk) : Turn Unit := Interruptible.change fun s => (s.1, f s.2)

/-- Changes the world. -/
def changeWorld (f : World → World) : Turn Unit := Interruptible.change fun s => (f s.1, s.2)

/-- Changes the world and answers. -/
def actWorld {α : Type} (f : World → α × World) : Turn α := ofWork (Interruptible.act f)

/-- Goes on with what a name stands for. -/
def named {α : Type} (find : Desk → Option α) (go : α → Turn Answer) : Turn Answer := do
  match ← askDesk find with
  | some a => go a
  | none => return .unknownName

end Turn

namespace Session

/-- Whether a host still exists: someone has a name for it, works on it or is subscribed to it. -/
def hostExists (s : Session) (n : Nat) : Bool :=
  s.2.hosts.values.any (·.handle.host == n) || s.2.busyHosts.contains n ||
    s.1.followers.items.any fun f =>
      f.holders ≠ 0 && (match f.subscription with
        | some sub => sub.host == n
        | none => false)

end Session

end ServiceRegistry
