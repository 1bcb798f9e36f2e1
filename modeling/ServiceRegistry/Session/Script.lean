import ServiceRegistry.Session.Perform

/-!
# Scripts and sessions

Where an action is interrupted, the scripts that wait for that moment are performed: their actions
one after another, each noted with its answer once it is done. Such an action can be interrupted
itself, so scripts nest; `Session.answer` bounds the depth, and scripts deeper than the bound are
not performed.
-/

namespace ServiceRegistry.Session

/-- Takes a note. -/
def note (n : Note) (s : Session) : Session := (s.1, { s.2 with notes := n :: s.2.notes })

/-- The script for a signal, and the session in which it is performed. -/
def onSignal (signal : Signal) (s : Session) : Script × Session :=
  let d := s.2
  match signal with
  | .listed m =>
    match d.firstListings.get m.object with
    | some script => (script, (s.1, { d with firstListings := d.firstListings.set m.object none }))
    | none => ([], s)
  | .heard n e =>
    let (script, recorder) := (d.recorders.get n).hear e.kind
    (script, note (.heard recorder.name e.kind e.module.id)
      (s.1, { d with recorders := d.recorders.set n recorder }))
  | .surveyed watch => (d.watches.get watch, s)
  | .reported _ => ([], s)

/-- Performs the actions of a script and notes their answers. -/
def performAll (handle : Signal → Session → Session) : Script → Session → Session
  | [], s => s
  | action :: rest, s =>
    let (answer, s) := (perform action s).finish handle
    performAll handle rest (note (.performed action answer) s)

/-- Performs the script for a signal, if scripts may nest that deep. -/
def handle : Nat → Signal → Session → Session
  | 0, _, s => s
  | depth + 1, signal, s =>
    let (script, s) := onSignal signal s
    performAll (handle depth) script s

/-- Performs an action with the scripts that it sets off, nested up to a depth. -/
def answer (depth : Nat) (action : Action) (s : Session) : Answer × Session :=
  (perform action s).finish (handle depth)

/-- Collects the notes, oldest first. -/
def takeNotes (s : Session) : List Note × Session :=
  (s.2.notes.reverse, (s.1, { s.2 with notes := [] }))

/-- How deep scripts may nest: deeper than scripts that are performed a limited number of times. A
script that takes the list at which it is performed itself would never end. -/
def nestingLimit : Nat := 1000000

end ServiceRegistry.Session
