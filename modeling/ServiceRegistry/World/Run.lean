/-!
# Interruptible operations

An operation works on a state until it is done or until something outside has to act, and continues
from whatever state the outside leaves. `Run σ ι α` is that course of events: states of type `σ`,
interruptions of type `ι`, an answer of type `α`. It is finite in every case, so a handler of the
interruptions turns it into a plain change of state (`Run.finish`).

`Run.bind` composes operations, and `finish_bind` says that handling goes through a composition part
by part.
-/

namespace ServiceRegistry

/-- The course of an operation up to its answer. -/
inductive Run (σ ι α : Type) where
  /-- The operation is done. -/
  | done (state : σ) (answer : α)
  /-- Something outside acts; then the operation goes on. -/
  | pause (state : σ) (interruption : ι) (resume : σ → Run σ ι α)

namespace Run

variable {σ ι α β δ : Type}

/-- Goes on with a second operation once the first is done. -/
def bind : Run σ ι α → (α → σ → Run σ ι β) → Run σ ι β
  | done s a, f => f a s
  | pause s i k, f => pause s i fun s => (k s).bind f

/-- Lets a handler act at each interruption. -/
def finish (handle : ι → σ → σ) : Run σ ι α → α × σ
  | done s a => (a, s)
  | pause s i k => (k (handle i s)).finish handle

/-- The same operation beside a state that only the outside can change. -/
def beside (d : δ) : Run σ ι α → Run (σ × δ) ι α
  | done s a => done (s, d) a
  | pause s i k => pause (s, d) i fun s => (k s.1).beside s.2

/-- A run that goes on with another one is finished by finishing both. -/
@[simp] theorem finish_bind (handle : ι → σ → σ) (r : Run σ ι α) (f : α → σ → Run σ ι β) :
    (r.bind f).finish handle =
      (f (r.finish handle).1 (r.finish handle).2).finish handle := by
  induction r with
  | done s a => rfl
  | pause s i k ih => exact ih (handle i s)

/-- A run that goes on with nothing is itself. -/
theorem bind_done (r : Run σ ι α) : (r.bind fun a s => done s a) = r := by
  induction r with
  | done s a => rfl
  | pause s i k ih => exact congrArg (pause s i) (funext ih)

/-- Runs follow one another without brackets. -/
theorem bind_assoc {γ : Type} (r : Run σ ι α) (f : α → σ → Run σ ι β) (g : β → σ → Run σ ι γ) :
    (r.bind f).bind g = r.bind fun a s => (f a s).bind g := by
  induction r with
  | done s a => rfl
  | pause s i k ih => exact congrArg (pause s i) (funext ih)

end Run

/-- An operation on states of type `σ` with interruptions of type `ι`. -/
def Interruptible (σ ι α : Type) := σ → Run σ ι α

namespace Interruptible

variable {σ ι α β : Type}

instance : Monad (Interruptible σ ι) where
  pure a := fun s => .done s a
  bind p f := fun s => (p s).bind f

instance : LawfulMonad (Interruptible σ ι) := by
  refine LawfulMonad.mk' _ ?_ ?_ ?_
  · exact fun p => funext fun s => Run.bind_done (p s)
  · exact fun _ _ => rfl
  · exact fun p _ _ => funext fun s => Run.bind_assoc (p s) _ _

/-- A step that reads and changes the state without interruption. -/
def act (f : σ → α × σ) : Interruptible σ ι α := fun s => .done (f s).2 (f s).1

/-- Reads from the state. -/
def ask (f : σ → α) : Interruptible σ ι α := fun s => .done s (f s)

/-- Changes the state. -/
def change (f : σ → σ) : Interruptible σ ι Unit := fun s => .done (f s) ()

/-- Lets something outside act. -/
def interrupt (i : ι) : Interruptible σ ι Unit := fun s => .pause s i fun s => .done s ()

/-- Performs an operation for each item of a list, in order. -/
def each (f : α → Interruptible σ ι Unit) : List α → Interruptible σ ι Unit
  | [] => pure ()
  | a :: rest => do
    f a
    each f rest

end Interruptible

end ServiceRegistry
