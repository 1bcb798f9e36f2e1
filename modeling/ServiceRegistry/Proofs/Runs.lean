import Mathlib.Logic.Relation
import ServiceRegistry.World.Run

/-!
# Operations among others

An interrupted operation goes on from whatever state the outside leaves. `Interruptible.Ends` says
how an operation can end if the outside can do at each interruption what a relation allows; the
outside has a memory of its own beside the state. What the outside does can itself be a sequence of
operations, so the relation for one depth of nesting can be built from the relation for the depth
below.

The rules below follow an operation part by part. `ends_finish` ties the relation to handlers: what
a handler makes of an operation is one of the ways in which it can end.
-/

namespace ServiceRegistry

variable {σ ι α β δ : Type}

/-- The course of an operation can end with an answer, in a state and a memory of the outside. -/
def Run.Ends (outside : ι → σ × δ → σ × δ → Prop) : Run σ ι α → δ → α → σ × δ → Prop
  | .done s a, d, b, t => b = a ∧ t = (s, d)
  | .pause s i k, d, b, t => ∃ u, outside i (s, d) u ∧ (k u.1).Ends outside u.2 b t

/-- A run that goes on with another one ends where the other one does, from where the first one
ends. -/
theorem Run.ends_bind {outside : ι → σ × δ → σ × δ → Prop} (r : Run σ ι α)
    (f : α → σ → Run σ ι β) (d : δ) (b : β) (t : σ × δ) :
    (r.bind f).Ends outside d b t ↔
      ∃ a u, r.Ends outside d a u ∧ (f a u.1).Ends outside u.2 b t := by
  induction r generalizing d with
  | done s a =>
    constructor
    · intro h
      exact ⟨a, (s, d), ⟨rfl, rfl⟩, h⟩
    · rintro ⟨_, _, ⟨rfl, rfl⟩, h⟩
      exact h
  | pause s i k ih =>
    constructor
    · rintro ⟨u, hu, h⟩
      obtain ⟨a, v, hv, h⟩ := (ih u.1 u.2).1 h
      exact ⟨a, v, ⟨u, hu, hv⟩, h⟩
    · rintro ⟨a, v, ⟨u, hu, hv⟩, h⟩
      exact ⟨u, hu, (ih u.1 u.2).2 ⟨a, v, hv, h⟩⟩

/-- What a handler makes of an operation is one of its ends, if the outside can do what the handler
does. -/
theorem Run.ends_finish {outside : ι → σ × δ → σ × δ → Prop} {handle : ι → σ × δ → σ × δ}
    (h : ∀ i s, outside i s (handle i s)) (r : Run σ ι α) (d : δ) :
    r.Ends outside d ((r.beside d).finish handle).1 ((r.beside d).finish handle).2 := by
  induction r generalizing d with
  | done s a => exact ⟨rfl, rfl⟩
  | pause s i k ih => exact ⟨handle i (s, d), h i (s, d), ih _ _⟩

/-- With more allowed to the outside, an operation can end at least as it could before. -/
theorem Run.Ends.mono {outside outside' : ι → σ × δ → σ × δ → Prop}
    (h : ∀ i s t, outside i s t → outside' i s t) {r : Run σ ι α} {d : δ} {a : α} {t : σ × δ}
    (hr : r.Ends outside d a t) : r.Ends outside' d a t := by
  induction r generalizing d with
  | done s a => exact hr
  | pause s i k ih =>
    obtain ⟨u, hu, hr⟩ := hr
    exact ⟨u, h i _ u hu, ih _ hr⟩

namespace Interruptible

/-- An operation that begins in a state can end with an answer in another. -/
def Ends (outside : ι → σ × δ → σ × δ → Prop) (p : Interruptible σ ι α) (s : σ × δ) (a : α)
    (t : σ × δ) : Prop :=
  (p s.1).Ends outside s.2 a t

variable {outside : ι → σ × δ → σ × δ → Prop} {s t : σ × δ}

/-- An operation that does nothing ends where it begins. -/
@[simp] theorem ends_pure (a b : α) :
    (pure a : Interruptible σ ι α).Ends outside s b t ↔ b = a ∧ t = s := Iff.rfl

/-- One operation after another ends where the second one does, from where the first one ends. -/
@[simp] theorem ends_bind (p : Interruptible σ ι α) (q : α → Interruptible σ ι β) (b : β) :
    (p >>= q).Ends outside s b t ↔ ∃ a u, p.Ends outside s a u ∧ (q a).Ends outside u b t :=
  Run.ends_bind (p s.1) q s.2 b t

/-- A single act ends where it leads. -/
@[simp] theorem ends_act (f : σ → α × σ) (a : α) :
    (act f : Interruptible σ ι α).Ends outside s a t ↔
      a = (f s.1).1 ∧ t = ((f s.1).2, s.2) := Iff.rfl

/-- A question ends where it begins, with its answer. -/
@[simp] theorem ends_ask (f : σ → α) (a : α) :
    (ask f : Interruptible σ ι α).Ends outside s a t ↔ a = f s.1 ∧ t = s := Iff.rfl

/-- A change ends where it leads. -/
@[simp] theorem ends_change (f : σ → σ) (a : Unit) :
    (change f : Interruptible σ ι Unit).Ends outside s a t ↔ t = (f s.1, s.2) :=
  ⟨fun h => h.2, fun h => ⟨rfl, h⟩⟩

/-- An interruption ends wherever the outside gets to. -/
@[simp] theorem ends_interrupt (i : ι) (a : Unit) :
    (interrupt i : Interruptible σ ι Unit).Ends outside s a t ↔ outside i s t := by
  constructor
  · rintro ⟨u, hu, -, rfl⟩
    exact hu
  · intro h
    exact ⟨t, h, rfl, rfl⟩

/-- No operation at all ends where it begins. -/
@[simp] theorem ends_each_nil (f : α → Interruptible σ ι Unit) (a : Unit) :
    (each f []).Ends outside s a t ↔ t = s := ⟨fun h => h.2, fun h => ⟨rfl, h⟩⟩

/-- Operations for a list end where those for the rest do, from where the first one ends. -/
@[simp] theorem ends_each_cons (f : α → Interruptible σ ι Unit) (x : α) (xs : List α) (a : Unit) :
    (each f (x :: xs)).Ends outside s a t ↔
      ∃ u, (f x).Ends outside s () u ∧ (each f xs).Ends outside u a t := by
  change (f x >>= fun _ => each f xs).Ends outside s a t ↔ _
  rw [ends_bind]
  constructor
  · rintro ⟨_, u, hu, h⟩
    exact ⟨u, hu, h⟩
  · rintro ⟨u, hu, h⟩
    exact ⟨(), u, hu, h⟩

/-- An operation performed for each item of a list leads through whatever leads on from item to
item. -/
theorem Ends.each_induction {f : α → Interruptible σ ι Unit} {xs : List α} {a : Unit}
    {motive : List α → σ × δ → Prop} (h : (each f xs).Ends outside s a t) (start : motive xs s)
    (step : ∀ x rest u v, (f x).Ends outside u () v → motive (x :: rest) u → motive rest v) :
    motive [] t := by
  induction xs generalizing s with
  | nil =>
    rw [ends_each_nil] at h
    exact h ▸ start
  | cons x rest ih =>
    obtain ⟨u, hu, h⟩ := (ends_each_cons f x rest a).1 h
    exact ih h (step x rest s u hu start)

/-- An operation leaves alone what a view shows of the state. -/
def Keeps {ν : Type} (outside : ι → σ × δ → σ × δ → Prop) (view : σ → ν)
    (p : Interruptible σ ι α) : Prop :=
  ∀ s a t, p.Ends outside s a t → view t.1 = view s.1

end Interruptible

end ServiceRegistry
