import ServiceRegistry.Proofs.Runs

/-!
# Reentrant runs

A `Stage` is a state together with the operations that are suspended in it. At any moment a new
operation can begin, a suspended one can go on, or the outside can act; so operations interrupt each
other in every order and to every depth, and nothing says that they come to an end. Reentrant
operations go on innermost first; those of several callers that take turns need not.

An `Agenda` is a stage on which it is known of each suspended operation what it began as, so that it
can be said whose a step is. Forgetting that leaves a stage, and every run of a stage comes about in
this way (`Agenda.of_reached`).

An operation is `Safe` if it leaves an invariant true at each interruption and at its end, and if it
is made of steps of a given kind from one interruption to the next, provided that it finds the
invariant true whenever it goes on. What holds on all that can be reached is reduced to that:
`Agenda.Sound.keeps`, and `Stage.invariant` for the invariant alone.
-/

namespace ServiceRegistry

open Relation (ReflTransGen)

variable {σ ι α β δ : Type}

namespace Run

/-- The state at the next interruption of an operation, or at its end if there is none. -/
def reached : Run σ ι α → σ
  | done s _ => s
  | pause s _ _ => s

/-- What is left of an operation after its next interruption. -/
def left : Run σ ι α → Option (Interruptible σ ι α)
  | done _ _ => none
  | pause _ _ k => some k

/-- The course of an operation that went on in a state `o` keeps an invariant at its interruptions,
goes from one to the next by steps, and ends as is asked. -/
def Safe (inv : σ × δ → Prop) (step : σ → σ → Prop) (post : α → σ × δ → Prop) :
    Run σ ι α → σ → δ → Prop
  | done s a, o, d => ReflTransGen step o s ∧ post a (s, d)
  | pause s _ k, o, d => ReflTransGen step o s ∧ inv (s, d) ∧
      ∀ u, inv u → (k u.1).Safe inv step post u.1 u.2

variable {inv : σ × δ → Prop} {step : σ → σ → Prop} {post : α → σ × δ → Prop} {r : Run σ ι α}
  {o o' : σ} {d : δ}

/-- A course that goes on from a state has gone on from any state before. -/
theorem Safe.since (hr : r.Safe inv step post o' d) (h : ReflTransGen step o o') :
    r.Safe inv step post o d := by
  cases r with
  | done s a => exact ⟨h.trans hr.1, hr.2⟩
  | pause s i k => exact ⟨h.trans hr.1, hr.2⟩

/-- A course that is made of steps is made of more general ones. -/
theorem Safe.mono {step' : σ → σ → Prop} (hr : r.Safe inv step post o d)
    (h : ∀ s t, step s t → step' s t) : r.Safe inv step' post o d := by
  induction r generalizing o d with
  | done s a => exact ⟨ReflTransGen.mono h _ _ hr.1, hr.2⟩
  | pause s i k ih => exact ⟨ReflTransGen.mono h _ _ hr.1, hr.2.1, fun u hu => ih u.1 (hr.2.2 u hu)⟩

/-- A course can go on with another one. -/
theorem Safe.bind {mid : β → σ × δ → Prop} {r : Run σ ι β} {f : β → σ → Run σ ι α}
    (hr : r.Safe inv step mid o d)
    (hf : ∀ b u, mid b u → (f b u.1).Safe inv step post u.1 u.2) :
    (r.bind f).Safe inv step post o d := by
  induction r generalizing o d with
  | done s a => exact (hf a (s, d) hr.2).since hr.1
  | pause s i k ih => exact ⟨hr.1, hr.2.1, fun u hu => ih u.1 (hr.2.2 u hu)⟩

/-- If the outside keeps the invariant too, the operation ends as is asked. -/
theorem Safe.ends {outside : ι → σ × δ → σ × δ → Prop} {a : α} {t : σ × δ}
    (hr : r.Safe inv step post o d) (hout : ∀ i s t, outside i s t → inv s → inv t)
    (h : r.Ends outside d a t) : post a t := by
  induction r generalizing o d with
  | done s b =>
    obtain ⟨rfl, rfl⟩ := h
    exact hr.2
  | pause s i k ih =>
    obtain ⟨u, hu, h⟩ := h
    exact ih u.1 (hr.2.2 u (hout i _ u hu hr.2.1)) h

/-- What every step keeps, an operation that is made of such steps keeps. -/
theorem Safe.keeps (hr : r.Safe (fun _ : σ × Unit => True) step (fun _ _ => True) o ())
    (hstep : ∀ a b d, step a b → inv (a, d) → inv (b, d)) (ho : inv (o, d)) :
    r.Safe inv step (fun _ => inv) o d := by
  have hsteps {a b : σ} {d : δ} (h : ReflTransGen step a b) (ha : inv (a, d)) : inv (b, d) := by
    induction h with
    | refl => exact ha
    | tail _ hab ih => exact hstep _ _ _ hab ih
  induction r generalizing o d with
  | done s a => exact ⟨hr.1, hsteps hr.1 ho⟩
  | pause s i k ih =>
    exact ⟨hr.1, hsteps hr.1 ho, fun u hu => ih u.1 (hr.2.2 (u.1, ()) trivial) hu⟩

end Run

namespace Interruptible

/-- An operation that begins in a state keeps an invariant, is made of steps and ends as is
asked. -/
def Safe (inv : σ × δ → Prop) (step : σ → σ → Prop) (p : Interruptible σ ι α)
    (post : α → σ × δ → Prop) (s : σ × δ) : Prop :=
  (p s.1).Safe inv step post s.1 s.2

variable {inv : σ × δ → Prop} {step : σ → σ → Prop} {post : α → σ × δ → Prop} {s : σ × δ}

/-- Operations that follow one another keep the invariant if both do. -/
theorem Safe.bind {mid : β → σ × δ → Prop} {p : Interruptible σ ι β}
    {q : β → Interruptible σ ι α} (hp : p.Safe inv step mid s)
    (hq : ∀ b u, mid b u → (q b).Safe inv step post u) : (p >>= q).Safe inv step post s :=
  Run.Safe.bind hp hq

/-- Doing nothing ends as is asked if that holds already. -/
theorem safe_pure {a : α} (h : post a s) : (pure a : Interruptible σ ι α).Safe inv step post s :=
  ⟨.refl, h⟩

/-- A single act is a step and ends as is asked. -/
theorem safe_act {f : σ → α × σ} (hstep : step s.1 (f s.1).2)
    (h : post (f s.1).1 ((f s.1).2, s.2)) :
    (act f : Interruptible σ ι α).Safe inv step post s :=
  ⟨.single hstep, h⟩

/-- A question ends as is asked if that holds of its answer. -/
theorem safe_ask {f : σ → α} (h : post (f s.1) s) :
    (ask f : Interruptible σ ι α).Safe inv step post s :=
  ⟨.refl, h⟩

/-- A change is a step and ends as is asked. -/
theorem safe_change {f : σ → σ} {post : Unit → σ × δ → Prop} (hstep : step s.1 (f s.1))
    (h : post () (f s.1, s.2)) : (change f : Interruptible σ ι Unit).Safe inv step post s :=
  ⟨.single hstep, h⟩

/-- An interruption keeps the invariant, which is all that is known behind it. -/
theorem safe_interrupt {i : ι} {post : Unit → σ × δ → Prop} (hs : inv s)
    (h : ∀ u, inv u → post () u) : (interrupt i : Interruptible σ ι Unit).Safe inv step post s :=
  ⟨.refl, hs, fun u hu => ⟨.refl, h u hu⟩⟩

/-- What each item keeps, all keep. -/
theorem safe_each {f : β → Interruptible σ ι Unit} (xs : List β)
    (hf : ∀ x ∈ xs, ∀ u, inv u → (f x).Safe inv step (fun _ => inv) u) (hs : inv s) :
    (each f xs).Safe inv step (fun _ => inv) s := by
  induction xs generalizing s with
  | nil => exact safe_pure hs
  | cons x rest ih =>
    apply Safe.bind (hf x List.mem_cons_self s hs)
    intro _ u hu
    exact ih (fun y hy => hf y (List.mem_cons_of_mem x hy)) hu

/-! ### Operations that are made of steps -/

/-- Whatever the outside does at its interruptions, an operation is made of steps. -/
def MadeOf (step : σ → σ → Prop) (p : Interruptible σ ι α) : Prop :=
  ∀ s : σ × Unit, p.Safe (fun _ => True) step (fun _ _ => True) s

/-- Doing nothing is made of steps. -/
theorem madeOf_pure (a : α) : (pure a : Interruptible σ ι α).MadeOf step :=
  fun _ => safe_pure trivial

/-- A question is made of steps. -/
theorem madeOf_ask (f : σ → α) : (ask f : Interruptible σ ι α).MadeOf step :=
  fun _ => safe_ask trivial

/-- An interruption is made of steps. -/
theorem madeOf_interrupt (i : ι) : (interrupt i).MadeOf step :=
  fun _ => safe_interrupt trivial fun _ _ => trivial

/-- A single act that comes about by steps is made of steps. -/
theorem madeOf_act {f : σ → α × σ} (hf : ∀ s, ReflTransGen step s (f s).2) :
    (act f : Interruptible σ ι α).MadeOf step :=
  fun s => ⟨hf s.1, trivial⟩

/-- A change that comes about by steps is made of steps. -/
theorem madeOf_change {f : σ → σ} (hf : ∀ s, ReflTransGen step s (f s)) :
    (change f : Interruptible σ ι Unit).MadeOf step :=
  fun s => ⟨hf s.1, trivial⟩

/-- Operations that follow one another are made of steps if both are. -/
theorem MadeOf.bind {p : Interruptible σ ι β} {q : β → Interruptible σ ι α} (hp : p.MadeOf step)
    (hq : ∀ b, (q b).MadeOf step) : (p >>= q).MadeOf step :=
  fun s => Safe.bind (hp s) fun b u _ => hq b u

/-- A choice between operations is made of steps if both are. -/
theorem MadeOf.ite {c : Prop} [Decidable c] {p q : Interruptible σ ι α} (hp : p.MadeOf step)
    (hq : q.MadeOf step) : (if c then p else q).MadeOf step := by
  split
  · exact hp
  · exact hq

/-- Operations for all in a list are made of steps if each one is. -/
theorem madeOf_each {f : β → Interruptible σ ι Unit} (hf : ∀ x, (f x).MadeOf step) (xs : List β) :
    (each f xs).MadeOf step :=
  fun _ => safe_each xs (fun x _ u _ => hf x u) trivial

/-- What is made of steps is made of more general ones. -/
theorem MadeOf.mono {step' : σ → σ → Prop} {p : Interruptible σ ι α} (hp : p.MadeOf step)
    (h : ∀ s t, step s t → step' s t) : p.MadeOf step' :=
  fun s => Run.Safe.mono (hp s) h

/-- What every step keeps, an operation that is made of such steps keeps. -/
theorem MadeOf.safe {p : Interruptible σ ι α} (hp : p.MadeOf step)
    (hstep : ∀ a b d, step a b → inv (a, d) → inv (b, d)) (hs : inv s) :
    p.Safe inv step (fun _ => inv) s :=
  Run.Safe.keeps (hp (s.1, ())) hstep hs

/-- An operation leaves alone what no step and nobody outside changes. -/
theorem MadeOf.keeps {ν : Type} {view : σ → ν} {outside : ι → σ × δ → σ × δ → Prop}
    {p : Interruptible σ ι α} (hp : p.MadeOf step) (hstep : ∀ s t, step s t → view t = view s)
    (hout : ∀ i s t, outside i s t → view t.1 = view s.1) : p.Keeps outside view := by
  intro s a t h
  have hsafe : p.Safe (fun u => view u.1 = view s.1) step (fun _ u => view u.1 = view s.1) s :=
    hp.safe (fun a b _ hab ha => (hstep a b hab).trans ha) rfl
  exact hsafe.ends (fun i u v hu hv => (hout i u v hu).trans hv) h

end Interruptible

/-- A state, with what the outside remembers, and the suspended operations. -/
structure Stage (σ ι δ : Type) where
  state : σ × δ
  waiting : List (Interruptible σ ι Unit)

namespace Stage

/-- Performs an operation up to its first interruption, or to its end if there is none. -/
def perform (p : Interruptible σ ι Unit) (s : σ × δ) (waiting : List (Interruptible σ ι Unit)) :
    Stage σ ι δ :=
  match p s.1 with
  | .done t _ => ⟨(t, s.2), waiting⟩
  | .pause t _ k => ⟨(t, s.2), k :: waiting⟩

/-- What can happen next. -/
inductive Step (begins : Interruptible σ ι Unit → Prop) (acts : σ × δ → σ × δ → Prop) :
    Stage σ ι δ → Stage σ ι δ → Prop where
  /-- An operation begins. -/
  | begin {p s waiting} (h : begins p) : Step begins acts ⟨s, waiting⟩ (perform p s waiting)
  /-- A suspended operation goes on. -/
  | resume {p s} (before after) :
    Step begins acts ⟨s, before ++ p :: after⟩ (perform p s (before ++ after))
  /-- The outside acts. -/
  | act {s t waiting} (h : acts s t) : Step begins acts ⟨s, waiting⟩ ⟨t, waiting⟩

end Stage

/-- A suspended operation. -/
structure Suspended (σ ι : Type) where
  /-- What it began as. -/
  begun : Interruptible σ ι Unit
  /-- What is left of it. -/
  rest : Interruptible σ ι Unit

/-- A stage on which it is known what each suspended operation began as. -/
structure Agenda (σ ι δ : Type) where
  state : σ × δ
  waiting : List (Suspended σ ι)

namespace Agenda

/-- Whose a step is. -/
inductive Turn (σ ι : Type) where
  /-- An operation begins. -/
  | begin (p : Interruptible σ ι Unit)
  /-- What began as an operation goes on. -/
  | resume (p : Interruptible σ ι Unit)
  /-- The outside acts. -/
  | outside

/-- Performs what is left of an operation up to its next interruption, or to its end. -/
def perform (e : Suspended σ ι) (s : σ × δ) (waiting : List (Suspended σ ι)) : Agenda σ ι δ where
  state := ((e.rest s.1).reached, s.2)
  waiting := (e.rest s.1).left.toList.map (Suspended.mk e.begun) ++ waiting

/-- What can happen next. -/
inductive Step (begins : Interruptible σ ι Unit → Prop) (acts : σ × δ → σ × δ → Prop) :
    Turn σ ι → Agenda σ ι δ → Agenda σ ι δ → Prop where
  /-- An operation begins. -/
  | begin {p s waiting} (h : begins p) :
    Step begins acts (.begin p) ⟨s, waiting⟩ (perform ⟨p, p⟩ s waiting)
  /-- A suspended operation goes on. -/
  | resume {e s} (before after) :
    Step begins acts (.resume e.begun) ⟨s, before ++ e :: after⟩ (perform e s (before ++ after))
  /-- The outside acts. -/
  | act {s t waiting} (h : acts s t) : Step begins acts .outside ⟨s, waiting⟩ ⟨t, waiting⟩

/-- What can happen in the course of certain turns. -/
def Reaches (begins : Interruptible σ ι Unit → Prop) (acts : σ × δ → σ × δ → Prop)
    (turns : Turn σ ι → Prop) : Agenda σ ι δ → Agenda σ ι δ → Prop :=
  ReflTransGen fun a b => ∃ turn, turns turn ∧ Step begins acts turn a b

/-- An agenda as a stage. -/
def stage (a : Agenda σ ι δ) : Stage σ ι δ := ⟨a.state, a.waiting.map (·.rest)⟩

/-- Performing an operation on an agenda is performing it on the stage. -/
theorem stage_perform (e : Suspended σ ι) (s : σ × δ) (waiting : List (Suspended σ ι)) :
    (perform e s waiting).stage = Stage.perform e.rest s (waiting.map (·.rest)) := by
  unfold perform stage Stage.perform
  cases e.rest s.1 <;> rfl

variable {begins : Interruptible σ ι Unit → Prop} {acts : σ × δ → σ × δ → Prop}
  {a b : Agenda σ ι δ} {turn : Turn σ ι}

/-- Whatever can be reached can be reached with knowledge of what the operations began as. -/
theorem of_reached {g : Stage σ ι δ}
    (hg : ReflTransGen (Stage.Step begins acts) a.stage g) :
    ∃ b : Agenda σ ι δ, b.stage = g ∧ Reaches begins acts (fun _ => True) a b := by
  induction hg with
  | refl => exact ⟨a, rfl, .refl⟩
  | tail _ hstep ih =>
    obtain ⟨⟨s, waiting⟩, rfl, hb⟩ := ih
    suffices h : ∃ turn c, Agenda.stage c = _ ∧ Step begins acts turn ⟨s, waiting⟩ c by
      obtain ⟨turn, c, hc, hturn⟩ := h
      exact ⟨c, hc, hb.tail ⟨turn, trivial, hturn⟩⟩
    generalize hstage : Agenda.stage ⟨s, waiting⟩ = g at hstep
    cases hstep with
    | begin h =>
      cases hstage
      exact ⟨_, _, stage_perform _ s waiting, .begin h⟩
    | resume before after =>
      injection hstage with hs hwaiting
      subst hs
      obtain ⟨before, rest, rfl, rfl, hrest⟩ := List.map_eq_append_iff.1 hwaiting
      obtain ⟨e, after, rfl, rfl, rfl⟩ := List.map_eq_cons_iff.1 hrest
      refine ⟨_, _, (stage_perform e s _).trans ?_, .resume before after⟩
      rw [List.map_append]
    | act h =>
      cases hstage
      exact ⟨_, ⟨_, waiting⟩, rfl, .act h⟩

/-- Operations leave alone what the outside remembers. -/
theorem Step.remembered (h : Step begins acts turn a b) (hturn : turn ≠ .outside) :
    b.state.2 = a.state.2 := by
  cases h with
  | begin h => rfl
  | resume before after => rfl
  | act h => exact absurd rfl hturn

/-- A suspended operation can go on wherever the invariant holds. -/
structure Sound (inv : σ × δ → Prop) (step : Interruptible σ ι Unit → σ → σ → Prop)
    (a : Agenda σ ι δ) : Prop where
  invariant : inv a.state
  waiting : ∀ e ∈ a.waiting, ∀ s, inv s → e.rest.Safe inv (step e.begun) (fun _ => inv) s

variable {inv : σ × δ → Prop} {step : Interruptible σ ι Unit → σ → σ → Prop}

/-- An operation that is performed leaves the agenda sound, and gets there by its steps. -/
theorem sound_perform {e : Suspended σ ι} {s : σ × δ} {o : σ} {waiting : List (Suspended σ ι)}
    (he : (e.rest s.1).Safe inv (step e.begun) (fun _ => inv) o s.2)
    (hw : ∀ e ∈ waiting, ∀ t, inv t → e.rest.Safe inv (step e.begun) (fun _ => inv) t) :
    (perform e s waiting).Sound inv step ∧
      ReflTransGen (step e.begun) o (perform e s waiting).state.1 := by
  unfold perform
  cases hr : e.rest s.1 with
  | done t x =>
    rw [hr] at he
    exact ⟨⟨he.2, hw⟩, he.1⟩
  | pause t i k =>
    rw [hr] at he
    refine ⟨⟨he.2.1, fun d hd => ?_⟩, he.1⟩
    rcases List.mem_cons.1 hd with rfl | hd
    · exact he.2.2
    · exact hw d hd

/-- An operation can begin wherever the invariant holds. What it does up to its first interruption
need not be made of its steps. -/
def Opens (inv : σ × δ → Prop) (step : σ → σ → Prop) (p : Interruptible σ ι Unit) : Prop :=
  ∀ s, inv s → ∃ o, (p s.1).Safe inv step (fun _ => inv) o s.2

/-- A suspended operation that goes on makes its steps. -/
theorem Sound.resume (ha : a.Sound inv step) {p : Interruptible σ ι Unit}
    (h : Step begins acts (.resume p) a b) :
    b.Sound inv step ∧ ReflTransGen (step p) a.state.1 b.state.1 := by
  cases h with
  | @resume e s before after =>
    refine sound_perform (ha.waiting e (by simp) s ha.invariant) fun d hd => ha.waiting d ?_
    rcases List.mem_append.1 hd with hd | hd
    · exact List.mem_append_left _ hd
    · exact List.mem_append_right _ (List.mem_cons_of_mem e hd)

/-- So does one that begins, if it is safe from the beginning. -/
theorem Sound.begin (ha : a.Sound inv step) {p : Interruptible σ ι Unit}
    (hp : p.Safe inv (step p) (fun _ => inv) a.state) (h : Step begins acts (.begin p) a b) :
    b.Sound inv step ∧ ReflTransGen (step p) a.state.1 b.state.1 := by
  cases h with
  | begin h => exact sound_perform hp ha.waiting

variable (hbegins : ∀ p, begins p → Opens inv (step p) p) (hacts : ∀ s t, acts s t → inv s → inv t)
include hbegins hacts

/-- What every operation and every act of the outside keep holds after each turn. -/
theorem Sound.keeps (ha : a.Sound inv step) (h : Step begins acts turn a b) :
    b.Sound inv step := by
  cases turn with
  | begin p =>
    cases h with
    | @begin p s waiting h =>
      obtain ⟨o, ho⟩ := hbegins p h s ha.invariant
      exact (sound_perform (e := ⟨p, p⟩) ho ha.waiting).1
  | resume p => exact (ha.resume h).1
  | outside =>
    cases h with
    | act h => exact ⟨hacts _ _ h ha.invariant, ha.waiting⟩

/-- Whatever is reached from a sound agenda is sound. -/
theorem Sound.reaches {turns : Turn σ ι → Prop} (ha : a.Sound inv step)
    (h : Reaches begins acts turns a b) : b.Sound inv step := by
  induction h with
  | refl => exact ha
  | tail _ hstep ih =>
    obtain ⟨turn, -, hstep⟩ := hstep
    exact ih.keeps hbegins hacts hstep

end Agenda

/-- What every operation and every act of the outside keep holds on every stage that is reached. -/
theorem Stage.invariant {begins : Interruptible σ ι Unit → Prop} {acts : σ × δ → σ × δ → Prop}
    {inv : σ × δ → Prop} {step : Interruptible σ ι Unit → σ → σ → Prop}
    (hbegins : ∀ p, begins p → Agenda.Opens inv (step p) p)
    (hacts : ∀ s t, acts s t → inv s → inv t) {s : σ × δ} (hs : inv s) {g : Stage σ ι δ}
    (hg : ReflTransGen (Stage.Step begins acts) ⟨s, []⟩ g) : inv g.state := by
  obtain ⟨b, rfl, hb⟩ := Agenda.of_reached (a := ⟨s, []⟩) hg
  have hsound : Agenda.Sound inv step (⟨s, []⟩ : Agenda σ ι δ) :=
    ⟨hs, fun e he => absurd he List.not_mem_nil⟩
  exact (hsound.reaches hbegins hacts hb).invariant

end ServiceRegistry
