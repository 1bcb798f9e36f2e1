import ServiceRegistry.Proofs.HostChanges
import ServiceRegistry.Proofs.Runs
import ServiceRegistry.World.Lifecycle

/-!
# Host operations as sequences of announced changes

Whatever the outside does at the interruptions, a call on a host is a sequence of steps: a change of
the host's list with the full delivery of the event that announces it (`Announces`), or the
replacement of a module object with the report and the event that follow it (`Replaces`). A property
that each step keeps is kept by every call (`HostCall.steps`).

A replacement in the middle of an update finds the module in whatever state the listeners have left
it; `may` stands for what is known of the world at that moment.
-/

namespace ServiceRegistry

/-- Performs an operation and forgets its answer. -/
def Interruptible.forget {σ ι α : Type} (p : Interruptible σ ι α) : Interruptible σ ι Unit := do
  let _ ← p
  pure ()

/-- An operation whose answer is forgotten ends where it would have ended. -/
@[simp] theorem Interruptible.ends_forget {σ ι α δ : Type} {outside : ι → σ × δ → σ × δ → Prop}
    (p : Interruptible σ ι α) (s t : σ × δ) (a : Unit) :
    p.forget.Ends outside s a t ↔ ∃ b, p.Ends outside s b t := by
  unfold Interruptible.forget
  rw [ends_bind]
  constructor
  · rintro ⟨b, u, h, -, rfl⟩
    exact ⟨b, h⟩
  · rintro ⟨b, h⟩
    exact ⟨b, t, h, rfl, rfl⟩

/-- What can be asked of a host that changes its list. -/
inductive HostCall where
  | install (m : Module)
  | update (m : Module)
  | resolve (id : ModuleId)
  | start (id : ModuleId)
  | stop (id : ModuleId)
  | unresolve (id : ModuleId)
  | uninstall (id : ModuleId)
deriving DecidableEq

/-- The number of the module that a call is about. -/
def HostCall.subject : HostCall → ModuleId
  | install m => m.id
  | update m => m.id
  | resolve id => id
  | start id => id
  | stop id => id
  | unresolve id => id
  | uninstall id => id

/-- The module object that a call brings, if any, is one of some module objects. -/
def HostCall.Brings (ms : Module → Prop) : HostCall → Prop
  | install m => ms m
  | update m => ms m
  | _ => True

/-- A module object that is one of some is one of more. -/
theorem HostCall.Brings.mono {ms ms' : Module → Prop} {call : HostCall} (h : call.Brings ms)
    (hms : ∀ m, ms m → ms' m) : call.Brings ms' := by
  cases call with
  | install m => exact hms m h
  | update m => exact hms m h
  | resolve id => exact h
  | start id => exact h
  | stop id => exact h
  | unresolve id => exact h
  | uninstall id => exact h

/-- The operation that a call performs on a host. -/
def HostCall.work (n : Nat) : HostCall → Work Unit
  | install m => (World.install n m).forget
  | update m => (World.update n m).forget
  | resolve id => (World.resolve n id).forget
  | start id => (World.start n id).forget
  | stop id => (World.stop n id).forget
  | unresolve id => (World.unresolve n id).forget
  | uninstall id => (World.uninstall n id).forget

open World Interruptible

variable {δ : Type} {outside : Signal → World × δ → World × δ → Prop} {n : Nat}
  {s t : World × δ}

/-- A host changes as an event announces, and the event is delivered. -/
def Announces (outside : Signal → World × δ → World × δ → Prop) (n : Nat) (e : Event)
    (s t : World × δ) : Prop :=
  ∃ h, (s.1.host n).Changes e h ∧ (publish n e).Ends outside (s.1.setHost n h, s.2) () t

/-- A host replaces a module object, which is reported and announced. -/
def Replaces (outside : Signal → World × δ → World × δ → Prop) (n : Nat) (m : Module)
    (s t : World × δ) : Prop :=
  ∃ h u, (s.1.host n).replace m = .ok h ∧
    outside (.reported (.replaced n m)) (s.1.setHost n h, s.2) u ∧
    (publish n ⟨.updated, m⟩).Ends outside u () t

/-- A step of a call. -/
inductive HostStep (outside : Signal → World × δ → World × δ → Prop) (n : Nat)
    (may : World × δ → ModuleId → Prop) (call : HostCall) (s t : World × δ) : Prop where
  /-- The host is written back as it is. -/
  | idle (h : t = (s.1.setHost n (s.1.host n), s.2))
  | announces {e : Event} (hsubject : e.module.id = call.subject)
      (hcall : e.kind = .installed → call = .install e.module) (h : Announces outside n e s t)
  | replaces {m : Module} (hcall : call = .update m) (hmay : may s m.id)
      (h : Replaces outside n m s t)

/-- A change of state is one announced change; without one the rule asked for none. -/
theorem ends_changeState {id : ModuleId}
    {rule : ModuleState → Except HostError (Option ModuleState)} {kind : EventKind}
    (hrule : ∀ s s', rule s = .ok (some s') → Host.Moves kind s s')
    {a : Except HostError Unit} (h : (changeState n id rule kind).Ends outside s a t) :
    (∃ m, m.id = id ∧ Announces outside n ⟨kind, m⟩ s t) ∨
      (t = s ∨ t = (s.1.setHost n (s.1.host n), s.2)) ∧
        ∀ e s', (s.1.host n).hosted? id = some e → rule e.state ≠ .ok (some s') := by
  unfold changeState at h
  rw [ends_bind] at h
  obtain ⟨r, u, hu, h⟩ := h
  obtain ⟨rfl, rfl⟩ := (ends_act _ _).1 hu
  unfold tryHost at h
  have hnone (hchanged : ∀ m h', (s.1.host n).transition id rule ≠ .ok (some m, h')) (e : Hosted)
      (s' : ModuleState) (he : (s.1.host n).hosted? id = some e) : rule e.state ≠ .ok (some s') :=
    fun hs => hchanged _ _ (Host.transition_of_rule he hs)
  cases ht : (s.1.host n).transition id rule with
  | error refusal =>
    simp only [ht] at h hnone
    obtain ⟨-, rfl⟩ := h
    exact .inr ⟨.inl rfl, hnone fun m h' hc => by cases hc⟩
  | ok answer =>
    obtain ⟨changed, h'⟩ := answer
    simp only [ht] at h hnone
    rw [ends_bind] at h
    obtain ⟨_, v, hv, -, rfl⟩ := h
    cases changed with
    | none =>
      obtain ⟨-, rfl⟩ := hv
      rw [Host.eq_of_transition ht]
      exact .inr ⟨.inr rfl, hnone fun m h' hc => by cases hc⟩
    | some m =>
      obtain ⟨hid, hchange⟩ := Host.changes_transition hrule ht
      exact .inl ⟨m, hid, h', hchange, hv⟩

variable {may : World × δ → ModuleId → Prop} {call : HostCall}

/-- The steps of a call, one after another. -/
abbrev HostSteps (outside : Signal → World × δ → World × δ → Prop) (n : Nat)
    (may : World × δ → ModuleId → Prop) (call : HostCall) : World × δ → World × δ → Prop :=
  Relation.ReflTransGen (HostStep outside n may call)

/-- A change of state is at most one step. -/
theorem steps_changeState {id : ModuleId}
    {rule : ModuleState → Except HostError (Option ModuleState)} {kind : EventKind}
    (hrule : ∀ s s', rule s = .ok (some s') → Host.Moves kind s s')
    {a : Except HostError Unit} (h : (changeState n id rule kind).Ends outside s a t)
    (hkind : kind ≠ .installed) (hsubject : id = call.subject) :
    HostSteps outside n may call s t := by
  obtain ⟨m, hid, h⟩ | ⟨rfl | h, -⟩ := ends_changeState hrule h
  · exact .single (.announces (hid.trans hsubject) (fun hc => absurd hc hkind) h)
  · exact .refl
  · exact .single (.idle h)

/-- To resolve a module is at most one step. -/
theorem steps_resolve {id : ModuleId} {a : Except HostError Unit}
    (h : (resolve n id).Ends outside s a t) (hsubject : id = call.subject) :
    HostSteps outside n may call s t :=
  steps_changeState (fun _ _ => Host.moves_resolveRule) h (by decide) hsubject

/-- To unresolve a module is at most one step. -/
theorem steps_unresolve {id : ModuleId} {a : Except HostError Unit}
    (h : (unresolve n id).Ends outside s a t) (hsubject : id = call.subject) :
    HostSteps outside n may call s t :=
  steps_changeState (fun _ _ => Host.moves_unresolveRule) h (by decide) hsubject

/-- Unresolving an available module is announced. -/
theorem announces_unresolve {id : ModuleId} {e : Hosted} {a : Except HostError Unit}
    (h : (unresolve n id).Ends outside s a t) (he : (s.1.host n).hosted? id = some e)
    (hs : e.state.isResolved = true) :
    ∃ m, m.id = id ∧ Announces outside n ⟨.unresolved, m⟩ s t := by
  obtain h | ⟨-, hnone⟩ := ends_changeState (fun _ _ => Host.moves_unresolveRule) h
  · exact h
  · exact absurd (by simp [Host.unresolveRule, hs]) (hnone e .installed he)

/-- An installation is at most one step, and the only one that announces a new module. -/
theorem steps_install {m : Module} {a : Except HostError ModuleId}
    (h : (install n m).Ends outside s a t) : HostSteps outside n may (.install m) s t := by
  unfold install at h
  rw [ends_bind] at h
  obtain ⟨r, u, hu, h⟩ := h
  obtain ⟨rfl, rfl⟩ := (ends_act _ _).1 hu
  unfold tryHost at h
  cases hm : (s.1.host n).install m with
  | error refusal =>
    simp only [hm, Except.map] at h
    obtain ⟨-, rfl⟩ := h
    exact .refl
  | ok h' =>
    simp only [hm, Except.map] at h
    rw [ends_bind] at h
    obtain ⟨_, v, hv, -, rfl⟩ := h
    exact .single (.announces rfl (fun _ => rfl) ⟨h', .install hm, hv⟩)

/-- A start is at most two steps, of which the first resolves the module. -/
theorem steps_start {id : ModuleId} {a : Except HostError Unit}
    (h : (start n id).Ends outside s a t) (hsubject : id = call.subject) :
    HostSteps outside n may call s t := by
  unfold start at h
  rw [ends_bind] at h
  obtain ⟨r, u, hu, h⟩ := h
  apply (steps_resolve hu hsubject).trans
  cases r with
  | error refusal =>
    obtain ⟨-, rfl⟩ := h
    exact .refl
  | ok _ => exact steps_changeState (fun _ _ => Host.moves_startRule) h (by decide) hsubject

/-- An uninstallation is at most two steps, of which the first unresolves the module. -/
theorem steps_uninstall {id : ModuleId} {a : Except HostError Unit}
    (h : (uninstall n id).Ends outside s a t) (hsubject : id = call.subject) :
    HostSteps outside n may call s t := by
  unfold uninstall at h
  rw [ends_bind] at h
  obtain ⟨r, u, hu, h⟩ := h
  apply (steps_unresolve hu hsubject).trans
  cases r with
  | error refusal =>
    obtain ⟨-, rfl⟩ := h
    exact .refl
  | ok _ =>
    rw [ends_bind] at h
    obtain ⟨r, v, hv, h⟩ := h
    obtain ⟨rfl, rfl⟩ := (ends_act _ _).1 hv
    unfold tryHost at h
    cases hm : (u.1.host n).remove id with
    | error refusal =>
      simp only [hm] at h
      obtain ⟨-, rfl⟩ := h
      exact .refl
    | ok answer =>
      obtain ⟨m, h'⟩ := answer
      simp only [hm] at h
      rw [ends_bind] at h
      obtain ⟨_, v, hpublish, -, rfl⟩ := h
      obtain ⟨⟨state, he⟩, -⟩ := Host.remove_eq_ok hm
      have hid : m.id = id := Host.id_of_hosted? he
      subst hid
      exact .single (.announces hsubject (fun hc => by cases hc) ⟨h', .remove hm, hpublish⟩)

/-- The exchange of an object is a replacement, after which the module may be resolved. -/
theorem steps_exchange {m : Module} {andResolve : Bool} {a : Except HostError Unit}
    (h : (exchange n m andResolve).Ends outside s a t) (hmay : may s m.id) :
    HostSteps outside n may (.update m) s t := by
  unfold exchange at h
  rw [ends_bind] at h
  obtain ⟨r, u, hu, h⟩ := h
  obtain ⟨rfl, rfl⟩ := (ends_act _ _).1 hu
  unfold tryHost at h
  cases hm : (s.1.host n).replace m with
  | error refusal =>
    simp only [hm, Except.map] at h
    obtain ⟨-, rfl⟩ := h
    exact .refl
  | ok h' =>
    simp only [hm, Except.map, ends_bind, ends_interrupt] at h
    obtain ⟨_, u, hu, _, v, hv, h⟩ := h
    refine .head (.replaces rfl hmay ⟨h', u, hm, hu, hv⟩) ?_
    split at h
    · exact steps_resolve h rfl
    · obtain ⟨-, rfl⟩ := h
      exact .refl

/-- An update unresolves an available module and exchanges the object of an unavailable one at once.
-/
theorem steps_update {m : Module} {a : Except HostError Unit}
    (h : (update n m).Ends outside s a t)
    (hunavailable : (s.1.host n).available? m.id = none → may s m.id)
    (hafter : ∀ d u, d.id = m.id → Announces outside n ⟨.unresolved, d⟩ s u → may u m.id) :
    HostSteps outside n may (.update m) s t := by
  unfold update at h
  rw [ends_bind] at h
  obtain ⟨r, u, hu, h⟩ := h
  obtain ⟨rfl, rfl⟩ := (ends_ask _ _).1 hu
  cases he : (u.1.host n).hosted? m.id with
  | none =>
    simp only [Host.state?, he, Option.map_none] at h
    obtain ⟨-, rfl⟩ := h
    exact .refl
  | some e =>
    simp only [Host.state?, he, Option.map_some] at h
    by_cases hs : e.state.isResolved = true
    · rw [if_pos hs, ends_bind] at h
      obtain ⟨r, v, hv, h⟩ := h
      obtain ⟨d, hid, hannounce⟩ := announces_unresolve hv he hs
      apply (steps_unresolve hv rfl).trans
      cases r with
      | error refusal =>
        obtain ⟨-, rfl⟩ := h
        exact .refl
      | ok _ => exact steps_exchange h (hafter d v hid hannounce)
    · rw [if_neg hs] at h
      exact steps_exchange h (hunavailable (by simp [Host.available?, he, hs]))

/-- Every call is a sequence of its steps. -/
theorem HostCall.steps (h : (call.work n).Ends outside s () t)
    (hunavailable : ∀ id, (s.1.host n).available? id = none → may s id)
    (hafter : ∀ d u, d.id = call.subject → Announces outside n ⟨.unresolved, d⟩ s u →
      may u d.id) :
    HostSteps outside n may call s t := by
  cases call with
  | install m =>
    obtain ⟨a, h⟩ := (ends_forget _ _ _ _).1 h
    exact steps_install h
  | update m =>
    obtain ⟨a, h⟩ := (ends_forget _ _ _ _).1 h
    exact steps_update h (hunavailable m.id) fun d u hid hu => hid ▸ hafter d u hid hu
  | resolve id =>
    obtain ⟨a, h⟩ := (ends_forget _ _ _ _).1 h
    exact steps_resolve h rfl
  | start id =>
    obtain ⟨a, h⟩ := (ends_forget _ _ _ _).1 h
    exact steps_start h rfl
  | stop id =>
    obtain ⟨a, h⟩ := (ends_forget _ _ _ _).1 h
    exact steps_changeState (fun _ _ => Host.moves_stopRule) h (by decide) rfl
  | unresolve id =>
    obtain ⟨a, h⟩ := (ends_forget _ _ _ _).1 h
    exact steps_unresolve h rfl
  | uninstall id =>
    obtain ⟨a, h⟩ := (ends_forget _ _ _ _).1 h
    exact steps_uninstall h rfl

end ServiceRegistry
