import ServiceRegistry.Proofs.FollowerCalls
import ServiceRegistry.Proofs.Hearing
import ServiceRegistry.Proofs.HostCalls

/-!
# What a host refuses

A host refuses to install a module whose number it lists, and it refuses every other call for a
number that it does not list (`HostCall.refusal?`). Nothing else is ever refused: the rules on
states have an answer for each state that occurs. A call that is refused ends at once, in the world
in which it began and without a signal. A call that is not refused succeeds, also where it makes
several changes and announces each before it makes the next (`answered_of_calls`).

All this is about calls that come one after another. Someone who changes the list while a change is
being announced can make the next change impossible, so whoever acts at the signals of a call is
taken to leave the list as it is (`LeavesList`); all else may change then.
-/

namespace ServiceRegistry

open World Interruptible

variable {α β δ : Type} {outside : Signal → World × δ → World × δ → Prop} {n : Nat} {id : ModuleId}
  {s t u : World × δ} {w : World} {e : Hosted} {call : HostCall} {a : Except HostError Unit}

/-! ## Calls and their answers -/

namespace HostCall

/-- What a caller sees of an answer. -/
def seen {α : Type} (answer : Except HostError α) : Except Error Unit :=
  (answer.map fun _ => ()).mapError HostError.toError

/-- A call on a host, with its answer. -/
def answer (n : Nat) : HostCall → Work (Except Error Unit)
  | install m => do return seen (← World.install n m)
  | update m => do return seen (← World.update n m)
  | resolve id => do return seen (← World.resolve n id)
  | start id => do return seen (← World.start n id)
  | stop id => do return seen (← World.stop n id)
  | unresolve id => do return seen (← World.unresolve n id)
  | uninstall id => do return seen (← World.uninstall n id)

/-- The error with which a host refuses a call, if it does. -/
def refusal? (h : Host) : HostCall → Option Error
  | install m =>
    if (h.hosted? m.id).isSome then
      some (.invalidInput ("module " ++ m.id.text ++ " is already installed"))
    else none
  | call => if (h.hosted? call.subject).isSome then none else some (.moduleNotFound call.subject)

end HostCall

/-- The modules that a host lists, with their states. -/
def World.listed (n : Nat) (w : World) : List Hosted := (w.host n).modules

/-- What is done at the signals leaves the list of a host. -/
def LeavesList (outside : Signal → World × δ → World × δ → Prop) (n : Nat) : Prop :=
  ∀ i s t, outside i s t → t.1.listed n = s.1.listed n

/-- One call after another on a host, and whatever else leaves its list between them. -/
inductive TopLevel (outside : Signal → World × δ → World × δ → Prop) (n : Nat) (s t : World × δ) :
    Prop where
  | call {call : HostCall} {a : Except Error Unit} (h : (call.answer n).Ends outside s a t)
  | besides (h : t.1.listed n = s.1.listed n)

/-- How a host answers a call. -/
structure Answered (outside : Signal → World × δ → World × δ → Prop) (n : Nat) (s : World × δ)
    (call : HostCall) : Prop where
  /-- A call that is refused ends at once. Nothing has changed and nobody has heard of it. -/
  refused : ∀ refusal, call.refusal? (s.1.host n) = some refusal →
    call.answer n s.1 = .done s.1 (.error refusal)
  /-- A call that is not refused succeeds. -/
  accepted : call.refusal? (s.1.host n) = none →
    ∀ a t, (call.answer n).Ends outside s a t → a = .ok ()
  /-- A call comes to its end if those who act at its signals do. -/
  ends : (∀ i u, ∃ v, outside i u v) → ∃ a t, (call.answer n).Ends outside s a t

/-! ## The states that occur -/

/-- A state in which a host lists modules. -/
def ModuleState.Occurs (state : ModuleState) : Prop :=
  state = .installed ∨ state = .resolved ∨ state = .active

/-- A host lists modules only in states that occur. -/
def Host.Regular (h : Host) : Prop := ∀ d ∈ h.modules, d.state.Occurs

namespace Host

variable {h h' : Host} {m : Module}

/-- Which module is listed depends on the list only. -/
theorem hosted?_congr (hm : h'.modules = h.modules) (id : ModuleId) :
    h'.hosted? id = h.hosted? id := by
  unfold hosted?
  rw [hm]

/-- Which states a host lists depends on the list only. -/
theorem Regular.congr (hr : h.Regular) (hm : h'.modules = h.modules) : h'.Regular := by
  unfold Regular
  rw [hm]
  exact hr

/-- A module that is listed is in a state that occurs. -/
theorem Regular.of_hosted? (hr : h.Regular) (he : h.hosted? id = some e) : e.state.Occurs :=
  hr e (mem_of_hosted? he)

/-- A change of one entry that leads to such states only keeps the list regular. -/
theorem Regular.change {f : Hosted → Hosted} (hr : h.Regular)
    (hf : ∀ d, d.state.Occurs → (f d).state.Occurs) : (h.change id f).Regular := by
  intro d hd
  rcases mem_changeFirst hd with hd | ⟨c, hc, rfl⟩
  · exact hr d hd
  · exact hf c (hr c hc)

/-- An installed module starts in a state that occurs. -/
theorem Regular.install (hr : h.Regular) (hm : h.install m = .ok h') : h'.Regular := by
  intro d hd
  rw [(install_eq_ok hm).2.2] at hd
  rcases List.mem_append.1 hd with hd | hd
  · exact hr d hd
  · rw [List.mem_singleton.1 hd]
    exact .inl rfl

/-- Removing a module keeps the list regular. -/
theorem Regular.remove (hr : h.Regular) (hm : h.remove id = .ok (m, h')) : h'.Regular := by
  intro d hd
  rw [(remove_eq_ok hm).2.2] at hd
  exact hr d (List.mem_of_mem_eraseP hd)

/-- Replacing a module's object keeps the list regular. -/
theorem Regular.replace (hr : h.Regular) (hm : h.replace m = .ok h') : h'.Regular := by
  rw [replace_eq_ok hm]
  exact hr.change fun _ hd => hd

/-- A rule has an answer for each state that occurs, and leads to such states only. -/
def Covers (rule : ModuleState → Except HostError (Option ModuleState)) : Prop :=
  ∀ ⦃state⦄, state.Occurs → ∃ next, rule state = .ok next ∧ ∀ s' ∈ next, s'.Occurs

/-- Resolving has an answer in each state that occurs. -/
theorem covers_resolveRule (id : ModuleId) : Covers (resolveRule id) := by
  rintro state (rfl | rfl | rfl)
  · exact ⟨some .resolved, rfl, by simp [ModuleState.Occurs]⟩
  · exact ⟨none, rfl, nofun⟩
  · exact ⟨none, rfl, nofun⟩

/-- Stopping has an answer in each state that occurs. -/
theorem covers_stopRule (id : ModuleId) : Covers (stopRule id) := by
  rintro state (rfl | rfl | rfl)
  · exact ⟨none, rfl, nofun⟩
  · exact ⟨none, rfl, nofun⟩
  · exact ⟨some .resolved, rfl, by simp [ModuleState.Occurs]⟩

/-- Unresolving has an answer in each state that occurs. -/
theorem covers_unresolveRule : Covers unresolveRule := by
  rintro state (rfl | rfl | rfl)
  · exact ⟨none, rfl, nofun⟩
  · exact ⟨some .installed, rfl, by simp [ModuleState.Occurs]⟩
  · exact ⟨some .installed, rfl, by simp [ModuleState.Occurs]⟩

end Host

/-- Publishing an event changes no host's list. -/
theorem keeps_publish (ho : LeavesList outside n) (k : Nat) (ev : Event) :
    (publish k ev).Keeps outside (listed n) := by
  refine (madeOf_publish k ev).keeps (fun w w' h => ?_) ho
  obtain ⟨bus, hbus⟩ := h n
  unfold listed
  rw [hbus]

/-! ## Changes that can be refused -/

section TryHost

variable {f : Host → Except HostError (α × Host)} {q : Except HostError α → Work β}

/-- A request that a host accepts changes that host. -/
theorem tryHost_of_ok {w : World} {x : α} {h : Host} (hf : f (w.host n) = .ok (x, h)) :
    tryHost n f w = (.ok x, w.setHost n h) := by
  unfold tryHost
  rw [hf]

/-- A request that a host refuses changes nothing. -/
theorem tryHost_of_error {w : World} {refusal : HostError}
    (hf : f (w.host n) = .error refusal) : tryHost n f w = (.error refusal, w) := by
  unfold tryHost
  rw [hf]

/-- After a request that its host accepts the rest runs on the changed host. -/
theorem ends_bind_tryHost {x : α} {h : Host} (hf : f (s.1.host n) = .ok (x, h)) {b : β} :
    (act (tryHost n f) >>= q).Ends outside s b t ↔
      (q (.ok x)).Ends outside (s.1.setHost n h, s.2) b t := by
  rw [ends_bind]
  simp only [ends_act, tryHost_of_ok hf]
  constructor
  · rintro ⟨_, _, ⟨rfl, rfl⟩, h⟩
    exact h
  · exact fun h => ⟨_, _, ⟨rfl, rfl⟩, h⟩

/-- A refused change goes on in the world in which it was asked for. -/
theorem bind_tryHost_of_error {w : World} {refusal : HostError}
    (hf : f (w.host n) = .error refusal) : (act (tryHost n f) >>= q) w = q (.error refusal) w := by
  change (q (tryHost n f w).1) (tryHost n f w).2 = _
  rw [tryHost_of_error hf]

end TryHost

/-! ## Accepted calls -/

section Accepted

variable (ho : LeavesList outside n)
include ho

/-- A change of a host that is announced has succeeded, and its list stays while it is. -/
theorem ends_publish_listed {h : Host} {ev : Event}
    (hp : (publish n ev).Ends outside (s.1.setHost n h, s.2) () t) :
    (t.1.host n).modules = h.modules := by
  have hkept := keeps_publish ho n ev _ _ _ hp
  unfold listed at hkept
  rw [hkept, host_setHost, if_pos rfl]

/-- A change of state is made as its rule says. -/
theorem ends_changeState_of_rule {rule : ModuleState → Except HostError (Option ModuleState)}
    {kind : EventKind} {next : Option ModuleState} (hr : (s.1.host n).Regular)
    (he : (s.1.host n).hosted? id = some e) (hnext : rule e.state = .ok next)
    (hoccurs : ∀ state ∈ next, state.Occurs)
    (h : (changeState n id rule kind).Ends outside s a t) :
    a = .ok () ∧ (t.1.host n).Regular ∧
      (t.1.host n).hosted? id = some { e with state := next.getD e.state } := by
  unfold changeState at h
  cases next with
  | none =>
    have htransition : (s.1.host n).transition id rule = .ok (none, s.1.host n) := by
      simp only [Host.transition, he, hnext]
    rw [ends_bind_tryHost htransition, ends_bind] at h
    obtain ⟨_, v, ⟨-, rfl⟩, rfl, rfl⟩ := h
    rw [host_setHost, if_pos rfl]
    exact ⟨rfl, hr, he⟩
  | some state =>
    rw [ends_bind_tryHost (Host.transition_of_rule he hnext), ends_bind] at h
    obtain ⟨_, v, hv, rfl, rfl⟩ := h
    have hmodules := ends_publish_listed ho hv
    have hregular : ((s.1.host n).change id fun e => { e with state }).Regular :=
      hr.change fun d _ => hoccurs state rfl
    have hhosted : ((s.1.host n).change id fun e => { e with state }).hosted? id =
        some { e with state } := by
      rw [Host.hosted?_change (f := fun e => { e with state }) fun d hd => hd, if_pos rfl, he]
      rfl
    exact ⟨rfl, hregular.congr hmodules, (Host.hosted?_congr hmodules id).trans hhosted⟩

/-- Resolving makes a module available. -/
theorem ends_resolve_of_hosted (hr : (s.1.host n).Regular)
    (he : (s.1.host n).hosted? id = some e) (h : (resolve n id).Ends outside s a t) :
    a = .ok () ∧ (t.1.host n).Regular ∧
      ∃ e', (t.1.host n).hosted? id = some e' ∧ (e'.state = .resolved ∨ e'.state = .active) := by
  obtain ⟨next, hnext, hoccurs⟩ := Host.covers_resolveRule id (hr.of_hosted? he)
  obtain ⟨rfl, hregular, hhosted⟩ := ends_changeState_of_rule ho hr he hnext hoccurs h
  refine ⟨rfl, hregular, _, hhosted, ?_⟩
  rcases hr.of_hosted? he with hstate | hstate | hstate <;> rw [hstate] at hnext ⊢ <;> cases hnext
  · exact .inl rfl
  · exact .inl rfl
  · exact .inr rfl

/-- Unresolving leaves a module on the list. -/
theorem ends_unresolve_of_hosted (hr : (s.1.host n).Regular)
    (he : (s.1.host n).hosted? id = some e) (h : (unresolve n id).Ends outside s a t) :
    a = .ok () ∧ (t.1.host n).Regular ∧ ∃ e', (t.1.host n).hosted? id = some e' := by
  obtain ⟨next, hnext, hoccurs⟩ := Host.covers_unresolveRule (hr.of_hosted? he)
  obtain ⟨rfl, hregular, hhosted⟩ := ends_changeState_of_rule ho hr he hnext hoccurs h
  exact ⟨rfl, hregular, _, hhosted⟩

/-- Stopping a listed module succeeds and leaves the list regular. -/
theorem ends_stop_of_hosted (hr : (s.1.host n).Regular) (he : (s.1.host n).hosted? id = some e)
    (h : (stop n id).Ends outside s a t) : a = .ok () ∧ (t.1.host n).Regular := by
  obtain ⟨next, hnext, hoccurs⟩ := Host.covers_stopRule id (hr.of_hosted? he)
  obtain ⟨rfl, hregular, -⟩ := ends_changeState_of_rule ho hr he hnext hoccurs h
  exact ⟨rfl, hregular⟩

/-- Starting resolves first, so its own rule meets an available module. -/
theorem ends_start_of_hosted (hr : (s.1.host n).Regular) (he : (s.1.host n).hosted? id = some e)
    (h : (start n id).Ends outside s a t) : a = .ok () ∧ (t.1.host n).Regular := by
  unfold start at h
  rw [ends_bind] at h
  obtain ⟨r, u, hu, h⟩ := h
  obtain ⟨rfl, hregular, e', he', hstate⟩ := ends_resolve_of_hosted ho hr he hu
  have hrule : ∃ next, Host.startRule id e'.state = .ok next ∧ ∀ state ∈ next, state.Occurs := by
    rcases hstate with hstate | hstate <;> rw [hstate]
    · exact ⟨some .active, rfl, by simp [ModuleState.Occurs]⟩
    · exact ⟨none, rfl, nofun⟩
  obtain ⟨next, hnext, hoccurs⟩ := hrule
  obtain ⟨rfl, hdone, -⟩ := ends_changeState_of_rule ho hregular he' hnext hoccurs h
  exact ⟨rfl, hdone⟩

/-- Installing a module that is not listed succeeds and leaves the list regular. -/
theorem ends_install_of_new {m : Module} {a : Except HostError ModuleId}
    (hr : (s.1.host n).Regular) (hnone : (s.1.host n).hosted? m.id = none)
    (h : (install n m).Ends outside s a t) : a = .ok m.id ∧ (t.1.host n).Regular := by
  obtain ⟨h', hinstall⟩ : ∃ h', (s.1.host n).install m = .ok h' := by
    unfold Host.install
    rw [hnone]
    exact ⟨_, rfl⟩
  unfold World.install at h
  rw [ends_bind_tryHost (x := ()) (h := h') (by rw [hinstall]; rfl), ends_bind] at h
  obtain ⟨_, v, hv, rfl, rfl⟩ := h
  exact ⟨rfl, (hr.install hinstall).congr (ends_publish_listed ho hv)⟩

/-- An exchange finds the module on the list, and still does when it comes to resolving it. -/
theorem ends_exchange_of_hosted {m : Module} {andResolve : Bool} (hr : (s.1.host n).Regular)
    (he : (s.1.host n).hosted? m.id = some e)
    (h : (exchange n m andResolve).Ends outside s a t) : a = .ok () ∧ (t.1.host n).Regular := by
  have hreplace : (s.1.host n).replace m =
      .ok ((s.1.host n).change m.id fun e => { e with module := m }) := by
    unfold Host.replace
    rw [he]
    rfl
  unfold exchange at h
  rw [ends_bind_tryHost (x := ()) (by rw [hreplace]; rfl), ends_bind] at h
  obtain ⟨_, u, hreported, h⟩ := h
  rw [ends_bind] at h
  obtain ⟨_, v, hv, h⟩ := h
  have hmodules : (v.1.host n).modules =
      ((s.1.host n).change m.id fun e => { e with module := m }).modules := by
    have hpublished := keeps_publish ho n _ _ _ _ hv
    have hstood := ho _ _ _ ((ends_interrupt _ _).1 hreported)
    unfold listed at hpublished hstood
    rw [hpublished, hstood, host_setHost, if_pos rfl]
  have hregular := (hr.replace hreplace).congr hmodules
  split at h
  · have he' : (v.1.host n).hosted? m.id = some { e with module := m } := by
      rw [Host.hosted?_congr hmodules,
        Host.hosted?_change (f := fun e => { e with module := m }) fun d _ => rfl, if_pos rfl, he]
      rfl
    obtain ⟨rfl, hdone, -⟩ := ends_resolve_of_hosted ho hregular he' h
    exact ⟨rfl, hdone⟩
  · obtain ⟨rfl, rfl⟩ := h
    exact ⟨rfl, hregular⟩

/-- Updating a listed module succeeds and leaves the list regular. -/
theorem ends_update_of_hosted {m : Module} (hr : (s.1.host n).Regular)
    (he : (s.1.host n).hosted? m.id = some e) (h : (update n m).Ends outside s a t) :
    a = .ok () ∧ (t.1.host n).Regular := by
  unfold update at h
  rw [ends_bind] at h
  obtain ⟨_, s, ⟨rfl, rfl⟩, h⟩ := h
  simp only [Host.state?, he, Option.map_some] at h
  split at h
  · rw [ends_bind] at h
    obtain ⟨r, u, hu, h⟩ := h
    obtain ⟨rfl, hregular, e', he'⟩ := ends_unresolve_of_hosted ho hr he hu
    exact ends_exchange_of_hosted ho hregular he' h
  · exact ends_exchange_of_hosted ho hr he h

/-- Uninstalling a listed module succeeds and leaves the list regular. -/
theorem ends_uninstall_of_hosted (hr : (s.1.host n).Regular)
    (he : (s.1.host n).hosted? id = some e) (h : (uninstall n id).Ends outside s a t) :
    a = .ok () ∧ (t.1.host n).Regular := by
  unfold uninstall at h
  rw [ends_bind] at h
  obtain ⟨r, u, hu, h⟩ := h
  obtain ⟨rfl, hregular, e', he'⟩ := ends_unresolve_of_hosted ho hr he hu
  obtain ⟨h', hremove⟩ : ∃ h', (u.1.host n).remove id = .ok (e'.module, h') := by
    unfold Host.remove
    rw [he']
    exact ⟨_, rfl⟩
  rw [ends_bind_tryHost hremove, ends_bind] at h
  obtain ⟨_, v, hv, rfl, rfl⟩ := h
  exact ⟨rfl, (hregular.remove hremove).congr (ends_publish_listed ho hv)⟩

end Accepted

/-! ## Refused calls -/

/-- An operation that is done without a signal is followed by the next one. -/
theorem bind_of_done {p : Work α} {q : α → Work β} {x : α} (hp : p w = .done w x) :
    (p >>= q) w = q x w := by
  change (p w).bind _ = _
  rw [hp]
  rfl

/-- No rule on states is asked about a module that is not listed. -/
theorem changeState_of_not_hosted {rule : ModuleState → Except HostError (Option ModuleState)}
    {kind : EventKind} (hnone : (w.host n).hosted? id = none) :
    changeState n id rule kind w = .done w (.error (.unknown id)) := by
  have htransition : (w.host n).transition id rule = .error (.unknown id) := by
    unfold Host.transition
    rw [hnone]
  unfold changeState
  rw [bind_tryHost_of_error htransition]
  rfl

/-- Starting a module that is not listed is refused, and nothing happens. -/
theorem start_of_not_hosted (hnone : (w.host n).hosted? id = none) :
    start n id w = .done w (.error (.unknown id)) :=
  bind_of_done (changeState_of_not_hosted hnone)

/-- Uninstalling a module that is not listed is refused, and nothing happens. -/
theorem uninstall_of_not_hosted (hnone : (w.host n).hosted? id = none) :
    uninstall n id w = .done w (.error (.unknown id)) :=
  bind_of_done (changeState_of_not_hosted hnone)

/-- Updating a module that is not listed is refused, and nothing happens. -/
theorem update_of_not_hosted {m : Module} (hnone : (w.host n).hosted? m.id = none) :
    update n m w = .done w (.error (.unknown m.id)) := by
  have hask : (ask fun w => (w.host n).state? m.id : Work (Option ModuleState)) w =
      .done w none := by
    simp only [ask, Host.state?, hnone, Option.map_none]
  exact bind_of_done hask

/-- An installation that the host refuses does nothing else. -/
theorem install_of_refused {m : Module} {refusal : HostError}
    (hrefused : (w.host n).install m = .error refusal) :
    install n m w = .done w (.error refusal) := by
  have hinstall : ((w.host n).install m).map (fun h => ((), h)) = .error refusal := by
    rw [hrefused]
    rfl
  unfold World.install
  rw [bind_tryHost_of_error hinstall]
  rfl

/-- Installing a module that is listed already is refused, and nothing happens. -/
theorem install_of_hosted {m : Module} (hsome : ((w.host n).hosted? m.id).isSome = true) :
    install n m w = .done w (.error (.alreadyInstalled m.id)) :=
  install_of_refused (if_pos hsome)

namespace HostCall

/-- A refusal that depends on the listing alone means that the module is not listed. -/
theorem unknown_of_refused {h : Host} {refusal : Error}
    (hr : (if (h.hosted? id).isSome then none else some (.moduleNotFound id)) = some refusal) :
    h.hosted? id = none ∧ refusal = .moduleNotFound id := by
  simp only [Option.ite_none_left_eq_some, Bool.not_eq_true, Option.isSome_eq_false_iff,
    Option.isNone_iff_eq_none] at hr
  exact ⟨hr.1, (Option.some.inj hr.2).symm⟩

/-- A call that is refused ends where it began. -/
theorem answer_of_refused {refusal : Error} (h : call.refusal? (w.host n) = some refusal) :
    call.answer n w = .done w (.error refusal) := by
  cases call with
  | install m =>
    simp only [refusal?, Option.ite_none_right_eq_some, Option.some.injEq] at h
    obtain ⟨hsome, rfl⟩ := h
    exact bind_of_done (install_of_hosted hsome)
  | update m =>
    obtain ⟨hnone, rfl⟩ := unknown_of_refused h
    exact bind_of_done (update_of_not_hosted hnone)
  | start id =>
    obtain ⟨hnone, rfl⟩ := unknown_of_refused h
    exact bind_of_done (start_of_not_hosted hnone)
  | uninstall id =>
    obtain ⟨hnone, rfl⟩ := unknown_of_refused h
    exact bind_of_done (uninstall_of_not_hosted hnone)
  | resolve id | stop id | unresolve id =>
    obtain ⟨hnone, rfl⟩ := unknown_of_refused h
    exact bind_of_done (changeState_of_not_hosted hnone)

/-- A module that is not refused for want of a listing is listed. -/
theorem hosted_of_accepted {h : Host}
    (hr : (if (h.hosted? id).isSome then none else some (Error.moduleNotFound id)) = none) :
    ∃ e, h.hosted? id = some e := by
  simpa [Option.isSome_iff_exists, ← Option.ne_none_iff_exists'] using hr

/-- A call that is not refused succeeds, and leaves only states that occur. -/
theorem ends_of_accepted {a : Except Error Unit} (ho : LeavesList outside n)
    (hr : (s.1.host n).Regular) (hnone : call.refusal? (s.1.host n) = none)
    (h : (call.answer n).Ends outside s a t) : a = .ok () ∧ (t.1.host n).Regular := by
  have hseen {α : Type} {p : Work (Except HostError α)} {x : α}
      (hp : ∀ r, p.Ends outside s r t → r = .ok x ∧ (t.1.host n).Regular)
      (h : (do return seen (← p) : Work (Except Error Unit)).Ends outside s a t) :
      a = .ok () ∧ (t.1.host n).Regular := by
    obtain ⟨r, u, hu, rfl, rfl⟩ := (ends_bind _ _ _).1 h
    obtain ⟨rfl, hregular⟩ := hp r hu
    exact ⟨rfl, hregular⟩
  cases call with
  | install m =>
    have hnew : (s.1.host n).hosted? m.id = none := by simpa [refusal?] using hnone
    exact hseen (fun r => ends_install_of_new ho hr hnew) h
  | update m =>
    obtain ⟨e, he⟩ := hosted_of_accepted hnone
    exact hseen (fun r => ends_update_of_hosted ho hr he) h
  | resolve id =>
    obtain ⟨e, he⟩ := hosted_of_accepted hnone
    exact hseen (fun r h => (ends_resolve_of_hosted ho hr he h).imp_right And.left) h
  | start id =>
    obtain ⟨e, he⟩ := hosted_of_accepted hnone
    exact hseen (fun r => ends_start_of_hosted ho hr he) h
  | stop id =>
    obtain ⟨e, he⟩ := hosted_of_accepted hnone
    exact hseen (fun r => ends_stop_of_hosted ho hr he) h
  | unresolve id =>
    obtain ⟨e, he⟩ := hosted_of_accepted hnone
    exact hseen (fun r h => (ends_unresolve_of_hosted ho hr he h).imp_right And.left) h
  | uninstall id =>
    obtain ⟨e, he⟩ := hosted_of_accepted hnone
    exact hseen (fun r => ends_uninstall_of_hosted ho hr he) h

end HostCall

/-! ## Calls, one after another -/

/-- A call leads from states that occur to states that occur. -/
theorem Host.Regular.step (ho : LeavesList outside n) (hr : (s.1.host n).Regular)
    (h : TopLevel outside n s t) : (t.1.host n).Regular := by
  cases h with
  | @call call a h =>
    cases hrefusal : call.refusal? (s.1.host n) with
    | none => exact (HostCall.ends_of_accepted ho hr hrefusal h).2
    | some refusal =>
      unfold Ends at h
      rw [HostCall.answer_of_refused hrefusal] at h
      obtain ⟨-, rfl⟩ := h
      exact hr
  | besides h => exact hr.congr h

/-- Among the calls on a host that come one after another, those about a wrong number are refused
and have no effect at all, and all others succeed. The host lists modules in three states only. -/
theorem answered_of_calls (ho : LeavesList outside n) (hfresh : (s.1.host n).modules = [])
    (hs : Relation.ReflTransGen (TopLevel outside n) s t) :
    (∀ d ∈ (t.1.host n).modules, d.state.Occurs) ∧ ∀ call, Answered outside n t call := by
  have hregular : (t.1.host n).Regular := by
    induction hs with
    | refl =>
      intro d hd
      rw [hfresh] at hd
      exact absurd hd List.not_mem_nil
    | tail _ hstep ih => exact ih.step ho hstep
  refine ⟨hregular, fun call => ⟨fun refusal h => HostCall.answer_of_refused h,
    fun h a u hu => (HostCall.ends_of_accepted ho hregular h hu).1, fun hends => ?_⟩⟩
  choose handle hhandle using hends
  exact ⟨_, _, Run.ends_finish hhandle (call.answer n t.1) t.2⟩

/-! A module is installed and started before a recorder that only listens. -/

section Example

/-- A world in which a recorder listens to a host. -/
def boardWorld : World where
  hosts := ⟨[{ bus := { listeners := [(⟨0⟩, .recorder 0)], nextListener := 1 } }]⟩

/-- The module that is installed. -/
def tenant : Module := ⟨0, ⟨1⟩, "module-1"⟩

/-- Another object with the same number. -/
def twinTenant : Module := ⟨1, ⟨1⟩, "module-1"⟩

/-- Nobody does more than listen. -/
def onlyHeard (_ : Signal) (s t : World × Unit) : Prop := t = s

/-- Performs a call before listeners. -/
def heardOut (call : HostCall) (s : World × Unit) : World × Unit :=
  (((call.answer 0 s.1).beside s.2).finish fun _ u => u).2

/-- A call that is heard out does nothing else at the top level. -/
theorem topLevel_heardOut (call : HostCall) (s : World × Unit) :
    TopLevel onlyHeard 0 s (heardOut call s) := by
  have hself (i : Signal) (u : World × Unit) : onlyHeard i u u := rfl
  exact .call (Run.ends_finish hself (call.answer 0 s.1) s.2)

/-- The number is taken, no other is known, and the module can be taken off while it is active. -/
theorem answered_of_calls_tenant : ∃ t,
    Relation.ReflTransGen (TopLevel onlyHeard 0) (boardWorld, ()) t ∧
    (t.1.host 0).modules = [⟨tenant, .active⟩] ∧
    (HostCall.install twinTenant).answer 0 t.1 =
      .done t.1 (.error (.invalidInput "module 1 is already installed")) ∧
    (HostCall.start ⟨2⟩).answer 0 t.1 = .done t.1 (.error (.moduleNotFound ⟨2⟩)) ∧
    ∃ u, ((HostCall.uninstall ⟨1⟩).answer 0).Ends onlyHeard t (.ok ()) u := by
  have ho : LeavesList onlyHeard 0 := by
    rintro i s t rfl
    rfl
  have hs : Relation.ReflTransGen (TopLevel onlyHeard 0) (boardWorld, ())
      (heardOut (.start ⟨1⟩) (heardOut (.install tenant) (boardWorld, ()))) :=
    .tail (.single (topLevel_heardOut _ _)) (topLevel_heardOut _ _)
  obtain ⟨-, hanswered⟩ := answered_of_calls ho rfl hs
  refine ⟨_, hs, by decide, (hanswered _).refused _ (by decide),
    (hanswered _).refused _ (by decide), ?_⟩
  obtain ⟨a, u, hu⟩ := (hanswered (.uninstall ⟨1⟩)).ends fun _ u => ⟨u, rfl⟩
  have ha := (hanswered (.uninstall ⟨1⟩)).accepted (by decide) a u hu
  exact ⟨u, ha ▸ hu⟩

end Example

end ServiceRegistry
