import ServiceRegistry.Proofs.Audience
import ServiceRegistry.Proofs.Hearing
import ServiceRegistry.Proofs.HostCalls

/-!
# What a host has announced

The events of a host tell all that happens to its list. `told` reads the list off the events alone,
and a host is `Truthful` if its list is the one that is told and if every event was due when it was
published. At every moment at which someone can act, a host is truthful (`truthful_of_reached`):
when a listener hears of an event, when a module is asked for a listing, and when an operation ends.
Operations on the host interrupt each other in every order, and between their steps all else in the
world may change.

Between the replacement of a module object and its announcement a report is made. Nobody acts then,
so operations are taken here without their reports (`Interruptible.unreported`).
-/

namespace ServiceRegistry

/-! ## The list that events tell -/

namespace Event

/-- A list of modules in which the entry of one is changed. -/
def amend (id : ModuleId) (f : Hosted → Hosted) (l : List Hosted) : List Hosted :=
  l.map fun d => if d.module.id = id then f d else d

/-- What an event makes of a list of modules. -/
def tell (e : Event) (l : List Hosted) : List Hosted :=
  match e.kind with
  | .installed => l ++ [⟨e.module, .installed⟩]
  | .resolved => amend e.module.id (fun d => { d with state := .resolved }) l
  | .started => amend e.module.id (fun d => { d with state := .active }) l
  | .stopped => amend e.module.id (fun d => { d with state := .resolved }) l
  | .unresolved => amend e.module.id (fun d => { d with state := .installed }) l
  | .updated => amend e.module.id (fun d => { d with module := e.module }) l
  | .uninstalled => l.filter (·.module.id ≠ e.module.id)

/-- An event is due where modules are listed: it is of a module object that is listed in the state
that the event ends, of a new number if it announces an installation, and of a listed number if it
announces an update. -/
def Due (l : List Hosted) (e : Event) : Prop :=
  match e.kind with
  | .installed => ∀ d ∈ l, d.module.id ≠ e.module.id
  | .resolved => ⟨e.module, .installed⟩ ∈ l
  | .started => ⟨e.module, .resolved⟩ ∈ l
  | .stopped => ⟨e.module, .active⟩ ∈ l
  | .unresolved => ⟨e.module, .resolved⟩ ∈ l ∨ ⟨e.module, .active⟩ ∈ l
  | .updated => ∃ d ∈ l, d.module.id = e.module.id
  | .uninstalled => ∃ d ∈ l, d.module = e.module

end Event

/-- The list that events tell, given the newest first. -/
def told : List Event → List Hosted
  | [] => []
  | e :: before => e.tell (told before)

/-- A host's list is the one that its events tell, no number is listed twice, and every event was
due when it was published. -/
structure Host.Truthful (h : Host) : Prop where
  listed : h.modules = told h.bus.log
  distinct : h.Distinct
  due : ∀ after e before, h.bus.log = after ++ e :: before → e.Due (told before)

/-- The states of a host's list. -/
theorem state_of_mem_told {log : List Event} {d : Hosted} (hd : d ∈ told log) :
    d.state = .installed ∨ d.state = .resolved ∨ d.state = .active := by
  induction log generalizing d with
  | nil => exact absurd hd List.not_mem_nil
  | cons e before ih =>
    have hamend {f : Hosted → Hosted} (hf : ∀ c ∈ told before, (f c).state = .installed ∨
        (f c).state = .resolved ∨ (f c).state = .active)
        (hd : d ∈ Event.amend e.module.id f (told before)) :
        d.state = .installed ∨ d.state = .resolved ∨ d.state = .active := by
      obtain ⟨c, hc, rfl⟩ := List.mem_map.1 hd
      split
      · exact hf c hc
      · exact ih hc
    unfold told Event.tell at hd
    split at hd
    · rcases List.mem_append.1 hd with hd | hd
      · exact ih hd
      · exact .inl (by rw [List.mem_singleton.1 hd])
    · exact hamend (fun _ _ => .inr (.inl rfl)) hd
    · exact hamend (fun _ _ => .inr (.inr rfl)) hd
    · exact hamend (fun _ _ => .inr (.inl rfl)) hd
    · exact hamend (fun _ _ => .inl rfl) hd
    · refine hamend (f := fun d => { d with module := e.module }) (fun c hc => ?_) hd
      exact (ih hc : c.state = _ ∨ _)
    · exact ih (List.mem_filter.1 hd).1

namespace Host

variable {h h' : Host} {e : Event} {m : Module} {id : ModuleId}

/-- In a list without repeated numbers, the first entry of a number is the only one. -/
theorem changeFirst_eq_amend (id : ModuleId) (f : Hosted → Hosted) {l : List Hosted}
    (hd : (l.map (·.module.id)).Nodup) : changeFirst id f l = Event.amend id f l := by
  induction l with
  | nil => rfl
  | cons c rest ih =>
    rw [List.map_cons, List.nodup_cons] at hd
    unfold changeFirst Event.amend
    rw [List.map_cons]
    split
    · rename_i hc
      congr 1
      refine (List.map_id' _).symm.trans (List.map_congr_left fun d hmem => (if_neg ?_).symm)
      exact fun hid => hd.1 (hc.trans hid.symm ▸ List.mem_map_of_mem hmem)
    · rw [ih hd.2]
      rfl

/-- In a list without repeated numbers, to remove the first entry of a number is to remove all. -/
theorem eraseP_eq_filter {l : List Hosted} (hd : (l.map (·.module.id)).Nodup) :
    l.eraseP (·.module.id = id) = l.filter (·.module.id ≠ id) := by
  induction l with
  | nil => rfl
  | cons c rest ih =>
    rw [List.map_cons, List.nodup_cons] at hd
    by_cases hc : c.module.id = id
    · rw [List.eraseP_cons_of_pos (by simpa using hc), List.filter_cons_of_neg (by simpa using hc)]
      refine (List.filter_eq_self.2 fun d hmem => ?_).symm
      have hne : d.module.id ≠ id := fun hid =>
        hd.1 (hc.trans hid.symm ▸ List.mem_map_of_mem hmem)
      simpa using hne
    · rw [List.eraseP_cons_of_neg (by simpa using hc), List.filter_cons_of_pos (by simpa using hc),
        ih hd.2]

/-- A host goes on being truthful if it changes as an event tells that was due. -/
theorem Truthful.record (ht : h.Truthful) (hbus : h'.bus = h.bus) (hd : h'.Distinct)
    (hmodules : h'.modules = e.tell h.modules) (hdue : e.Due h.modules) :
    { h' with bus := h'.bus.record e }.Truthful := by
  have hlog : (h'.bus.record e).log = e :: h.bus.log := by rw [hbus]; rfl
  refine ⟨?_, hd, fun after e' before hsplit => ?_⟩
  · change h'.modules = told (h'.bus.record e).log
    rw [hlog, hmodules, ht.listed]
    rfl
  · have hsplit : e :: h.bus.log = after ++ e' :: before := hlog.symm.trans hsplit
    cases after with
    | nil =>
      cases hsplit
      exact ht.listed ▸ hdue
    | cons a after => exact ht.due after e' before (List.cons.inj hsplit).2

/-- A change that is announced as it is made keeps a host truthful. -/
theorem Truthful.of_changes (ht : h.Truthful) (hc : h.Changes e h') :
    { h' with bus := h'.bus.record e }.Truthful := by
  have hd := hc.distinct ht.distinct
  cases hc with
  | @install m h' hm =>
    obtain ⟨hnone, hbus, hmodules⟩ := install_eq_ok hm
    refine ht.record hbus hd hmodules fun d hmem => ?_
    simpa using List.find?_eq_none.1 hnone d hmem
  | @move m kind s s' hm hs =>
    have hmem : ⟨m, s⟩ ∈ h.modules := mem_of_hosted? hm
    have hamend := changeFirst_eq_amend m.id (fun d => { d with state := s' }) ht.distinct
    cases hs with
    | resolve => exact ht.record rfl hd hamend hmem
    | start => exact ht.record rfl hd hamend hmem
    | stop => exact ht.record rfl hd hamend hmem
    | unresolve hs =>
      refine ht.record rfl hd hamend ?_
      rcases state_of_mem_told (ht.listed ▸ hmem) with hstate | hstate | hstate <;>
        cases hstate
      · cases hs
      · exact .inl hmem
      · exact .inr hmem
  | @remove m h' hm =>
    obtain ⟨⟨s, hs⟩, hbus, hmodules⟩ := remove_eq_ok hm
    refine ht.record hbus hd (hmodules.trans (eraseP_eq_filter ht.distinct)) ?_
    exact ⟨_, mem_of_hosted? hs, rfl⟩

/-- A replacement keeps a host truthful, if an update is what is announced. -/
theorem Truthful.of_replace (ht : h.Truthful) (hm : h.replace m = .ok h') :
    { h' with bus := h'.bus.record ⟨.updated, m⟩ }.Truthful := by
  have hmodules : h'.modules = Event.amend m.id (fun d => { d with module := m }) h.modules := by
    rw [replace_eq_ok hm]
    exact changeFirst_eq_amend _ _ ht.distinct
  refine ht.record (bus_replace hm) (ht.distinct.replace hm) hmodules ?_
  unfold replace at hm
  split at hm
  · rename_i hsome
    obtain ⟨d, hd⟩ := Option.isSome_iff_exists.1 hsome
    exact ⟨d, mem_of_hosted? hd, id_of_hosted? hd⟩
  · cases hm

end Host

/-! ## Operations without their reports -/

section Passing

variable {σ ι α β : Type}

/-- The same course without the interruptions that pass. -/
def Run.passing (passes : ι → Bool) : Run σ ι α → Run σ ι α
  | .done s a => .done s a
  | .pause s i k =>
    if passes i then (k s).passing passes else .pause s i fun u => (k u).passing passes

/-- Interruptions are passed over in each part of a composition. -/
theorem Run.passing_bind (passes : ι → Bool) (r : Run σ ι α) (f : α → σ → Run σ ι β) :
    (r.bind f).passing passes = (r.passing passes).bind fun a s => (f a s).passing passes := by
  induction r with
  | done s a => rfl
  | pause s i k ih =>
    simp only [Run.bind, Run.passing]
    split
    · exact ih s
    · exact congrArg (Run.pause s i) (funext ih)

/-- A run that is made of steps remains so if some interruptions are passed over: no step is lost,
and at fewer points something else can happen. -/
theorem Run.Safe.passing {step : σ → σ → Prop} {r : Run σ ι α} {o : σ} (passes : ι → Bool)
    (hr : r.Safe (fun _ : σ × Unit => True) step (fun _ _ => True) o ()) :
    (r.passing passes).Safe (fun _ : σ × Unit => True) step (fun _ _ => True) o () := by
  induction r generalizing o with
  | done s a => exact hr
  | pause s i k ih =>
    unfold Run.passing
    split
    · exact (ih s (hr.2.2 (s, ()) trivial)).since hr.1
    · exact ⟨hr.1, trivial, fun u _ => ih u.1 (hr.2.2 u trivial)⟩

/-- A signal at which nobody acts. -/
def Signal.isReport : Signal → Bool
  | .reported _ => true
  | _ => false

/-- The same operation without its reports. -/
def Interruptible.unreported (p : Work α) : Work α := fun w => (p w).passing Signal.isReport

open Interruptible

/-- Reports are left out in each part of a composition. -/
theorem unreported_bind (p : Work α) (q : α → Work β) :
    (p >>= q).unreported = p.unreported >>= fun a => (q a).unreported :=
  funext fun w => Run.passing_bind _ (p w) q

/-- An operation is made of the same steps if its reports are left out. -/
theorem Interruptible.MadeOf.unreported {step : World → World → Prop} {p : Work α}
    (hp : p.MadeOf step) : p.unreported.MadeOf step :=
  fun s => Run.Safe.passing _ (hp s)

end Passing

/-! ## Operations that keep a host truthful -/

namespace World

open Interruptible

/-- A host of a world is truthful. -/
def Tells (h : Nat) (s : World × Unit) : Prop := (s.1.host h).Truthful

/-- Two worlds have the same list of a host and the same record of its events. -/
structure SameList (h : Nat) (w w' : World) : Prop where
  modules : (w'.host h).modules = (w.host h).modules
  log : (w'.host h).bus.log = (w.host h).bus.log

/-- Without its reports, an operation that finds a host truthful leaves it so whenever someone can
act, and ends as is asked. -/
abbrev Candid (h : Nat) {α : Type} (p : Work α) (post : α → World × Unit → Prop)
    (s : World × Unit) : Prop :=
  p.unreported.Safe (Tells h) (fun _ _ => True) post s

/-- An operation that keeps a host truthful. -/
abbrev KeepsTruth (h : Nat) {α : Type} (p : Work α) : Prop :=
  ∀ s, Tells h s → Candid h p (fun _ => Tells h) s

variable {h : Nat} {w w' : World} {s : World × Unit} {e : Event} {m : Module} {α β : Type}

/-- Worlds that differ in who listens have the same list and the same events. -/
theorem SameButListeners.sameList (hw : w.SameButListeners w') : SameList h w w' := by
  obtain ⟨listeners, hlisteners⟩ := hw h
  constructor <;> rw [hlisteners]

/-- What is told of a host depends on its list and its events only. -/
theorem Tells.of_same (hs : Tells h s) (hw : SameList h s.1 w) : Tells h (w, s.2) := by
  refine ⟨?_, ?_, fun after e before hsplit => ?_⟩
  · rw [hw.modules, hw.log]
    exact hs.listed
  · unfold Host.Distinct
    rw [hw.modules]
    exact hs.distinct
  · rw [hw.log] at hsplit
    exact hs.due after e before hsplit

/-- Operations that are candid one after the other are candid together. -/
theorem Candid.bind (mid : α → World × Unit → Prop) {p : Work α} {q : α → Work β}
    {post : β → World × Unit → Prop} (hp : Candid h p mid s)
    (hq : ∀ a u, mid a u → Candid h (q a) post u) : Candid h (p >>= q) post s := by
  unfold Candid
  rw [unreported_bind]
  exact Safe.bind hp hq

/-- Operations that keep a host truthful do so together. -/
theorem KeepsTruth.bind {p : Work α} {q : α → Work β} (hp : KeepsTruth h p)
    (hq : ∀ a, KeepsTruth h (q a)) : KeepsTruth h (p >>= q) :=
  fun s hs => Candid.bind (fun _ => Tells h) (hp s hs) fun a u hu => hq a u hu

/-- An answer alone keeps a host truthful. -/
theorem keepsTruth_pure (a : α) : KeepsTruth h (pure a : Work α) :=
  fun _ hs => safe_pure hs

/-- A question keeps a host truthful. -/
theorem keepsTruth_ask (f : World → α) : KeepsTruth h (ask f) := fun _ hs => safe_ask hs

/-- Whichever of two operations is chosen, the host remains truthful. -/
theorem KeepsTruth.ite {c : Prop} [Decidable c] {p q : Work α} (hp : KeepsTruth h p)
    (hq : KeepsTruth h q) : KeepsTruth h (if c then p else q) := by
  split
  · exact hp
  · exact hq

/-- A host that is truthful once an event is recorded is so while the event is delivered. -/
theorem candid_publish (hs : Tells h ((record h e s.1).2, s.2)) :
    Candid h (publish h e) (fun _ => Tells h) s := by
  refine Candid.bind (fun _ => Tells h) (safe_act trivial hs) fun audience u hu => ?_
  have hdelivered := (madeOf_delivery e audience).unreported.safe
    (fun _ _ _ hstep ha => Tells.of_same ha hstep.sameList) hu
  exact Run.Safe.mono hdelivered fun _ _ _ => trivial

/-- The list is told as soon as the event of its last change is recorded. -/
theorem tells_record {host : Host} (ht : { host with bus := host.bus.record e }.Truthful) :
    Tells h ((record h e (s.1.setHost h host)).2, s.2) := by
  unfold Tells
  simpa using ht

/-- A change of a host that can be refused and is announced if it is made. -/
theorem candid_tryHost {f : Host → Except HostError (α × Host)}
    {mid : Except HostError α → World × Unit → Prop} (hrefused : ∀ refusal, mid (.error refusal) s)
    (hmade : ∀ a host, f (s.1.host h) = .ok (a, host) → mid (.ok a) (s.1.setHost h host, s.2)) :
    Candid h (act (tryHost h f)) mid s := by
  refine safe_act trivial ?_
  unfold tryHost
  cases hf : f (s.1.host h) with
  | error refusal => exact hrefused refusal
  | ok answer => exact hmade answer.1 answer.2 hf

/-- A host is truthful, or will be when an event is recorded. -/
def Owes (h : Nat) (owed : Option Event) (s : World × Unit) : Prop :=
  match owed with
  | none => Tells h s
  | some e => Tells h ((record h e s.1).2, s.2)

/-- A change of state by a rule keeps a host truthful, if its event announces the move that the rule
makes. -/
theorem keepsTruth_changeState {id : ModuleId}
    {rule : ModuleState → Except HostError (Option ModuleState)} {kind : EventKind}
    (hrule : ∀ s s', rule s = .ok (some s') → Host.Moves kind s s') :
    KeepsTruth h (changeState h id rule kind) := by
  intro s hs
  refine Candid.bind (fun (r : Except HostError (Option Module)) =>
    Owes h (r.toOption.join.map fun m => ⟨kind, m⟩))
    (candid_tryHost (fun _ => hs) fun changed host ht => ?_) fun r u hu => ?_
  · cases changed with
    | none =>
      rw [Host.eq_of_transition ht]
      exact hs.of_same ⟨by simp, by simp⟩
    | some m => exact tells_record (hs.of_changes (Host.changes_transition hrule ht).2)
  · cases r with
    | error refusal => exact safe_pure hu
    | ok changed =>
      refine Candid.bind (fun _ => Tells h) ?_ fun _ v hv => safe_pure hv
      cases changed with
      | none => exact safe_pure hu
      | some m => exact candid_publish hu

/-- An installation keeps a host truthful. -/
theorem keepsTruth_install (m : Module) : KeepsTruth h (install h m) := by
  intro s hs
  refine Candid.bind (fun (r : Except HostError Unit) =>
    Owes h (r.toOption.map fun _ => ⟨.installed, m⟩))
    (candid_tryHost (fun _ => hs) fun a host ht => ?_) fun r u hu => ?_
  · cases hm : (s.1.host h).install m with
    | error refusal =>
      rw [hm] at ht
      cases ht
    | ok installed =>
      rw [hm] at ht
      cases ht
      exact tells_record (hs.of_changes (.install hm))
  · cases r with
    | error refusal => exact safe_pure hu
    | ok _ => exact (candid_publish hu).bind (fun _ => Tells h) fun _ v hv => safe_pure hv

/-- To resolve a module keeps its host truthful. -/
theorem keepsTruth_resolve (id : ModuleId) : KeepsTruth h (resolve h id) :=
  keepsTruth_changeState fun _ _ => Host.moves_resolveRule

/-- To unresolve a module keeps its host truthful. -/
theorem keepsTruth_unresolve (id : ModuleId) : KeepsTruth h (unresolve h id) :=
  keepsTruth_changeState fun _ _ => Host.moves_unresolveRule

/-- The exchange of an object keeps a host truthful, also if the module is resolved after it. -/
theorem keepsTruth_exchange (m : Module) (andResolve : Bool) :
    KeepsTruth h (exchange h m andResolve) := by
  intro s hs
  refine Candid.bind (fun (r : Except HostError Unit) =>
    Owes h (r.toOption.map fun _ => ⟨.updated, m⟩))
    (candid_tryHost (fun _ => hs) fun a host ht => ?_) fun r u hu => ?_
  · cases hm : (s.1.host h).replace m with
    | error refusal =>
      rw [hm] at ht
      cases ht
    | ok replaced =>
      rw [hm] at ht
      cases ht
      exact tells_record (hs.of_replace hm)
  · cases r with
    | error refusal => exact safe_pure hu
    | ok _ =>
      -- The report passes, so that nobody acts before the event is recorded.
      refine Candid.bind (fun _ => Owes h (some ⟨.updated, m⟩)) (safe_pure hu) fun _ v hv => ?_
      refine (candid_publish hv).bind (fun _ => Tells h) fun _ v hv => ?_
      exact KeepsTruth.ite (keepsTruth_resolve m.id) (keepsTruth_pure _) v hv

/-- An update keeps a host truthful, in each of its parts. -/
theorem keepsTruth_update (m : Module) : KeepsTruth h (update h m) := by
  refine (keepsTruth_ask _).bind fun state => ?_
  cases state with
  | none => exact keepsTruth_pure _
  | some state =>
    refine .ite ((keepsTruth_unresolve m.id).bind fun r => ?_) (keepsTruth_exchange m false)
    cases r with
    | error refusal => exact keepsTruth_pure _
    | ok _ => exact keepsTruth_exchange m true

/-- To start a module, having resolved it first, keeps its host truthful. -/
theorem keepsTruth_start (id : ModuleId) : KeepsTruth h (start h id) := by
  refine (keepsTruth_resolve id).bind fun r => ?_
  cases r with
  | error refusal => exact keepsTruth_pure _
  | ok _ => exact keepsTruth_changeState fun _ _ => Host.moves_startRule

/-- To uninstall a module, having unresolved it first, keeps its host truthful. -/
theorem keepsTruth_uninstall (id : ModuleId) : KeepsTruth h (uninstall h id) := by
  refine (keepsTruth_unresolve id).bind fun r => ?_
  cases r with
  | error refusal => exact keepsTruth_pure _
  | ok _ =>
    intro s hs
    refine Candid.bind (fun (r : Except HostError Module) =>
      Owes h (r.toOption.map fun m => ⟨.uninstalled, m⟩))
      (candid_tryHost (fun _ => hs) fun m host hm => ?_) fun r u hu => ?_
    · obtain ⟨⟨state, he⟩, -⟩ := Host.remove_eq_ok hm
      have hid : m.id = id := Host.id_of_hosted? he
      subst hid
      exact tells_record (hs.of_changes (.remove hm))
    · cases r with
      | error refusal => exact safe_pure hu
      | ok m => exact (candid_publish hu).bind (fun _ => Tells h) fun _ v hv => safe_pure hv

/-- Every call keeps its host truthful. -/
theorem keepsTruth_call (call : HostCall) : KeepsTruth h (call.work h) := by
  have hforget {α : Type} {p : Work α} (hp : KeepsTruth h p) : KeepsTruth h p.forget :=
    hp.bind fun _ => keepsTruth_pure ()
  cases call with
  | install m => exact hforget (keepsTruth_install m)
  | update m => exact hforget (keepsTruth_update m)
  | resolve id => exact hforget (keepsTruth_resolve id)
  | start id => exact hforget (keepsTruth_start id)
  | stop id => exact hforget (keepsTruth_changeState fun _ _ => Host.moves_stopRule)
  | unresolve id => exact hforget (keepsTruth_unresolve id)
  | uninstall id => exact hforget (keepsTruth_uninstall id)

/-- The calls on a host, without their reports. -/
inductive CallsOn (h : Nat) : Work Unit → Prop where
  | call (call : HostCall) : CallsOn h (call.work h).unreported

/-- Whatever happens besides the calls on a host leaves its list and the record of its events. -/
def Besides (h : Nat) (s t : World × Unit) : Prop := SameList h s.1 t.1

/-- At every moment, the list of a host that was fresh is the one that its events tell. -/
theorem truthful_of_reached (hmodules : (w.host h).modules = []) (hlog : (w.host h).bus.log = [])
    {g : Stage World Signal Unit}
    (hg : Relation.ReflTransGen (Stage.Step (CallsOn h) (Besides h)) ⟨(w, ()), []⟩ g) :
    (g.state.1.host h).Truthful := by
  have hfresh : Tells h (w, ()) := by
    refine ⟨by rw [hmodules, hlog]; rfl, by simp [Host.Distinct, hmodules], ?_⟩
    intro after e before hsplit
    rw [hlog] at hsplit
    exact absurd hsplit.symm (by simp)
  have hcalls (p : Work Unit) (hp : CallsOn h p) :
      Agenda.Opens (Tells h) (fun _ _ => True) p := by
    obtain ⟨call⟩ := hp
    exact fun s hs => ⟨s.1, keepsTruth_call call s hs⟩
  exact Stage.invariant hcalls (fun s t hst hs => hs.of_same hst) hfresh hg

/-! A module is updated while its start is announced, and uninstalled while the update is. -/

section Example

/-- A world in which a recorder listens to a host. -/
def heardWorld : World where
  hosts := ⟨[{ bus := { listeners := [(⟨0⟩, .recorder 0)], nextListener := 1 } }]⟩

/-- The object that is installed first. -/
def firstEdition : Module := ⟨0, ⟨1⟩, "module-1"⟩

/-- The object that takes its place. -/
def secondEdition : Module := ⟨1, ⟨1⟩, "module-1"⟩

/-- The update and the start end without the module, and nothing else is told. -/
theorem truthful_of_reached_interrupted : ∃ g : Stage World Signal Unit,
    Relation.ReflTransGen (Stage.Step (CallsOn 0) (Besides 0)) ⟨(heardWorld, ()), []⟩ g ∧
    (heardWorld.host 0).modules = [] ∧ (heardWorld.host 0).bus.log = [] ∧
    (g.state.1.host 0).bus.log.map (·.kind) = [.uninstalled, .unresolved, .resolved, .installed] ∧
    g.waiting.length = 0 ∧ (g.state.1.host 0).Truthful := by
  obtain ⟨g, hg, hlog, hwaiting⟩ : ∃ g : Stage World Signal Unit,
      Relation.ReflTransGen (Stage.Step (CallsOn 0) (Besides 0)) ⟨(heardWorld, ()), []⟩ g ∧
      (g.state.1.host 0).bus.log.map (·.kind) =
        [.uninstalled, .unresolved, .resolved, .installed] ∧ g.waiting.length = 0 := by
    exact ⟨_, .tail (.tail (.tail (.tail (.tail (.tail (.tail
      (.single (.begin (.call (.install firstEdition)))) (.resume [] []))
      (.begin (.call (.start ⟨1⟩)))) (.begin (.call (.update secondEdition))))
      (.begin (.call (.uninstall ⟨1⟩)))) (.resume [] [_, _])) (.resume [] [_])) (.resume [] []),
      rfl, rfl⟩
  exact ⟨g, hg, rfl, rfl, hlog, hwaiting, truthful_of_reached rfl rfl hg⟩

end Example

end World

end ServiceRegistry
