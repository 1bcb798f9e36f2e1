import ServiceRegistry.Proofs.Descriptors
import ServiceRegistry.Proofs.Preference
import ServiceRegistry.Proofs.Startup

/-!
# A host, a follower and a catalog, call by call

Calls on a host and starts and stops of a follower come one after another, none inside another.
After each of them the follower and its catalog reflect the host and what it has announced
(`reflects_of_calls`): a stopped follower leaves nothing behind, and a running one tracks exactly
the available modules. The candidates of a service are then the descriptors of the tracked modules,
in the order of `arrivals`: the module that has arrived last comes first.

The modules are ones in memory that never change, no other follower follows the host, and nobody
else has access to the catalog. Calls that fail are among the calls.
-/

namespace ServiceRegistry

/-- What was the case when a follower began to run. -/
structure Beginning where
  /-- The modules that were available, in the host's order. -/
  present : List ModuleId
  /-- How many events had been published. -/
  published : Nat

/-- The modules that were present or have arrived, each once and the last arrival first, given the
events, newest first. -/
def arrivals (present : List ModuleId) : List Event → List ModuleId
  | [] => present.reverse
  | e :: before =>
    if e.kind.isArrival then e.module.id :: (arrivals present before).filter (· ≠ e.module.id)
    else arrivals present before

namespace World

/-- The modules that are available on a host, in its order. -/
def present (w : World) (h : Nat) : List ModuleId :=
  ((w.host h).modules.filter (·.state.isResolved)).map (·.module.id)

/-- The events that a host has published since a follower began to run, newest first. -/
def since (w : World) (h : Nat) (b : Beginning) : List Event :=
  (w.host h).bus.log.take ((w.host h).bus.log.length - b.published)

/-- The tracked modules, the one that has arrived last first. -/
def ranking (w : World) (h n : Nat) (b : Beginning) : List ModuleId :=
  (arrivals b.present (w.since h b)).filter ((w.follower n).groups.contains ·)

/-- A module object has a content in memory. -/
def Static (content : Module → InMemory) (w : World) (m : Module) : Prop :=
  (content m).id = m.id ∧ w.stock.view m = (content m).view

/-- The descriptor for a service of the module object that a host holds for a number, if there is
one. -/
def descriptor? (content : Module → InMemory) (w : World) (h n : Nat) (service : String)
    (id : ModuleId) : Option Location :=
  ((w.host h).available? id).bind fun m =>
    (content m).descriptor? (w.follower n).rule.folder.toList service

/-- A follower and its catalog reflect a host. -/
structure Reflects (content : Module → InMemory) (h n : Nat) (w : World) (b : Option Beginning) :
    Prop where
  /-- A stopped follower leaves nothing behind. -/
  stopped : (w.follower n).running = false →
    (w.follower n).groups = .empty ∧ w.tableOf (w.follower n) = .empty
  /-- A running follower is up to date, and the candidates stand in the order of arrival. -/
  running : (w.follower n).running = true → w.UpToDate h n ∧ ∃ began, b = some began ∧
    (w.ranking h n began).Nodup ∧
    (∀ id, id ∈ w.ranking h n began ↔ id ∈ (w.follower n).tracked) ∧
    ∀ service, ((w.tableOf (w.follower n)).candidates service).map (·.location) =
      (w.ranking h n began).filterMap (w.descriptor? content h n service)

end World

open World Interruptible

variable {δ : Type} {outside : Signal → World × δ → World × δ → Prop} {h n : Nat}
  {content : Module → InMemory} {s t : World × δ} {w w' : World} {b : Option Beginning}
  {e : Event} {m : Module} {call : HostCall}

/-- A call on the host, or a start or stop of the follower. -/
inductive CallStep (outside : Signal → World × δ → World × δ → Prop)
    (content : Module → InMemory) (h n : Nat) :
    (World × δ) × Option Beginning → (World × δ) × Option Beginning → Prop where
  | host {s t : World × δ} {b : Option Beginning} {call : HostCall}
      (hbrings : call.Brings (Static content s.1))
      (hs : (call.work h).Ends outside s () t) :
      CallStep outside content h n (s, b) (t, b)
  | started {s t : World × δ} {b : Option Beginning} {watch : Option Nat}
      (hs : (startFollower n ⟨h, watch⟩).Ends outside s (.ok ()) t) :
      CallStep outside content h n (s, b)
        (t, some ⟨s.1.present h, (s.1.host h).bus.log.length⟩)
  | refused {s t : World × δ} {b : Option Beginning} {watch : Option Nat} {refusal : Error}
      (hs : (startFollower n ⟨h, watch⟩).Ends outside s (.error refusal) t) :
      CallStep outside content h n (s, b) (t, b)
  | stopped {s : World × δ} {b : Option Beginning} :
      CallStep outside content h n (s, b) ((s.1.stopFollower n, s.2), none)

/-- Between calls, a follower is stopped and has left nothing behind. -/
structure Idle (h n : Nat) (w : World) : Prop extends w.Detached h n where
  table : w.tableOf (w.follower n) = .empty

/-- Between calls, a follower runs and has taken up the modules in the order of their arrival. -/
structure Tracking (h n : Nat) (began : Beginning) (w : World) : Prop where
  attached : w.Attached h n
  inStep : ∀ x, w.InStep h n x
  published : began.published ≤ (w.host h).bus.log.length
  ordered : ∃ order, Ordered (w.follower n).groups (w.tableOf (w.follower n)) order ∧
    order.map (·.module) = w.ranking h n began

/-- What holds between calls. -/
structure Settled (content : Module → InMemory) (h n : Nat) (w : World) (b : Option Beginning) :
    Prop where
  sole : w.Sole h n
  distinct : (w.host h).Distinct
  static : ∀ d ∈ (w.host h).modules, Static content w d.module
  states : (w.follower n).startupStates = ModuleState.startupDefaults
  follows : Idle h n w ∨ ∃ began, b = some began ∧ Tracking h n began w

/-! ## What holds between calls is what can be seen -/

/-- A scan of a module in memory owns its locations. -/
theorem World.Static.own (hm : Static content w m) (serial : Nat) : (w.scanFor n m serial).Own := by
  unfold scanFor
  rw [hm.2]
  refine ScanRule.own_contribution fun l hl => ?_
  rw [InMemory.owner?_of_mem_list (ScanRule.mem_descriptors.1 hl).1, hm.1]

/-- What a scan of a module in memory offers for a service is the service's descriptor. -/
theorem World.Static.offers (hm : Static content w m) (serial : Nat) (service : String) :
    ((w.scanFor n m serial).offers service).map (·.location) =
      ((content m).descriptor? (w.follower n).rule.folder.toList service).toList := by
  have hlist : (w.stock.view m).list (w.follower n).rule.folder.toList =
      .ok ((content m).list (w.follower n).rule.folder.toList) := by
    rw [hm.2]
    rfl
  rw [scanFor, ScanRule.locations_offers, hlist, InMemory.filter_shown_list]
  cases (content m).descriptor? (w.follower n).rule.folder.toList service <;> rfl

/-- A running follower has stored, for each contribution in its order, a scan of the object that the
host holds. -/
theorem Tracking.scanned {began : Beginning} (hw : Tracking h n began w)
    {order : List Contribution} {t : Table} (ho : Ordered (w.follower n).groups t order)
    {c : Contribution} (hc : c ∈ order) :
    ∃ m serial, (w.host h).available? c.module = some m ∧ c = w.scanFor n m serial := by
  have hget := (ho.groups c.module c).2 ⟨hc, rfl⟩
  have hx := hw.inStep c.module
  unfold InStep at hx
  split at hx
  · rw [hx] at hget
    cases hget
  · rename_i m havailable
    obtain ⟨serial, hx⟩ := hx
    exact ⟨m, serial, havailable, Option.some.inj (hget.symm.trans hx)⟩

/-- An available object is on the list, so what is said of the listed ones is true of it. -/
theorem static_of_available (hs : ∀ d ∈ (w.host h).modules, Static content w d.module)
    {id : ModuleId} (hm : (w.host h).available? id = some m) : Static content w m := by
  obtain ⟨d, hd, hm⟩ := Option.bind_eq_some_iff.1 hm
  split at hm
  · cases hm
    exact hs d (Host.mem_of_hosted? hd)
  · cases hm

/-- While a follower runs, the candidates of a service are the descriptors of the available modules,
in the order of their ranking. -/
theorem Tracking.candidates {began : Beginning} (hw : Tracking h n began w)
    (hstatic : ∀ d ∈ (w.host h).modules, Static content w d.module) (service : String) :
    ((w.tableOf (w.follower n)).candidates service).map (·.location) =
      (w.ranking h n began).filterMap (w.descriptor? content h n service) := by
  obtain ⟨order, ho, hranking⟩ := hw.ordered
  rw [ho.candidates, ← hranking, List.map_flatMap, List.filterMap_eq_flatMap_toList,
    List.flatMap_map]
  apply List.flatMap_congr
  intro c hc
  obtain ⟨m, serial, havailable, rfl⟩ := hw.scanned ho hc
  rw [(static_of_available hstatic havailable).offers]
  unfold World.descriptor?
  rw [havailable]
  rfl

/-- What holds between calls is all that can be seen of a follower and its catalog. -/
theorem Settled.reflects (hw : Settled content h n w b) : w.Reflects content h n b := by
  rcases hw.follows with hidle | ⟨began, rfl, htracking⟩
  · refine ⟨fun _ => ⟨hidle.groups, hidle.table⟩, fun hrun => ?_⟩
    rw [hidle.stopped] at hrun
    cases hrun
  · refine ⟨fun hstop => ?_, fun _ => ⟨upToDate_of_inStep htracking.inStep, began, rfl, ?_, ?_, ?_⟩⟩
    · rw [htracking.attached.running] at hstop
      cases hstop
    · obtain ⟨order, ho, hranking⟩ := htracking.ordered
      exact hranking ▸ ho.nodup
    · intro id
      obtain ⟨order, ho, hranking⟩ := htracking.ordered
      rw [← hranking, List.mem_map, Follower.tracked, Dict.mem_keys_iff]
      simp only [ho.groups]
    · exact htracking.candidates hw.static

/-! ## Calls on the host -/

/-- A stopped follower that shares its table with nobody remains idle in an alike world. -/
theorem Idle.alike (hs : w.Sole h n) (hi : Idle h n w) (a : Alike h n w w') : Idle h n w' where
  toDetached := a.detached hi.toDetached
  table := by
    rw [a.follower, (a.table hs).2]
    exact hi.table

/-- A stopped follower remains idle when an event passes by. -/
theorem Idle.delivered {host : Host} (hs : w.Sole h n) (hi : Idle h n w)
    (hbus : host.bus = (w.host h).bus) (hw : Delivered h n e (w.recorded h host e) w') :
    Idle h n w' := by
  have hunserved : (w.recorded h host e).Unserved h n :=
    unserved_record (unserved_setHost hbus hi.toUnserved) e
  have hrecorded : Idle h n (w.recorded h host e) :=
    ⟨⟨hunserved, hi.unsubscribed, hi.stopped, hi.held, hi.groups⟩, hi.table⟩
  cases hw with
  | heard ha _ => exact absurd hunserved ha.not_unserved
  | unheard _ ha => exact hrecorded.alike ((sole_recorded hbus e).2 hs) ha

/-- Calls on the host do not concern a stopped follower. -/
theorem Idle.announced (hs : w.Sole h n) (hi : Idle h n w) (hw : Announced h n call w w') :
    Idle h n w' := by
  cases hw with
  | idle ha => exact hi.alike hs ha
  | changes _ hc hw => exact hi.delivered hs hc.bus hw
  | replaces _ _ hc hw => exact hi.delivered hs (Host.bus_replace hc) hw

section Ranking

variable {id : ModuleId} {l : List ModuleId} {tracked tracked' : ModuleId → Bool}

/-- A module that is taken up comes first, and the others stay in their order. -/
theorem filter_cons_of_arrival (h : ∀ x, tracked' x = (decide (x = id) || tracked x)) :
    (id :: l.filter (· ≠ id)).filter tracked' = id :: (l.filter tracked).filter (· ≠ id) := by
  rw [List.filter_cons_of_pos (by simp [h]), List.filter_filter, List.filter_filter]
  congr 1
  apply List.filter_congr
  intro x _
  by_cases hx : x = id <;> simp [h, hx]

/-- A module that is let go of goes, and the others stay in their order. -/
theorem filter_of_departure (h : ∀ x, tracked' x = (decide (x ≠ id) && tracked x)) :
    l.filter tracked' = (l.filter tracked).filter (· ≠ id) := by
  rw [List.filter_filter]
  exact List.filter_congr fun x _ => h x

/-- Taking a module's contribution out of an order takes its number out of the numbers. -/
theorem map_filter_module (order : List Contribution) (id : ModuleId) :
    (order.filter (·.module ≠ id)).map (·.module) = (order.map (·.module)).filter (· ≠ id) := by
  rw [List.filter_map]
  rfl

end Ranking

/-- One more event since the follower began to run. -/
theorem since_cons {began : Beginning} (hp : began.published ≤ (w.host h).bus.log.length)
    (hlog : (w'.host h).bus.log = e :: (w.host h).bus.log) :
    w'.since h began = e :: w.since h began := by
  unfold World.since
  rw [hlog, List.length_cons, Nat.succ_sub hp, List.take_succ_cons]

/-- The order of the contributions follows the order of arrival. -/
theorem Tracking.heard {began : Beginning} {host : Host} (hs : w.Sole h n)
    (hw : Tracking h n began w) (hbus : host.bus = (w.host h).bus)
    (hstatic : Static content w e.module)
    (hheard : Heard h n e (w.recorded h host e) w') :
    ∃ order, Ordered (w'.follower n).groups (w'.tableOf (w'.follower n)) order ∧
      order.map (·.module) = w'.ranking h n began := by
  obtain ⟨order, ho, hranking⟩ := hw.ordered
  have hsole : (w.recorded h host e).Sole h n := (sole_recorded hbus e).2 hs
  have hlog : (w'.host h).bus.log = e :: (w.host h).bus.log := by
    rw [hheard.frame.2.1, log_recorded, hbus]
  unfold World.ranking at hranking ⊢
  rw [since_cons hw.published hlog, arrivals]
  cases hheard with
  | arrival he serial ha =>
    obtain ⟨hfollower, htable⟩ := ha.of_onFollower (tracks_arrive _)
    have htable := (htable hsole).2
    have hc : ((w.recorded h host e).scanFor n e.module serial).Own :=
      World.Static.own (w := w.recorded h host e) hstatic serial
    rw [if_pos he, htable, hfollower]
    refine ⟨_, ho.arrive hc, ?_⟩
    rw [List.map_cons, map_filter_module, hranking, Follower.fst_arrive]
    exact (filter_cons_of_arrival fun x => Dict.contains_insert _ _ _ _).symm
  | departure he ha =>
    obtain ⟨hfollower, htable⟩ := ha.of_onFollower (tracks_depart _)
    have htable := (htable hsole).2
    rw [if_neg (by simp [EventKind.isArrival_of_isDeparture he]), htable, hfollower]
    refine ⟨_, ho.depart e.module.id, ?_⟩
    rw [map_filter_module, hranking, Follower.fst_depart]
    exact (filter_of_departure fun x => Dict.contains_erase _ _ _).symm
  | other harrival hdeparture ha =>
    rw [if_neg (by simp [harrival])]
    have hfollower : w'.follower n = w.follower n := ha.follower
    have htable : w'.tableOf (w.follower n) = w.tableOf (w.follower n) := (ha.table hsole).2
    rw [hfollower, htable]
    exact ⟨order, ho, hranking⟩

/-- No other follower comes to follow the host. -/
theorem Announced.sole (hs : w.Sole h n) (hw : Announced h n call w w') : w'.Sole h n := by
  have hdelivered {e : Event} {host : Host} (hbus : host.bus = (w.host h).bus)
      (hw : Delivered h n e (w.recorded h host e) w') : w'.Sole h n := by
    have hsole : (w.recorded h host e).Sole h n := (sole_recorded hbus e).2 hs
    cases hw with
    | heard _ hw =>
      cases hw with
      | arrival _ serial ha => exact (ha.table hsole).1
      | departure _ ha => exact (ha.table hsole).1
      | other _ _ ha => exact (ha.table hsole).1
    | unheard _ ha => exact (ha.table hsole).1
  cases hw with
  | idle ha => exact (ha.table hs).1
  | changes _ hc hw => exact hdelivered hc.bus hw
  | replaces _ _ hc hw => exact hdelivered (Host.bus_replace hc) hw

/-- A step of a call does not change what modules answer. -/
theorem Announced.view (hw : Announced h n call w w') (m : Module) :
    w'.stock.view m = w.stock.view m := by
  cases hw with
  | idle ha => exact ha.view m
  | changes _ _ hw => exact hw.view m
  | replaces _ _ _ hw => exact hw.view m

/-- The follower's settings stay. -/
theorem Announced.states (hw : Announced h n call w w') :
    (w'.follower n).startupStates = (w.follower n).startupStates := by
  have hdelivered {e : Event} {host : Host} (hw : Delivered h n e (w.recorded h host e) w') :
      (w'.follower n).startupStates = (w.follower n).startupStates := by
    cases hw with
    | heard _ hw => rw [hw.frame.2.2.2.1]; rfl
    | unheard _ ha => rw [ha.follower]; rfl
  cases hw with
  | idle ha => rw [ha.follower]
  | changes _ _ hw => exact hdelivered hw
  | replaces _ _ _ hw => exact hdelivered hw

/-- No event is forgotten. -/
theorem Announced.log (hw : Announced h n call w w') :
    (w.host h).bus.log.length ≤ (w'.host h).bus.log.length := by
  cases hw with
  | idle ha => exact Nat.le_of_eq (by rw [ha.log])
  | changes _ hc hw =>
    rw [hw.log, log_recorded, hc.bus]
    exact Nat.le_succ _
  | replaces _ _ hc hw =>
    rw [hw.log, log_recorded, Host.bus_replace hc]
    exact Nat.le_succ _

/-- That an object answers from fixed content is seen from its answers. -/
theorem World.Static.congr (hm : Static content w m)
    (hview : ∀ m, w'.stock.view m = w.stock.view m) : Static content w' m :=
  ⟨hm.1, (hview m).trans hm.2⟩

/-- Calls bring only modules in memory onto the list. -/
theorem Announced.static (hbrings : call.Brings (Static content w))
    (hs : ∀ d ∈ (w.host h).modules, Static content w d.module) (hw : Announced h n call w w') :
    ∀ d ∈ (w'.host h).modules, Static content w' d.module := by
  intro d hd
  refine World.Static.congr ?_ hw.view
  cases hw with
  | idle ha =>
    rw [ha.modules] at hd
    exact hs d hd
  | changes hcall hc hw =>
    rw [hw.modules, modules_recorded] at hd
    rcases hc.mem_modules hd with ⟨d', hd', hdd⟩ | ⟨hkind, hdm⟩
    · exact hdd ▸ hs d' hd'
    · rw [hcall hkind] at hbrings
      exact hdm ▸ hbrings
  | replaces hcall _ hc hw =>
    rw [hw.modules, modules_recorded, Host.replace_eq_ok hc] at hd
    rcases Host.mem_changeFirst hd with hd | ⟨d', hd', rfl⟩
    · exact hs d hd
    · rw [hcall] at hbrings
      exact hbrings

/-- A running follower takes up and lets go of modules in the order of the host's events. -/
theorem Tracking.announced {began : Beginning} (hsole : w.Sole h n) (hd : (w.host h).Distinct)
    (hs : ∀ d ∈ (w.host h).modules, Static content w d.module)
    (hbrings : call.Brings (Static content w)) (ht : Tracking h n began w)
    (hw : Announced h n call w w') : Tracking h n began w' := by
  have hfollows := hw.follows ht.attached hd
  refine ⟨hfollows.attached, fun x => ?_, Nat.le_trans ht.published hw.log, ?_⟩
  · exact (hfollows.modules x).elim (·.inStep) fun hx => hfollows.inStep hx (ht.inStep x)
  · cases hw with
    | idle ha =>
      obtain ⟨order, ho, hranking⟩ := ht.ordered
      refine ⟨order, ?_, ?_⟩
      · rw [ha.follower, (ha.table hsole).2]
        exact ho
      · unfold World.ranking World.since at hranking ⊢
        rw [ha.follower, ha.log]
        exact hranking
    | @changes e host hcall hc hw =>
      have hattached := attached_record (attached_setHost hc.bus ht.attached) e
      have hmodule : Static content w e.module := by
        rcases hc.module_mem with hkind | ⟨d, hd, hdm⟩
        · rw [hcall hkind] at hbrings
          exact hbrings
        · exact hdm ▸ hs d hd
      exact ht.heard hsole hc.bus hmodule (hw.heard_of_attached hattached)
    | @replaces m host hcall _ hc hw =>
      have hattached := attached_record (attached_setHost (Host.bus_replace hc) ht.attached)
        ⟨.updated, m⟩
      have hmodule : Static content w m := by
        rw [hcall] at hbrings
        exact hbrings
      exact ht.heard hsole (Host.bus_replace hc) hmodule (hw.heard_of_attached hattached)

/-- Steps of a call lead from what holds between calls to what holds between calls. -/
theorem Settled.announced (hw : Settled content h n w b) (hbrings : call.Brings (Static content w))
    (hsteps : Relation.ReflTransGen (Announced h n call) w w') : Settled content h n w' b := by
  have hall : Settled content h n w' b ∧ ∀ m, w'.stock.view m = w.stock.view m := by
    induction hsteps with
    | refl => exact ⟨hw, fun _ => rfl⟩
    | @tail u v _ hstep ih =>
      obtain ⟨hu, hview⟩ := ih
      have hbrings' : call.Brings (Static content u) :=
        hbrings.mono fun m hm => hm.congr hview
      refine ⟨⟨hstep.sole hu.sole, hstep.distinct hu.distinct, hstep.static hbrings' hu.static,
        hstep.states.trans hu.states, ?_⟩, fun m => (hstep.view m).trans (hview m)⟩
      exact hu.follows.imp (fun hi => hi.announced hu.sole hstep) fun ⟨began, hb, ht⟩ =>
        ⟨began, hb, ht.announced hu.sole hu.distinct hu.static hbrings' hstep⟩
  exact hall.1

/-- A call on the host leads from what holds between calls to what holds between calls. -/
theorem Settled.of_call (hquiet : Quiet h n outside) (hw : Settled content h n s.1 b)
    (hbrings : call.Brings (Static content s.1)) (hs : (call.work h).Ends outside s () t) :
    Settled content h n t.1 b := by
  have hserved : s.1.Served h n :=
    hw.follows.elim (fun hi => .inr hi.toUnserved) fun ⟨_, _, ht⟩ => .inl ht.attached
  exact hw.announced hbrings (HostCall.announced hquiet hw.distinct hserved hs).2

/-! ## Starts and stops -/

/-- The contributions that are stored between calls have an order. -/
theorem Settled.ordered (hw : Settled content h n w b) :
    ∃ order, Ordered (w.follower n).groups (w.tableOf (w.follower n)) order := by
  rcases hw.follows with hi | ⟨began, -, ht⟩
  · rw [hi.groups, hi.table]
    exact ⟨[], .empty⟩
  · obtain ⟨order, ho, -⟩ := ht.ordered
    exact ⟨order, ho⟩

/-- A follower that stops leaves nothing behind. -/
theorem Settled.stop (hw : Settled content h n w b) :
    Settled content h n (w.stopFollower n) none := by
  obtain ⟨order, ho⟩ := hw.ordered
  have hmodules : ((w.stopFollower n).host h).modules = (w.host h).modules := by
    rw [host_stopFollower, modules_endSubscription]
  have hfollower := follower_stopFollower w n n
  rw [if_pos rfl] at hfollower
  have hlinked : w.Attached h n ∨ w.Detached h n :=
    hw.follows.symm.imp (fun ⟨_, _, ht⟩ => ht.attached) fun hi => hi.toDetached
  refine ⟨sole_endSubscription hw.sole, ?_, fun d hd => ?_, ?_,
    .inl ⟨detached_stopFollower hlinked, ?_⟩⟩
  · unfold Host.Distinct
    rw [hmodules]
    exact hw.distinct
  · rw [hmodules] at hd
    exact (hw.static d hd).congr fun m => by rw [stock_stopFollower]
  · rw [hfollower]
    exact hw.states
  · rw [hfollower]
    unfold tableOf
    rw [catalog_stopFollower, if_pos rfl]
    exact ho.halt.2

/-- A follower has taken up the first modules of a list, one after another. -/
structure Filling (h n : Nat) (w₀ : World) (done : List Hosted) (w : World) : Prop where
  sole : w.Sole h n
  modules : (w.host h).modules = (w₀.host h).modules
  log : (w.host h).bus.log = (w₀.host h).bus.log
  frame : w.follower n = { w₀.follower n with groups := (w.follower n).groups }
  view : ∀ m, w.stock.view m = w₀.stock.view m
  ordered : ∃ order, Ordered (w.follower n).groups (w.tableOf (w.follower n)) order ∧
    order.map (·.module) = ((done.filter (·.state.isResolved)).map (·.module.id)).reverse

variable {w₀ : World} {done : List Hosted} {hosted : Hosted}

/-- A follower that is taking up a list goes on doing so in an alike world. -/
theorem Filling.alike (hf : Filling h n w₀ done w) (a : Alike h n w w') :
    Filling h n w₀ done w' where
  sole := (a.table hf.sole).1
  modules := a.modules.trans hf.modules
  log := a.log.trans hf.log
  frame := by
    rw [a.follower]
    exact hf.frame
  view m := (a.view m).trans (hf.view m)
  ordered := by
    rw [a.follower, (a.table hf.sole).2]
    exact hf.ordered

/-- A listed module that is unavailable is passed over. -/
theorem Filling.pass (hf : Filling h n w₀ done w) (hstate : hosted.state.isResolved = false) :
    Filling h n w₀ (done ++ [hosted]) w := by
  refine { hf with ordered := ?_ }
  rw [List.filter_append, List.filter_cons_of_neg (by simp [hstate]), List.filter_nil,
    List.append_nil]
  exact hf.ordered

/-- A listed module that is available is taken up before those that were taken up already. -/
theorem Filling.adopt {serial : Nat} (hf : Filling h n w₀ done w)
    (hstate : hosted.state.isResolved = true)
    (hnew : hosted.module.id ∉ done.map (·.module.id))
    (hstatic : Static content w hosted.module) :
    Filling h n w₀ (done ++ [hosted])
      (w.onFollower n fun f t => f.adopt t (w.scanFor n hosted.module serial)) := by
  obtain ⟨order, ho, horder⟩ := hf.ordered
  obtain ⟨hfollower, htable⟩ :=
    Alike.of_onFollower (tracks_adopt (w.scanFor n hosted.module serial)) (.refl (h := h) _)
  have htable := (htable hf.sole).2
  have hown : (w.scanFor n hosted.module serial).Own := hstatic.own serial
  have hordered := ho.adopt hown
  refine ⟨hf.sole, hf.modules, hf.log, ?_, hf.view, _, htable ▸ hfollower ▸ hordered, ?_⟩
  · rw [hfollower, Follower.fst_adopt, hf.frame]
  · have hall : (order.map (·.module)).filter (· ≠ hosted.module.id) = order.map (·.module) := by
      refine List.filter_eq_self.2 fun x hx => decide_eq_true fun hid => hnew ?_
      rw [horder, List.mem_reverse, hid] at hx
      exact ((List.filter_sublist).map _).subset hx
    have hmodule : (w.scanFor n hosted.module serial).module = hosted.module.id := rfl
    rw [List.map_cons, hmodule, map_filter_module, hall, horder, List.filter_append,
      List.filter_cons_of_pos (by simpa using hstate)]
    simp

/-- A listed module is taken up or passed over. -/
theorem Filling.step (hquiet : Quiet h n outside) (hf : Filling h n w₀ done s.1)
    (hrun : (w₀.follower n).running = true)
    (hunmarked : ∀ x, (w₀.follower n).isMarked x = false)
    (hstates : (w₀.follower n).startupStates = ModuleState.startupDefaults)
    (hnew : hosted.module.id ∉ done.map (·.module.id)) (hstatic : Static content w₀ hosted.module)
    (hs : (replayHosted n hosted).Ends outside s () t) :
    Filling h n w₀ (done ++ [hosted]) t.1 := by
  have hstates' : (s.1.follower n).startupStates = ModuleState.startupDefaults := by
    rw [hf.frame]
    exact hstates
  obtain ⟨hresolved, rfl⟩ | ⟨hresolved, c, u, hscan, hs⟩ := ends_replayHosted hstates' hs
  · exact hf.pass hresolved
  · obtain ⟨hu, serial, rfl⟩ := ends_scan_quiet hquiet hscan
    have hfu := hf.alike hu
    have hmarked : (u.1.follower n).isMarked hosted.module.id = false := by
      rw [hfu.frame]
      exact hunmarked _
    have hrunning : (u.1.follower n).running = true := by
      rw [hfu.frame]
      exact hrun
    obtain ⟨-, -, hs⟩ | ⟨hmarked', -⟩ := hs
    · rw [← hu.scanFor] at hs
      have htaken := ends_takeUp_quiet hquiet hs
      exact (hfu.adopt hresolved hnew (hstatic.congr hfu.view)).alike htaken
    · rw [hmarked' hrunning] at hmarked
      cases hmarked

/-- All listed modules are taken up or passed over. -/
theorem Filling.each (hquiet : Quiet h n outside) (hf : Filling h n w₀ [] s.1)
    (hrun : (w₀.follower n).running = true)
    (hunmarked : ∀ x, (w₀.follower n).isMarked x = false)
    (hstates : (w₀.follower n).startupStates = ModuleState.startupDefaults)
    (hd : (w₀.host h).Distinct) (hstatic : ∀ d ∈ (w₀.host h).modules, Static content w₀ d.module)
    (hs : (each (replayHosted n) (w₀.host h).modules).Ends outside s () t) :
    Filling h n w₀ (w₀.host h).modules t.1 := by
  obtain ⟨done, hall, hf⟩ := Ends.each_induction
    (motive := fun rest u => ∃ done, (w₀.host h).modules = done ++ rest ∧ Filling h n w₀ done u.1)
    hs ⟨[], rfl, hf⟩ fun hosted rest u v hstep ⟨done, hall, hu⟩ => by
      have hnodup : ((done ++ hosted :: rest).map (·.module.id)).Nodup := hall ▸ hd
      rw [List.map_append, List.map_cons] at hnodup
      have hmem : hosted ∈ (w₀.host h).modules := by simp [hall]
      refine ⟨done ++ [hosted], by simp [hall], ?_⟩
      refine hu.step hquiet hrun hunmarked hstates (fun hdone => ?_) (hstatic hosted hmem) hstep
      exact (List.nodup_append.1 hnodup).2.2 _ hdone _ List.mem_cons_self rfl
  rw [List.append_nil] at hall
  exact hall ▸ hf

/-- Right after a follower has subscribed, nothing has been taken up. -/
theorem filling_subscribeFollower (hs : w.Sole h n) (hi : Idle h n w) :
    Filling h n (w.subscribeFollower n h) [] (w.subscribeFollower n h) := by
  refine ⟨sole_subscribeFollower hs, rfl, rfl, rfl, fun _ => rfl, [], ?_, rfl⟩
  have hgroups : ((w.subscribeFollower n h).follower n).groups = .empty := by
    rw [follower_subscribeFollower, if_pos rfl]
    exact hi.groups
  have htable : (w.subscribeFollower n h).tableOf ((w.subscribeFollower n h).follower n) =
      .empty := by
    rw [follower_subscribeFollower, if_pos rfl]
    exact hi.table
  rw [hgroups, htable]
  exact .empty

/-- What has been taken up from the list stands in the order of arrival. -/
theorem Filling.ranking {began : Beginning} (hf : Filling h n w₀ (w₀.host h).modules w)
    (hpresent : began.present = w₀.present h)
    (hpublished : began.published = (w₀.host h).bus.log.length) :
    ∃ order, Ordered (w.follower n).groups (w.tableOf (w.follower n)) order ∧
      order.map (·.module) = w.ranking h n began := by
  obtain ⟨order, ho, horder⟩ := hf.ordered
  have hsince : w.since h began = [] := by
    unfold World.since
    rw [hf.log, hpublished, Nat.sub_self]
    rfl
  refine ⟨order, ho, ?_⟩
  unfold World.ranking
  rw [hsince, arrivals, hpresent]
  have hall : order.map (·.module) = (w₀.present h).reverse := horder
  rw [← hall]
  refine (List.filter_eq_self.2 fun x hx => ?_).symm
  obtain ⟨c, hc, hx⟩ := List.mem_map.1 hx
  rw [Dict.contains, (ho.groups x c).2 ⟨hc, hx⟩]
  rfl

/-- A start takes up what is listed and then settles. -/
theorem filling_of_start (hquiet : Quiet h n outside) (hw : Settled content h n s.1 b)
    (hi : Idle h n s.1) {watch : Option Nat} {answer : Except Error Unit}
    (hs : (startFollower n ⟨h, watch⟩).Ends outside s answer t) :
    ∃ u, Filling h n (s.1.subscribeFollower n h) ((s.1.subscribeFollower n h).host h).modules u ∧
      t.1 = u.setFollower n (u.follower n).settle := by
  obtain ⟨-, u, v, hbetween, heach, rfl⟩ := ends_startFollower hi.unsubscribed hs
  have hbegin : Filling h n (s.1.subscribeFollower n h) [] u.1 := by
    rcases hbetween with rfl | ⟨watch, hbetween⟩
    · exact filling_subscribeFollower hw.sole hi
    · exact (filling_subscribeFollower hw.sole hi).alike (hquiet _ _ _ hbetween)
  have hbegun := follower_subscribeFollower_self s.1 n h
  have hmodules := modules_subscribeFollower s.1 n h h
  have hstatic : ∀ d ∈ ((s.1.subscribeFollower n h).host h).modules,
      Static content (s.1.subscribeFollower n h) d.module := by
    rw [hmodules]
    exact fun d hd => (hw.static d hd).congr fun _ => rfl
  refine ⟨v.1, ?_, rfl⟩
  refine hbegin.each hquiet (by rw [hbegun]; rfl) (fun x => by rw [hbegun]; rfl)
    (by rw [hbegun]; exact hw.states) ?_ hstatic (hmodules ▸ heach)
  unfold Host.Distinct
  rw [hmodules]
  exact hw.distinct

/-- A follower that has taken up the list is tracking once it has settled. -/
theorem Filling.tracking {began : Beginning} (hf : Filling h n w₀ (w₀.host h).modules w)
    (hpresent : began.present = w₀.present h)
    (hpublished : began.published = (w₀.host h).bus.log.length)
    (hattached : (w.setFollower n (w.follower n).settle).Attached h n)
    (hin : ∀ x, (w.setFollower n (w.follower n).settle).InStep h n x) :
    Tracking h n began (w.setFollower n (w.follower n).settle) := by
  refine ⟨hattached, hin, ?_, ?_⟩
  · have hlog := congrArg List.length hf.log
    exact Nat.le_of_eq (hpublished.trans hlog.symm)
  · have hranking := hf.ranking hpresent hpublished
    unfold World.ranking World.since at hranking ⊢
    rw [follower_setFollower, if_pos rfl]
    exact hranking

/-- A stopped follower that is asked to start takes up the available modules in the order of the
list. -/
theorem Settled.start_of_idle (hquiet : Quiet h n outside) (hw : Settled content h n s.1 b)
    (hi : Idle h n s.1) {watch : Option Nat} {answer : Except Error Unit}
    (hs : (startFollower n ⟨h, watch⟩).Ends outside s answer t) :
    answer = .ok () ∧
      Settled content h n t.1 (some ⟨s.1.present h, (s.1.host h).bus.log.length⟩) := by
  have hinterludes : (startFollower n ⟨h, watch⟩).Ends (Interludes outside h n) s answer t := by
    refine Run.Ends.mono (fun i s t hout => ?_) hs
    cases i with
    | listed | surveyed => exact .single (.inr (hquiet _ _ _ hout))
    | heard | reported => exact hout
  obtain ⟨hok, u, hr, hu⟩ := replaying_of_start hw.distinct hi.toDetached hw.states hquiet
    hinterludes
  have hinStep : ∀ x, t.1.InStep h n x := hu ▸ hr.inStep_settle
  have hattached : t.1.Attached h n := hu ▸ attached_settle hr.attached
  obtain ⟨v, hf, hv⟩ := filling_of_start hquiet hw hi hs
  have hmodules : (v.host h).modules = (s.1.host h).modules := by
    rw [hf.modules, modules_subscribeFollower]
  have hpresent : (s.1.subscribeFollower n h).present h = s.1.present h := by
    unfold World.present
    rw [modules_subscribeFollower]
  have hpublished : ((s.1.subscribeFollower n h).host h).bus.log = (s.1.host h).bus.log := by
    rw [host_subscribeFollower, if_pos rfl]
    rfl
  rw [hv] at hinStep hattached ⊢
  have htracking : Tracking h n ⟨s.1.present h, (s.1.host h).bus.log.length⟩
      (v.setFollower n (v.follower n).settle) :=
    hf.tracking hpresent.symm (by rw [hpublished]) hattached hinStep
  refine ⟨hok, hf.sole, ?_, ?_, ?_, .inr ⟨_, rfl, htracking⟩⟩
  · unfold Host.Distinct
    rw [host_setFollower, hmodules]
    exact hw.distinct
  · rw [host_setFollower, hmodules]
    exact fun d hd => (hw.static d hd).congr hf.view
  · rw [follower_setFollower, if_pos rfl]
    have hframe := hf.frame
    rw [follower_subscribeFollower_self] at hframe
    have hstates : (v.follower n).startupStates = (s.1.follower n).startupStates := by
      rw [hframe]
      rfl
    exact hstates.trans hw.states

/-- A follower that runs refuses to start, and a refusal changes nothing. -/
theorem Tracking.start {began : Beginning} (ht : Tracking h n began s.1) {watch : Option Nat}
    {answer : Except Error Unit}
    (hs : (startFollower n ⟨h, watch⟩).Ends outside s answer t) :
    answer = .error alreadyRunning ∧ t = s := by
  obtain ⟨id, hsub, -⟩ := ht.attached.subscription
  exact ends_startFollower_of_subscribed hsub hs

/-- Every call leads from what holds between calls to what holds between calls. -/
theorem Settled.step (hquiet : Quiet h n outside) {b' : Option Beginning}
    (hw : Settled content h n s.1 b) (hstep : CallStep outside content h n (s, b) (t, b')) :
    Settled content h n t.1 b' := by
  cases hstep with
  | host hbrings hs => exact hw.of_call hquiet hbrings hs
  | started hs =>
    rcases hw.follows with hi | ⟨began, -, ht⟩
    · exact (hw.start_of_idle hquiet hi hs).2
    · cases (ht.start hs).1
  | refused hs =>
    rcases hw.follows with hi | ⟨began, -, ht⟩
    · cases (hw.start_of_idle hquiet hi hs).1
    · exact (ht.start hs).2 ▸ hw
  | stopped => exact hw.stop

/-- After every call, a stopped follower leaves nothing behind, and a running one tracks exactly the
available modules, of which the one that has arrived last comes first. -/
theorem reflects_of_calls (hquiet : Quiet h n outside) (hsole : s.1.Sole h n)
    (hd : (s.1.host h).Distinct)
    (hstatic : ∀ d ∈ (s.1.host h).modules, Static content s.1 d.module)
    (hstates : (s.1.follower n).startupStates = ModuleState.startupDefaults)
    (hidle : Idle h n s.1)
    (hs : Relation.ReflTransGen (CallStep outside content h n) (s, none) (t, b)) :
    t.1.Reflects content h n b := by
  have hsettled : ∀ g, Relation.ReflTransGen (CallStep outside content h n) (s, none) g →
      Settled content h n g.1.1 g.2 := by
    intro g hg
    induction hg with
    | refl => exact ⟨hsole, hd, hstatic, hstates, .inl hidle⟩
    | tail _ hstep ih => exact ih.step hquiet hstep
  exact (hsettled _ hs).reflects

/-! A follower starts on an empty host, on which two modules arrive one after the other. -/

section Example

/-- A module with one descriptor. -/
def hello : InMemory := .build ⟨1⟩ [.service "Greeter" default]

/-- Another module with a descriptor for the same service. -/
def welcome : InMemory := .build ⟨2⟩ [.service "Greeter" default]

/-- A world with both modules in memory. -/
def greeters : World where
  stock := { objects := ⟨[{ content := .inMemory hello }, { content := .inMemory welcome }]⟩ }

/-- What the objects of the world contain. -/
def greeterContent (m : Module) : InMemory := if m.object = 0 then hello else welcome

/-- Performs a call on the host that nothing disturbs. -/
def performed (call : HostCall) (s : World × Unit) : World × Unit :=
  (((call.work 0 s.1).beside s.2).finish fun _ u => u).2

/-- Starts the follower, and nothing disturbs it. -/
def afterStart (s : World × Unit) : World × Unit :=
  (((startFollower 0 ⟨0, none⟩ s.1).beside s.2).finish fun _ u => u).2

/-- To leave the world as it is, is to leave it undisturbed. -/
theorem undisturbed_self (i : Signal) (s : World × Unit) : undisturbed i s s := rfl

/-- A call that is performed comes to its end without being disturbed. -/
theorem ends_performed (call : HostCall) (s : World × Unit) :
    (call.work 0).Ends undisturbed s () (performed call s) :=
  Run.ends_finish undisturbed_self _ _

/-- A start that is performed comes to its end without being disturbed. -/
theorem ends_afterStart (s : World × Unit) {answer : Except Error Unit}
    (h : (((startFollower 0 ⟨0, none⟩ s.1).beside s.2).finish fun _ u => u).1 = answer) :
    (startFollower 0 ⟨0, none⟩).Ends undisturbed s answer (afterStart s) :=
  h ▸ Run.ends_finish undisturbed_self _ _

/-- The follower runs, and of the two candidates that it has brought, the one that has arrived last
comes first. -/
theorem reflects_of_calls_greeters : ∃ t b,
    Relation.ReflTransGen (CallStep undisturbed greeterContent 0 0) ((greeters, ()), none) (t, b) ∧
    (t.1.follower 0).running = true ∧
    ((t.1.tableOf (t.1.follower 0)).candidates "Greeter").map (·.module.id) = [⟨2⟩, ⟨1⟩] ∧
    ∀ service, ((t.1.tableOf (t.1.follower 0)).candidates service).map (·.location) =
      [⟨2⟩, ⟨1⟩].filterMap (t.1.descriptor? greeterContent 0 0 service) := by
  have hquiet : Quiet 0 0 undisturbed := by
    rintro _ _ u rfl
    exact .refl u.1
  have hs : Relation.ReflTransGen (CallStep undisturbed greeterContent 0 0) ((greeters, ()), none)
      (performed (.resolve ⟨2⟩) (performed (.install ⟨1, ⟨2⟩, "module-2"⟩)
        (performed (.resolve ⟨1⟩) (performed (.install ⟨0, ⟨1⟩, "module-1"⟩)
          (afterStart (greeters, ()))))), some ⟨[], 0⟩) := by
    refine .tail (.tail (.tail (.tail (.single (.started (ends_afterStart _ ?_)))
      (.host ?_ (ends_performed _ _))) (.host ?_ (ends_performed _ _)))
        (.host ?_ (ends_performed _ _))) (.host ?_ (ends_performed _ _))
    · rfl
    · exact ⟨rfl, rfl⟩
    · trivial
    · exact ⟨rfl, rfl⟩
    · trivial
  refine ⟨_, _, hs, by decide +kernel, by decide +kernel, ?_⟩
  obtain ⟨-, began, hb, -, -, hcandidates⟩ := (reflects_of_calls hquiet (s := (greeters, ()))
    nofun List.nodup_nil (fun d hd => absurd hd List.not_mem_nil) rfl
    ⟨⟨⟨⟨nofun, nofun, nofun⟩, rfl⟩, rfl, rfl, by decide, rfl⟩, rfl⟩ hs).running (by decide +kernel)
  cases hb
  intro service
  rw [hcandidates]
  congr 1

end Example

end ServiceRegistry
