import ServiceRegistry.Proofs.HostCalls
import ServiceRegistry.Proofs.Stage

/-!
# Elementary changes

An operation of a follower or of a host goes on for a stretch, lets others act, and goes on from
whatever state they leave. What it does in a stretch is a sequence of critical sections, each of
which changes the world at one go. By its effect on who follows which host a section is one of a few
(`World.Change`), or one of the two of a stop: a follower first ends its subscription, and then ends
its run. A `Moment` is a world between two sections, with the follower that is stopping if one is.

Every operation is made of such sections (`Operation.stepwise`). So what each of these keeps holds
at every moment that operations come to when they interrupt each other in any order
(`invariant_of_changes`).

That a follower is without a subscription is asked and acted upon in one section; nobody acts in
between, and without that a start would not be made of such changes. Between the two sections of a
stop there is a moment, but nothing is called there: what comes next is always the second section.
-/

namespace ServiceRegistry

open Relation (ReflTransGen)
open World Interruptible

/-- What can be done to the world at one go, by its effect on who follows which host. -/
inductive World.Change : World → World → Prop where
  /-- Hosts and followers are left as they are. -/
  | aside {w w' : World} (hhosts : ∀ h, w'.host h = w.host h)
      (hfollowers : ∀ k, w'.follower k = w.follower k) : Change w w'
  /-- A host changes, but not who listens to it. -/
  | host {w : World} (h : Nat) {host : Host}
      (hlisteners : host.bus.listeners = (w.host h).bus.listeners)
      (hnext : host.bus.nextListener = (w.host h).bus.nextListener) : Change w (w.setHost h host)
  /-- A follower changes, but it runs as before and follows what it followed before. -/
  | follower {w : World} (k : Nat) {f : Follower} (hrunning : f.running = (w.follower k).running)
      (hsubscription : f.subscription = (w.follower k).subscription) : Change w (w.setFollower k f)
  /-- A follower without a subscription subscribes. -/
  | subscribe {w : World} (k h : Nat) (hnone : (w.follower k).subscription = none) :
      Change w (w.subscribeFollower k h)

/-- A world between two critical sections. -/
structure Moment where
  world : World
  /-- The follower that has ended its subscription in order to stop, and has yet to end its run. -/
  stopping : Option Nat

/-- The next critical section. -/
inductive Moment.Next : Moment → Moment → Prop where
  | change {w w' : World} (h : World.Change w w') : Next ⟨w, none⟩ ⟨w', none⟩
  /-- A follower that is to stop ends its subscription. -/
  | leave {w : World} (k : Nat) : Next ⟨w, none⟩ ⟨w.endSubscription k, some k⟩
  /-- It ends its run, and what it has registered is removed. -/
  | halt {w : World} {k : Nat} : Next ⟨w, some k⟩ ⟨w.onFollower k Follower.halt, none⟩

/-- Some critical sections, one after another. -/
abbrev Moment.Reaches : Moment → Moment → Prop := ReflTransGen Moment.Next

/-- Some critical sections that leave no stop half done. -/
abbrev World.Evolves (w w' : World) : Prop := Moment.Reaches ⟨w, none⟩ ⟨w', none⟩

/-- What each critical section keeps, several of them keep. -/
theorem Moment.Reaches.keeps {inv : Moment → Prop}
    (hnext : ∀ m m', Moment.Next m m' → inv m → inv m') {m m' : Moment} (h : m.Reaches m')
    (hm : inv m) : inv m' := by
  induction h with
  | refl => exact hm
  | tail _ hstep ih => exact hnext _ _ hstep ih

/-- One change is a section of its own. -/
theorem World.Change.evolves {w w' : World} (h : World.Change w w') : w.Evolves w' :=
  .single (.change h)

/-- A stop takes two sections. -/
theorem World.evolves_stopFollower (w : World) (k : Nat) : w.Evolves (w.stopFollower k) :=
  .tail (.single (.leave k)) .halt

/-- Whatever the outside does at its interruptions, an operation is made of critical sections. -/
abbrev Stepwise {α : Type} (p : Work α) : Prop := p.MadeOf World.Evolves

section Combinators

variable {α β : Type} {p : Work α}

/-- An answer alone takes no section. -/
theorem stepwise_pure (a : α) : Stepwise (pure a : Work α) := madeOf_pure a

/-- A question takes no section that changes anything. -/
theorem stepwise_ask (f : World → α) : Stepwise (ask f) := madeOf_ask f

/-- An interruption takes no section: what happens then is not the operation's. -/
theorem stepwise_interrupt (i : Signal) : Stepwise (interrupt i) := madeOf_interrupt i

/-- A stretch that answers is made of sections if what it leaves is. -/
theorem stepwise_act {f : World → α × World} (hf : ∀ w : World, w.Evolves (f w).2) :
    Stepwise (act f) :=
  madeOf_act fun w => .single (hf w)

/-- A stretch without an answer is made of sections if what it leaves is. -/
theorem stepwise_change {f : World → World} (hf : ∀ w : World, w.Evolves (f w)) :
    Stepwise (change f) :=
  madeOf_change fun w => .single (hf w)

/-- Operations that are made of sections are so one after the other. -/
theorem Stepwise.bind {q : α → Work β} (hp : Stepwise p) (hq : ∀ a, Stepwise (q a)) :
    Stepwise (p >>= q) :=
  MadeOf.bind hp hq

/-- To forget an answer takes no section. -/
theorem Stepwise.forget (hp : Stepwise p) : Stepwise p.forget := hp.bind fun _ => stepwise_pure ()

/-- Whichever of two operations is chosen, it is made of sections. -/
theorem Stepwise.ite {c : Prop} [Decidable c] {q : Work α} (hp : Stepwise p) (hq : Stepwise q) :
    Stepwise (if c then p else q) :=
  MadeOf.ite hp hq

/-- What is done for each item of a list is made of sections if it is for one item. -/
theorem stepwise_each {f : β → Work Unit} (hf : ∀ x, Stepwise (f x)) (xs : List β) :
    Stepwise (each f xs) :=
  madeOf_each hf xs

end Combinators

/-! ## Followers -/

section Followers

variable {k : Nat}

/-- A follower changes what it tracks in two sections: it writes its table, and then what it knows
itself. -/
theorem changes_onFollower {f : Follower → Table → Follower × Table}
    (hrunning : ∀ g t, (f g t).1.running = g.running)
    (hsubscription : ∀ g t, (f g t).1.subscription = g.subscription) (w : World) :
    w.Evolves (w.onFollower k f) := by
  let g := w.follower k
  have htable : World.Change w (w.setTable g.catalog (f g (w.tableOf g)).2) :=
    .aside (fun _ => rfl) fun _ => rfl
  have hfollower := World.Change.follower (w := w.setTable g.catalog (f g (w.tableOf g)).2) k
    (hrunning g (w.tableOf g)) (hsubscription g (w.tableOf g))
  exact htable.evolves.trans hfollower.evolves

/-- To hold a follower is a section. -/
theorem changes_hold (w : World) : w.Evolves (w.hold k) :=
  World.Change.evolves (.follower k rfl rfl)

/-- To let go of a follower may be to stop it. -/
theorem changes_release (w : World) : w.Evolves (w.release k) := by
  let f := w.follower k
  have hless : World.Change w (w.setFollower k { f with holders := f.holders - 1 }) :=
    .follower k rfl rfl
  unfold release
  dsimp only
  split
  · exact hless.evolves.trans (evolves_stopFollower _ k)
  · exact hless.evolves

/-- Asking a module for a listing is a section, after which others act. -/
theorem stepwise_list (m : Module) (folder : String) : Stepwise (World.list m folder) := by
  have hasked : Stepwise (act (onStock (·.list m folder))) :=
    stepwise_act fun _ => World.Change.evolves (.aside (fun _ => rfl) fun _ => rfl)
  exact hasked.bind fun listing => (stepwise_interrupt _).bind fun _ => stepwise_pure listing

/-- A scan is a listing and the numbering of its providers. -/
theorem stepwise_scan (rule : ScanRule) (m : Module) : Stepwise (scan rule m) :=
  (stepwise_list m rule.folder).bind fun _ =>
    stepwise_act fun _ => World.Change.evolves (.aside (fun _ => rfl) fun _ => rfl)

/-- A module is taken up and reported. -/
theorem stepwise_takeUp {f : Follower → Table → Follower × Table} (m : Module)
    (hrunning : ∀ g t, (f g t).1.running = g.running)
    (hsubscription : ∀ g t, (f g t).1.subscription = g.subscription) :
    Stepwise (takeUp k m f) :=
  (stepwise_change (changes_onFollower hrunning hsubscription)).bind fun _ => stepwise_interrupt _

/-- So is a module that has arrived. -/
theorem stepwise_takeUp_arrive (m : Module) (c : Contribution) :
    Stepwise (takeUp k m fun f t => f.arrive t c) :=
  stepwise_takeUp m (fun g t => by rw [Follower.fst_arrive]; rfl)
    fun g t => by rw [Follower.fst_arrive]; rfl

/-- A direct request to take up a module scans it and takes it up. -/
theorem stepwise_arrived (m : Module) : Stepwise (arrived k m) :=
  (stepwise_ask _).bind fun rule => (stepwise_scan rule m).bind fun c => stepwise_takeUp_arrive m c

/-- An arrival by an event is taken up only if the follower still runs, which is asked after the
scan. -/
theorem stepwise_hearArrival (m : Module) : Stepwise (hearArrival k m) :=
  (stepwise_ask _).bind fun rule => (stepwise_scan rule m).bind fun c => (stepwise_ask _).bind
    fun _ => .ite (stepwise_takeUp_arrive m c) (stepwise_pure ())

/-- To let go of a module is made of sections. -/
theorem stepwise_departed (id : ModuleId) : Stepwise (departed k id) := by
  refine (stepwise_change (changes_onFollower ?_ ?_)).bind fun _ => stepwise_interrupt _
  · intro g t
    rw [Follower.fst_depart]
    rfl
  · intro g t
    rw [Follower.fst_depart]
    rfl

/-- What is done while a follower is held is made of sections, and so is letting go of it, even if
it stops then. -/
theorem Stepwise.holding {α : Type} {p : Work α} (hp : Stepwise p) : Stepwise (holding k p) :=
  (stepwise_change changes_hold).bind fun _ => hp.bind fun a =>
    (stepwise_change changes_release).bind fun _ => stepwise_pure a

/-- Whatever a follower hears, it acts in sections. -/
theorem stepwise_hear (e : Event) : Stepwise (hear k e) :=
  (stepwise_ask _).bind fun _ => .ite (stepwise_pure ()) <|
    .ite (stepwise_hearArrival e.module).holding <|
      .ite (stepwise_departed e.module.id) (stepwise_pure ())

/-- A listed module is scanned, and taken up if that is still wanted. -/
theorem stepwise_replayHosted (hosted : Hosted) : Stepwise (replayHosted k hosted) := by
  have hreplay : Stepwise (replay k hosted.module) :=
    (stepwise_ask _).bind fun rule => (stepwise_scan rule _).bind fun c => (stepwise_ask _).bind
      fun _ => .ite (stepwise_takeUp _ (fun g t => by rw [Follower.fst_adopt])
        fun g t => by rw [Follower.fst_adopt]) (stepwise_pure ())
  exact (stepwise_ask _).bind fun _ => .ite hreplay (stepwise_pure ())

/-- The list of a host is read, and those who watch it may act. -/
theorem stepwise_modules (handle : HostHandle) : Stepwise (World.modules handle) := by
  refine (stepwise_ask _).bind fun hosted => ?_
  cases handle.watch with
  | none => exact stepwise_pure hosted
  | some watch => exact (stepwise_interrupt _).bind fun _ => stepwise_pure hosted

/-- A follower that starts subscribes in the stretch in which it finds that it can. -/
theorem stepwise_startFollower (handle : HostHandle) : Stepwise (startFollower k handle) := by
  intro s
  unfold startFollower
  refine Safe.bind (safe_ask rfl) fun subscription u
    (hu : subscription = (u.1.follower k).subscription) => ?_
  split
  · exact safe_pure trivial
  · rename_i hfree
    have hnone : (u.1.follower k).subscription = none := by
      rw [← hu]
      simpa using hfree
    have hsubscribe : Safe (fun _ => True) World.Evolves
        (change (subscribeFollower k handle.host) : Work Unit) (fun _ _ => True) u :=
      safe_change (World.Change.subscribe k handle.host hnone).evolves trivial
    have hsettle : Stepwise (change fun w => w.setFollower k (w.follower k).settle) :=
      stepwise_change fun _ => World.Change.evolves (.follower k rfl rfl)
    refine hsubscribe.bind fun _ v _ => (stepwise_modules handle).bind (fun hosted => ?_) v
    exact (stepwise_each stepwise_replayHosted hosted).bind fun _ => hsettle.bind fun _ =>
      stepwise_pure _

end Followers

/-! ## Hosts -/

section Hosts

variable {h : Nat}

/-- An event is recorded in one section, and then heard by one listener after another. -/
theorem stepwise_publish (e : Event) : Stepwise (publish h e) := by
  have hrecord : Stepwise (act (record h e)) :=
    stepwise_act fun _ => World.Change.evolves (.host h rfl rfl)
  refine hrecord.bind fun audience => stepwise_each (fun l => ?_) audience
  cases l with
  | recorder r => exact stepwise_interrupt _
  | follower k => exact stepwise_hear e

/-- A host that may refuse to change, and whose bus stays as it is. -/
theorem stepwise_tryHost {α : Type} {f : Host → Except HostError (α × Host)}
    (hf : ∀ host a host', f host = .ok (a, host') → host'.bus = host.bus) :
    Stepwise (act (tryHost h f)) := by
  refine stepwise_act fun w => ?_
  unfold tryHost
  cases hr : f (w.host h) with
  | error refusal => exact .refl
  | ok answer =>
    have hbus : answer.2.bus = (w.host h).bus := hf _ answer.1 answer.2 hr
    exact World.Change.evolves (.host h (congrArg _ hbus) (congrArg _ hbus))

/-- The same for a change that has nothing to tell. -/
theorem stepwise_tryHost_map {f : Host → Except HostError Host}
    (hf : ∀ host host', f host = .ok host' → host'.bus = host.bus) :
    Stepwise (act (tryHost h fun host => (f host).map fun host => ((), host))) := by
  refine stepwise_tryHost fun host _ host' hr => ?_
  cases hchanged : f host with
  | error refusal =>
    rw [hchanged] at hr
    cases hr
  | ok changed =>
    rw [hchanged] at hr
    cases hr
    exact hf host _ hchanged

/-- A change of state is a section, and its event is published after it. -/
theorem stepwise_changeState (id : ModuleId)
    (rule : ModuleState → Except HostError (Option ModuleState)) (kind : EventKind) :
    Stepwise (changeState h id rule kind) := by
  refine (stepwise_tryHost fun _ _ _ ht => (Host.module_of_transition ht).1).bind fun r => ?_
  cases r with
  | error refusal => exact stepwise_pure _
  | ok changed =>
    refine Stepwise.bind ?_ fun _ => stepwise_pure _
    cases changed with
    | none => exact stepwise_pure ()
    | some m => exact stepwise_publish _

/-- An installation is a section, and its event is published after it. -/
theorem stepwise_install (m : Module) : Stepwise (install h m) := by
  refine (stepwise_tryHost_map fun _ _ hm => (Host.install_eq_ok hm).2.1).bind fun r => ?_
  cases r with
  | error refusal => exact stepwise_pure _
  | ok _ => exact (stepwise_publish _).bind fun _ => stepwise_pure _

/-- An object is replaced in a section, and this is reported before it is announced. -/
theorem stepwise_exchange (m : Module) (andResolve : Bool) :
    Stepwise (exchange h m andResolve) := by
  refine (stepwise_tryHost_map fun _ _ hm => Host.bus_replace hm).bind fun r => ?_
  cases r with
  | error refusal => exact stepwise_pure _
  | ok _ =>
    exact (stepwise_interrupt _).bind fun _ => (stepwise_publish _).bind fun _ =>
      .ite (stepwise_changeState _ _ _) (stepwise_pure _)

/-- An update unresolves the module first if that is needed, and replaces its object then. -/
theorem stepwise_update (m : Module) : Stepwise (update h m) := by
  refine (stepwise_ask _).bind fun state => ?_
  cases state with
  | none => exact stepwise_pure _
  | some state =>
    refine .ite ((stepwise_changeState _ _ _).bind fun r => ?_) (stepwise_exchange m false)
    cases r with
    | error refusal => exact stepwise_pure _
    | ok _ => exact stepwise_exchange m true

/-- A start resolves the module first. -/
theorem stepwise_start (id : ModuleId) : Stepwise (World.start h id) := by
  refine (stepwise_changeState _ _ _).bind fun r => ?_
  cases r with
  | error refusal => exact stepwise_pure _
  | ok _ => exact stepwise_changeState _ _ _

/-- An uninstallation unresolves the module first, and removes it then. -/
theorem stepwise_uninstall (id : ModuleId) : Stepwise (uninstall h id) := by
  refine (stepwise_changeState _ _ _).bind fun r => ?_
  cases r with
  | error refusal => exact stepwise_pure _
  | ok _ =>
    refine (stepwise_tryHost fun _ _ _ hm => (Host.remove_eq_ok hm).2.1).bind fun r => ?_
    cases r with
    | error refusal => exact stepwise_pure _
    | ok m => exact (stepwise_publish _).bind fun _ => stepwise_pure _

/-- Every call on a host is made of sections. -/
theorem stepwise_work (call : HostCall) : Stepwise (call.work h) := by
  cases call with
  | install m => exact (stepwise_install m).forget
  | update m => exact (stepwise_update m).forget
  | resolve id => exact (stepwise_changeState id _ _).forget
  | start id => exact (stepwise_start id).forget
  | stop id => exact (stepwise_changeState id _ _).forget
  | unresolve id => exact (stepwise_changeState id _ _).forget
  | uninstall id => exact (stepwise_uninstall id).forget

end Hosts

/-! ## Runs -/

/-- The operations of followers and hosts. -/
inductive Operation : Work Unit → Prop where
  | start (k : Nat) (handle : HostHandle) : Operation (startFollower k handle).forget
  /-- A stop consists of two critical sections. -/
  | stop (k : Nat) : Operation do
    change (·.endSubscription k)
    change (·.onFollower k Follower.halt)
  | hold (k : Nat) : Operation (change (·.hold k))
  | release (k : Nat) : Operation (change (·.release k))
  | holding (k : Nat) {p : Work Unit} (hp : Operation p) : Operation (holding k p)
  | arrived (k : Nat) (m : Module) : Operation (arrived k m)
  | departed (k : Nat) (id : ModuleId) : Operation (departed k id)
  | publish (h : Nat) (e : Event) : Operation (publish h e)
  | call (h : Nat) (call : HostCall) : Operation (call.work h)

/-- Every operation is made of sections. -/
theorem Operation.stepwise {p : Work Unit} (hp : Operation p) : Stepwise p := by
  induction hp with
  | start k handle => exact (stepwise_startFollower handle).forget
  | stop k => exact stepwise_change (evolves_stopFollower · k)
  | hold k => exact stepwise_change changes_hold
  | release k => exact stepwise_change changes_release
  | holding k _ ih => exact ih.holding
  | arrived k m => exact stepwise_arrived m
  | departed k id => exact stepwise_departed id
  | publish h e => exact stepwise_publish e
  | call h call => exact stepwise_work call

/-- What every critical section and every act of the outside keeps holds on every stage that
operations reach, and at every moment that they come to from there. -/
theorem invariant_of_changes {δ : Type} {acts : World × δ → World × δ → Prop}
    {inv : Moment → Prop} (hnext : ∀ m m', Moment.Next m m' → inv m → inv m')
    (hacts : ∀ s t, acts s t → inv ⟨s.1, none⟩ → inv ⟨t.1, none⟩) {s : World × δ}
    (hs : inv ⟨s.1, none⟩) {g : Stage World Signal δ}
    (hg : ReflTransGen (Stage.Step Operation acts) ⟨s, []⟩ g) {m : Moment}
    (hm : Moment.Reaches ⟨g.state.1, none⟩ m) : inv m := by
  have hopens (p : Work Unit) (hp : Operation p) :
      Agenda.Opens (fun u : World × δ => inv ⟨u.1, none⟩) World.Evolves p := fun u hu =>
    ⟨u.1, (hp.stepwise (u.1, ())).keeps (fun _ _ _ h ha => h.keeps hnext ha) hu⟩
  exact hm.keeps hnext (Stage.invariant hopens hacts hs hg)

end ServiceRegistry
