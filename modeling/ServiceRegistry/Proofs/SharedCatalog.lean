import ServiceRegistry.Proofs.Correspondence
import ServiceRegistry.Proofs.FollowerCalls
import ServiceRegistry.Proofs.HostCalls
import ServiceRegistry.Proofs.Stage
import ServiceRegistry.Proofs.StoppedFollowers

/-!
# A catalog that one follower keeps

One follower keeps a catalog to which outsiders have access too. Operations of the follower, of
other followers with catalogs of their own, and of hosts interrupt each other in every order, and
between any two of their steps outsiders call the catalog and the rest of the world changes. In
every state that is reached, the follower's stored contributions and the table correspond
(`accounts_of_reached`). It is also kept track of what each operation can do to the follower once
that has stopped (`Begins.safeFrom`).

What is asked of the world is collected in `Cast`: modules list only locations that name them, and
the outsiders keep away from what modules list. Nothing is asked of the order of the calls, and
nothing is said of the modules that a host lists at the time.
-/

namespace ServiceRegistry

/-- Who takes part, besides the follower in question and outsiders. -/
structure Cast where
  /-- The module objects that are ever installed, announced or taken up. -/
  modules : Module → Prop
  /-- The locations of the descriptors that they ever list. -/
  locations : Location → Prop
  /-- The followers of other catalogs. -/
  others : Nat → Prop

namespace Cast

/-- The followers that take part. -/
def Follows (cast : Cast) (n k : Nat) : Prop := k = n ∨ cast.others k

/-- Those who may listen to a host. -/
def MayListen (cast : Cast) (n : Nat) : Listener → Prop
  | .recorder _ => True
  | .follower k => cast.Follows n k

/-- A world in which all keep to their parts. -/
structure Plays (cast : Cast) (n : Nat) (w : World) : Prop where
  /-- A module lists descriptors of its own. -/
  honest : ∀ m, cast.modules m → ∀ folder, ∀ l ∈ ScanRule.shown ((w.stock.view m).list folder),
    cast.locations l ∧ l.owner? = some m.id
  hosted : ∀ h, ∀ e ∈ (w.host h).modules, cast.modules e.module
  listening : ∀ h, ∀ s ∈ (w.host h).bus.listeners, cast.MayListen n s.2
  apart : ∀ k, cast.others k → k ≠ n ∧ (w.follower k).catalog ≠ (w.follower n).catalog

/-- Something happens that does not concern the follower or its table. -/
structure Elsewhere (cast : Cast) (n : Nat) (w w' : World) : Prop where
  follower : w'.follower n = w.follower n
  table : w'.tableOf (w.follower n) = w.tableOf (w.follower n)
  numbered : w.nextSerial ≤ w'.nextSerial
  plays : cast.Plays n w'

/-- What holds in all states: all keep to their parts, and the contributions that the follower has
stored correspond to its table. -/
structure Holds (cast : Cast) (n : Nat) (s : World × List OutsiderCall) : Prop where
  plays : cast.Plays n s.1
  corresponds : Corresponds cast.locations s.1.nextSerial (s.1.follower n).groups s.2
    (s.1.tableOf (s.1.follower n))

variable {cast : Cast} {n k : Nat} {w w' : World} {s : World × List OutsiderCall}

/-- What happens elsewhere keeps what holds in all states. -/
theorem Holds.elsewhere (hs : cast.Holds n s) (h : cast.Elsewhere n s.1 w') :
    cast.Holds n (w', s.2) := by
  refine ⟨h.plays, ?_⟩
  dsimp only
  rw [h.follower, h.table]
  exact hs.corresponds.mono h.numbered

/-- A stretch of work keeps what holds in all states, and spares the follower. -/
structure Leads (cast : Cast) (n : Nat) (takes : Prop) (s : World × List OutsiderCall)
    (w' : World) : Prop where
  holds : cast.Holds n (w', s.2)
  spares : s.1.Spares takes n w'

/-- A change to a follower's state and to its table that keeps any correspondence. -/
structure Keeps (lists : Location → Prop) (bound : Nat) (takes : Prop) (f : Follower) (t : Table)
    (x : Follower × Table) : Prop where
  spares : f.Spares takes t x.1 x.2
  corresponds : ∀ calls, Corresponds lists bound f.groups calls t →
    Corresponds lists bound x.1.groups calls x.2

section Steps

variable {lists : Location → Prop} {bound : Nat} {takes : Prop} {f : Follower} {t : Table}
  {id : ModuleId} {c : Contribution} {w'' : World}

/-- An arrival keeps any correspondence if the contribution belongs to its module. -/
theorem keeps_arrive (hc : c.Owned lists bound id) (hf : f.Stopped → takes) :
    Keeps lists bound takes f t (f.arrive t c) where
  spares := Follower.spares_arrive hf
  corresponds _ h := h.arrive hc

/-- Adopting a contribution keeps any correspondence if it belongs to its module. -/
theorem keeps_adopt (hc : c.Owned lists bound id) (hf : f.Stopped → takes) :
    Keeps lists bound takes f t (f.adopt t c) where
  spares := Follower.spares_adopt hf
  corresponds _ h := h.adopt hc

/-- A departure keeps any correspondence. -/
theorem keeps_depart (id : ModuleId) : Keeps lists bound takes f t (f.depart t id) where
  spares := Follower.spares_depart
  corresponds _ h := h.depart id

/-- The end of a follower's work keeps any correspondence. -/
theorem keeps_halt : Keeps lists bound takes f t (f.halt t) where
  spares := Follower.spares_halt
  corresponds _ h := h.halt

/-- Stretches of work that follow one another are one. -/
theorem Leads.trans (h : cast.Leads n takes s w') (h' : cast.Leads n takes (w', s.2) w'') :
    cast.Leads n takes s w'' :=
  ⟨h'.holds, h.spares.trans h'.spares⟩

/-- What happens elsewhere is a stretch of work that spares the follower. -/
theorem Holds.leads_elsewhere (hs : cast.Holds n s) (h : cast.Elsewhere n s.1 w') :
    cast.Leads n takes s w' :=
  ⟨hs.elsewhere h, .of_eq h.follower h.table⟩

/-- A change of a follower's state that leaves what is registered. -/
theorem Holds.setFollower (hs : cast.Holds n s)
    (hcatalog : f.catalog = (s.1.follower k).catalog)
    (hgroups : f.groups = (s.1.follower k).groups) :
    cast.Holds n (s.1.setFollower k f, s.2) := by
  have hread (j : Nat) : ((s.1.setFollower k f).follower j).catalog = (s.1.follower j).catalog ∧
      ((s.1.setFollower k f).follower j).groups = (s.1.follower j).groups := by
    rw [World.follower_setFollower]
    split
    · rename_i hj
      exact ⟨hj ▸ hcatalog, hj ▸ hgroups⟩
    · exact ⟨rfl, rfl⟩
  refine ⟨{ hs.plays with apart := fun j hj => ?_ }, ?_⟩
  · rw [(hread j).1, (hread n).1]
    exact hs.plays.apart j hj
  · simp only [World.tableOf, (hread n).1, (hread n).2, World.catalog_setFollower]
    exact hs.corresponds

/-- A change of a follower's flags is a stretch of work, unless it starts the follower. -/
theorem Holds.leads_setFollower (hs : cast.Holds n s)
    (hcatalog : f.catalog = (s.1.follower k).catalog)
    (hgroups : f.groups = (s.1.follower k).groups)
    (hstopped : (s.1.follower k).Stopped → f.Stopped) :
    cast.Leads n takes s (s.1.setFollower k f) :=
  ⟨hs.setFollower hcatalog hgroups, World.spares_setFollower hcatalog hgroups hstopped⟩

/-- A change that keeps any correspondence is a stretch of work. -/
theorem Holds.leads_onFollower (hs : cast.Holds n s) (hk : cast.Follows n k)
    {g : Follower → Table → Follower × Table}
    (hg : Keeps cast.locations s.1.nextSerial (k = n → takes) (s.1.follower k)
      (s.1.tableOf (s.1.follower k)) (g (s.1.follower k) (s.1.tableOf (s.1.follower k)))) :
    cast.Leads n takes s (s.1.onFollower k g) := by
  have hcatalog (j : Nat) : ((s.1.onFollower k g).follower j).catalog =
      (s.1.follower j).catalog := by
    rw [World.follower_onFollower]
    split
    · rename_i hj
      rw [hj]
      exact hg.spares.catalog
    · rfl
  have hplays : cast.Plays n (s.1.onFollower k g) := by
    refine { hs.plays with apart := fun j hj => ?_ }
    rw [hcatalog, hcatalog]
    exact hs.plays.apart j hj
  have htable : (s.1.onFollower k g).tableOf ((s.1.onFollower k g).follower n) =
      if k = n then (g (s.1.follower k) (s.1.tableOf (s.1.follower k))).2
      else s.1.tableOf (s.1.follower n) := by
    unfold World.tableOf
    rw [hcatalog, World.catalog_onFollower]
    rcases hk with rfl | hk
    · rw [if_pos rfl, if_pos rfl]
    · obtain ⟨hne, hapart⟩ := hs.plays.apart k hk
      rw [if_neg hne, if_neg hapart.symm]
  by_cases hkn : k = n
  · subst hkn
    rw [if_pos rfl] at htable
    constructor
    · refine ⟨hplays, ?_⟩
      rw [htable, World.follower_onFollower, if_pos rfl]
      exact hg.corresponds _ hs.corresponds
    · unfold World.Spares
      rw [htable, World.follower_onFollower, if_pos rfl]
      exact hg.spares.mono fun h => h rfl
  · have hfollower : (s.1.onFollower k g).follower n = s.1.follower n := by
      rw [World.follower_onFollower, if_neg (Ne.symm hkn)]
    rw [if_neg hkn] at htable
    exact hs.leads_elsewhere ⟨hfollower, hfollower ▸ htable, Nat.le_refl _, hplays⟩

/-- A change of a host is a stretch of work if its modules and listeners take part. -/
theorem Holds.leads_setHost (hs : cast.Holds n s) {h : Nat} {host : Host}
    (hmodules : ∀ e ∈ host.modules, cast.modules e.module)
    (hlisteners : ∀ l ∈ host.bus.listeners, cast.MayListen n l.2) :
    cast.Leads n takes s (s.1.setHost h host) := by
  refine hs.leads_elsewhere ⟨rfl, rfl, Nat.le_refl _,
    { hs.plays with hosted := fun j => ?_, listening := ?_ }⟩
  · rw [World.host_setHost]
    split
    · exact hmodules
    · exact hs.plays.hosted j
  · intro j
    rw [World.host_setHost]
    split
    · exact hlisteners
    · exact hs.plays.listening j

/-- Taking hold of a follower is a stretch of work. -/
theorem Holds.leads_hold (hs : cast.Holds n s) (k : Nat) :
    cast.Leads n takes s (s.1.hold k) :=
  hs.leads_setFollower rfl rfl fun hf => { hf with }

/-- Ending a subscription is a stretch of work. -/
theorem Holds.leads_endSubscription (hs : cast.Holds n s) (k : Nat) :
    cast.Leads n takes s (s.1.endSubscription k) := by
  unfold World.endSubscription
  split
  · exact ⟨hs, .refl _⟩
  · rename_i sub _
    have hunsubscribe : cast.Leads n takes s
        (s.1.setBus sub.host ((s.1.host sub.host).bus.unsubscribe sub.listener)) :=
      hs.leads_setHost (hs.plays.hosted sub.host) fun l hl =>
        hs.plays.listening sub.host l (List.mem_filter.1 hl).1
    exact hunsubscribe.trans
      (hunsubscribe.holds.leads_setFollower rfl rfl fun hf => { hf with subscription := rfl })

/-- Stopping a follower is a stretch of work. -/
theorem Holds.leads_stopFollower (hs : cast.Holds n s) (hk : cast.Follows n k) :
    cast.Leads n takes s (s.1.stopFollower k) :=
  have hend := hs.leads_endSubscription k
  hend.trans (hend.holds.leads_onFollower hk keeps_halt)

/-- Letting go of a follower is a stretch of work. -/
theorem Holds.leads_release (hs : cast.Holds n s) (hk : cast.Follows n k) :
    cast.Leads n takes s (s.1.release k) := by
  have hless : cast.Leads n takes s (s.1.setFollower k
      { s.1.follower k with holders := (s.1.follower k).holders - 1 }) :=
    hs.leads_setFollower rfl rfl fun hf => { hf with }
  unfold World.release
  dsimp only
  split
  · exact hless.trans (hless.holds.leads_stopFollower hk)
  · exact hless

/-- A follower that subscribes keeps what holds in all states; it is no longer stopped. -/
theorem Holds.subscribeFollower (hs : cast.Holds n s) (hk : cast.Follows n k) (h : Nat) :
    cast.Holds n (s.1.subscribeFollower k h, s.2) := by
  have hbegin : cast.Holds n (s.1.setFollower k (s.1.follower k).begin, s.2) :=
    hs.setFollower rfl rfl
  have hsubscribe : cast.Leads n True (s.1.setFollower k (s.1.follower k).begin, s.2)
      ((s.1.setFollower k (s.1.follower k).begin).setHost h
        { s.1.host h with bus := ((s.1.host h).bus.subscribe (.follower k)).2 }) :=
    hbegin.leads_setHost (hs.plays.hosted h) fun l hl => by
      rcases List.mem_append.1 hl with hl | hl
      · exact hs.plays.listening h l hl
      · rw [List.mem_singleton.1 hl]
        exact hk
  exact hsubscribe.holds.setFollower rfl rfl

end Steps

/-! ## Operations that keep it -/

open World Interruptible

/-- An operation that keeps all to their parts and the contributions in correspondence, and that
spares the follower. -/
abbrev Careful (cast : Cast) (n : Nat) (takes : Prop) {α : Type} (p : Work α) : Prop :=
  ∀ s, cast.Holds n s →
    p.Safe (cast.Holds n) (World.Spares takes n) (fun _ => cast.Holds n) s

variable {takes : Prop}

/-- Doing nothing is careful. -/
theorem careful_pure {α : Type} (a : α) : cast.Careful n takes (pure a : Work α) :=
  fun _ hs => safe_pure hs

/-- An interruption is careful. -/
theorem careful_interrupt (i : Signal) : cast.Careful n takes (interrupt i) :=
  fun _ hs => safe_interrupt hs fun _ hu => hu

/-- A question is careful. -/
theorem careful_ask {α : Type} (f : World → α) : cast.Careful n takes (ask f) :=
  fun _ hs => safe_ask hs

/-- A change is careful if it is a stretch of work wherever it is made. -/
theorem careful_change {f : World → World}
    (hf : ∀ s, cast.Holds n s → cast.Leads n takes s (f s.1)) :
    cast.Careful n takes (change f) :=
  fun s hs => safe_change (hf s hs).spares (hf s hs).holds

/-- Careful operations that follow one another are careful. -/
theorem Careful.bind {α β : Type} {p : Work α} {q : α → Work β} (hp : cast.Careful n takes p)
    (hq : ∀ a, cast.Careful n takes (q a)) : cast.Careful n takes (p >>= q) :=
  fun s hs => Safe.bind (hp s hs) fun a u hu => hq a u hu

/-- An operation is careful whether or not its answer is used. -/
theorem Careful.forget {α : Type} {p : Work α} (hp : cast.Careful n takes p) :
    cast.Careful n takes p.forget :=
  hp.bind fun _ => careful_pure ()

/-- A choice between careful operations is careful. -/
theorem Careful.ite {α : Type} {c : Prop} [Decidable c] {p q : Work α}
    (hp : cast.Careful n takes p) (hq : cast.Careful n takes q) :
    cast.Careful n takes (if c then p else q) := by
  split
  · exact hp
  · exact hq

/-- Careful operations for all in a list are careful. -/
theorem careful_each {α : Type} {f : α → Work Unit} {xs : List α}
    (hf : ∀ x ∈ xs, cast.Careful n takes (f x)) : cast.Careful n takes (each f xs) :=
  fun _ hs => safe_each xs hf hs

/-- A scan of a module that takes part makes a contribution of the module's own. -/
theorem safe_scan {m : Module} (hm : cast.modules m) (rule : ScanRule) (hs : cast.Holds n s) :
    (scan rule m).Safe (cast.Holds n) (World.Spares takes n) (fun c u => cast.Holds n u ∧
      c.Owned cast.locations u.1.nextSerial m.id) s := by
  have hlist : (World.list m rule.folder).Safe (cast.Holds n) (World.Spares takes n)
      (fun listing u => cast.Holds n u ∧ ∀ l ∈ ScanRule.shown listing,
        cast.locations l ∧ l.owner? = some m.id) s := by
    have hasked : cast.Leads n takes s (onStock (·.list m rule.folder) s.1).2 := by
      refine hs.leads_elsewhere ⟨rfl, rfl, Nat.le_refl _,
        { hs.plays with honest := fun k hk folder => ?_ }⟩
      rw [stock_onStock, Stock.view_list]
      exact hs.plays.honest k hk folder
    refine Safe.bind (safe_act hasked.spares ⟨hasked.holds, rfl⟩) fun listing u
      (hu : cast.Holds n u ∧ listing = (s.1.stock.view m).list rule.folder.toList) => ?_
    refine Safe.bind (safe_interrupt hu.1 fun _ hv => hv) fun _ v hv => safe_pure ⟨hv, ?_⟩
    rw [hu.2]
    exact hs.plays.honest m hm rule.folder.toList
  refine Safe.bind hlist fun listing u ⟨hu, hshown⟩ => ?_
  have hnumbered : cast.Leads n takes u (contribute rule m listing u.1).2 :=
    hu.leads_elsewhere ⟨rfl, rfl, Nat.le_add_right _ _, { hu.plays with }⟩
  exact safe_act hnumbered.spares ⟨hnumbered.holds, Contribution.owned_of_shown hshown⟩

/-- What a careful operation makes of a scan. -/
theorem Careful.bind_scan {α : Type} {m : Module} (hm : cast.modules m) (rule : ScanRule)
    {q : Contribution → Work α}
    (hq : ∀ c s, cast.Holds n s → c.Owned cast.locations s.1.nextSerial m.id →
      (q c).Safe (cast.Holds n) (World.Spares takes n) (fun _ => cast.Holds n) s) :
    cast.Careful n takes (scan rule m >>= q) :=
  fun _ hs => Safe.bind (safe_scan hm rule hs) fun c u hu => hq c u hu.1 hu.2

/-- The list of a host names modules that take part. -/
theorem safe_modules (handle : HostHandle) (hs : cast.Holds n s) :
    (World.modules handle).Safe (cast.Holds n) (World.Spares takes n)
      (fun hosted u => cast.Holds n u ∧ ∀ e ∈ hosted, cast.modules e.module) s := by
  have hosted := hs.plays.hosted handle.host
  unfold World.modules
  refine Safe.bind (safe_ask ⟨hs, hosted⟩) fun hosted u
    (hu : cast.Holds n u ∧ ∀ e ∈ hosted, cast.modules e.module) => ?_
  cases handle.watch with
  | none => exact safe_pure hu
  | some watch =>
    exact Safe.bind (safe_interrupt hu.1 fun _ hv => hv) fun _ v hv => safe_pure ⟨hv, hu.2⟩

section Followers

variable (hk : cast.Follows n k)
include hk

/-- Taking up a module is careful from a state in which its change keeps any correspondence. -/
theorem safe_takeUp {f : Follower → Table → Follower × Table} (m : Module) (hs : cast.Holds n s)
    (hf : Keeps cast.locations s.1.nextSerial (k = n → takes) (s.1.follower k)
      (s.1.tableOf (s.1.follower k)) (f (s.1.follower k) (s.1.tableOf (s.1.follower k)))) :
    (takeUp k m f).Safe (cast.Holds n) (World.Spares takes n) (fun _ => cast.Holds n) s :=
  have htaken : cast.Leads n takes s (s.1.onFollower k f) := hs.leads_onFollower hk hf
  Safe.bind (safe_change htaken.spares htaken.holds) fun _ _ hu => safe_interrupt hu fun _ hv => hv

/-- Taking up a module that has arrived is careful. -/
theorem careful_arrived {m : Module} (hm : cast.modules m) (htakes : k = n → takes) :
    cast.Careful n takes (arrived k m) := by
  refine (careful_ask _).bind fun rule => Careful.bind_scan hm rule fun c s hs hc => ?_
  exact safe_takeUp hk m hs (keeps_arrive hc fun _ => htakes)

/-- Hearing of an arrival is careful. -/
theorem careful_hearArrival {m : Module} (hm : cast.modules m) :
    cast.Careful n takes (hearArrival k m) := by
  refine (careful_ask _).bind fun rule => Careful.bind_scan hm rule fun c s hs hc => ?_
  refine Safe.bind (safe_ask ⟨hs, hc, rfl⟩) fun running u
    (hu : cast.Holds n u ∧ c.Owned cast.locations u.1.nextSerial m.id ∧
      running = (u.1.follower k).running) => ?_
  obtain ⟨hu, hc, hrunning⟩ := hu
  cases running with
  | false => exact safe_pure hu
  | true =>
    exact safe_takeUp hk m hu (keeps_arrive hc fun hf => nomatch hrunning.trans hf.running)

/-- Taking up a listed module is careful. -/
theorem careful_replay {m : Module} (hm : cast.modules m) :
    cast.Careful n takes (replay k m) := by
  refine (careful_ask _).bind fun rule => Careful.bind_scan hm rule fun c s hs hc => ?_
  refine Safe.bind (safe_ask ⟨hs, hc, fun h => (Bool.and_eq_true_iff.1 h).1⟩) fun wanted u
    (hu : cast.Holds n u ∧ c.Owned cast.locations u.1.nextSerial m.id ∧
      (wanted = true → (u.1.follower k).running = true)) => ?_
  obtain ⟨hu, hc, hrunning⟩ := hu
  cases wanted with
  | false => exact safe_pure hu
  | true =>
    exact safe_takeUp hk m hu
      (keeps_adopt hc fun hf => nomatch (hrunning rfl).symm.trans hf.running)

/-- Letting go of a module is careful. -/
theorem careful_departed (id : ModuleId) : cast.Careful n takes (departed k id) := by
  refine Careful.bind (careful_change fun s hs => ?_) fun _ => careful_interrupt _
  exact hs.leads_onFollower hk (keeps_depart id)

/-- An operation in the course of which a follower is held. -/
theorem Careful.holding {α : Type} {p : Work α} (hp : cast.Careful n takes p) :
    cast.Careful n takes (holding k p) := by
  refine Careful.bind (careful_change fun s hs => hs.leads_hold k) fun _ => hp.bind fun a => ?_
  exact Careful.bind (careful_change fun s hs => hs.leads_release hk) fun _ => careful_pure a

/-- Hearing of an event is careful. -/
theorem careful_hear {e : Event} (he : cast.modules e.module) :
    cast.Careful n takes (hear k e) := by
  refine (careful_ask _).bind fun holders => .ite (careful_pure ()) ?_
  refine .ite ((careful_hearArrival hk he).holding hk) ?_
  exact .ite (careful_departed hk _) (careful_pure ())

/-- What a start does after it has subscribed. -/
def takeOver (k : Nat) (handle : HostHandle) : Work (Except Error Unit) := do
  let hosted ← World.modules handle
  each (replayHosted k) hosted
  change fun w => w.setFollower k (w.follower k).settle
  return .ok ()

/-- What a start does after it has subscribed is careful. -/
theorem careful_takeOver (handle : HostHandle) : cast.Careful n takes (takeOver k handle) := by
  refine fun s hs => Safe.bind (safe_modules handle hs) fun hosted u hu => ?_
  have heach : cast.Careful n takes (each (replayHosted k) hosted) :=
    careful_each fun e he => (careful_ask _).bind fun states =>
      .ite (careful_replay hk (hu.2 e he)) (careful_pure ())
  refine heach.bind (fun _ => ?_) u hu.1
  refine (careful_change fun s hs => ?_).bind fun _ => careful_pure _
  exact hs.leads_setFollower (f := (s.1.follower k).settle) rfl rfl fun hf =>
    { hf with marks := rfl }

/-- A start is careful from when it has subscribed; that of another follower is from the
beginning. -/
theorem safe_startFollower (handle : HostHandle) (hs : cast.Holds n s) :
    ∃ o, (k ≠ n → o = s.1) ∧ (startFollower k handle s.1).Safe (cast.Holds n)
      (World.Spares takes n) (fun _ => cast.Holds n) o s.2 := by
  by_cases hsubscribed : (s.1.follower k).subscription.isSome = true
  · refine ⟨s.1, fun _ => rfl, ?_⟩
    obtain ⟨subscription, hsub⟩ := Option.isSome_iff_exists.1 hsubscribed
    rw [startFollower_of_subscribed hsub]
    exact ⟨.refl, hs⟩
  · have hgo : startFollower k handle s.1 =
        takeOver k handle (s.1.subscribeFollower k handle.host) := by
      change (if (s.1.follower k).subscription.isSome then _ else _ : Work _) s.1 = _
      rw [if_neg hsubscribed]
      rfl
    rw [hgo]
    have hcareful : cast.Careful n takes (takeOver k handle) := careful_takeOver hk handle
    have hsafe := hcareful _ (hs.subscribeFollower hk handle.host)
    by_cases hkn : k = n
    · exact ⟨_, fun h => absurd hkn h, hsafe⟩
    · -- That another follower subscribes is nothing to this one.
      refine ⟨s.1, fun _ => rfl, hsafe.since (.single (.of_eq ?_ rfl))⟩
      rw [follower_subscribeFollower, if_neg (Ne.symm hkn)]

end Followers

/-! ## Hosts -/

section Hosts

variable {h : Nat}

/-- Publishing an event is careful. -/
theorem careful_publish {e : Event} (he : cast.modules e.module) :
    cast.Careful n takes (publish h e) := by
  have hrecord (s) (hs : cast.Holds n s) :
      (act (record h e) : Work (List Listener)).Safe (cast.Holds n) (World.Spares takes n)
        (fun audience u => cast.Holds n u ∧ ∀ l ∈ audience, cast.MayListen n l) s := by
    have hrecorded : cast.Leads n takes s (record h e s.1).2 :=
      hs.leads_setHost (hs.plays.hosted h) (hs.plays.listening h)
    refine safe_act hrecorded.spares ⟨hrecorded.holds, fun l hl => ?_⟩
    obtain ⟨sub, hsub, rfl⟩ := List.mem_map.1 hl
    exact hs.plays.listening h sub hsub
  refine fun s hs => Safe.bind (hrecord s hs) fun audience u hu => ?_
  refine careful_each (fun l hl => ?_) u hu.1
  cases l with
  | recorder r => exact careful_interrupt _
  | follower k => exact careful_hear (hu.2 _ hl) he

/-- A change of a host's list that can be refused. -/
theorem safe_tryHost {α : Type} (h : Nat) {f : Host → Except HostError (α × Host)}
    (post : α → Prop) (hs : cast.Holds n s)
    (hf : ∀ a host', f (s.1.host h) = .ok (a, host') →
      post a ∧ host'.bus = (s.1.host h).bus ∧ ∀ e ∈ host'.modules, cast.modules e.module) :
    (act (tryHost h f) : Work (Except HostError α)).Safe (cast.Holds n) (World.Spares takes n)
      (fun r u => cast.Holds n u ∧ ∀ a, r = .ok a → post a) s := by
  have htried : cast.Leads n takes s (tryHost h f s.1).2 ∧
      ∀ a, (tryHost h f s.1).1 = .ok a → post a := by
    unfold tryHost
    cases hr : f (s.1.host h) with
    | error refusal => exact ⟨⟨hs, .refl _⟩, nofun⟩
    | ok answer =>
      obtain ⟨a, host'⟩ := answer
      obtain ⟨hpost, hbus, hmodules⟩ := hf a host' hr
      refine ⟨hs.leads_setHost hmodules (hbus ▸ hs.plays.listening h), fun b hb => ?_⟩
      cases hb
      exact hpost
  exact safe_act htried.1.spares ⟨htried.1.holds, htried.2⟩

/-- A change of a module's state is careful. -/
theorem careful_changeState (id : ModuleId)
    (rule : ModuleState → Except HostError (Option ModuleState)) (kind : EventKind) :
    cast.Careful n takes (changeState h id rule kind) := by
  intro s hs
  refine Safe.bind (safe_tryHost h (fun changed => ∀ m ∈ changed, cast.modules m) hs
    fun changed host' ht => ?_) fun r u hu => ?_
  · obtain ⟨hbus, hchanged, hmodules⟩ := Host.module_of_transition ht
    refine ⟨fun m hm => ?_, hbus, fun e he => ?_⟩
    · obtain ⟨d, hd, rfl⟩ := hchanged m hm
      exact hs.plays.hosted h d hd
    · obtain ⟨d, hd, hde⟩ := hmodules e he
      exact hde ▸ hs.plays.hosted h d hd
  · cases r with
    | error refusal => exact safe_pure hu.1
    | ok changed =>
      have hannounce : cast.Careful n takes (announce h kind changed) := by
        cases changed with
        | none => exact careful_pure ()
        | some m => exact careful_publish (hu.2 (some m) rfl m rfl)
      exact (hannounce.bind fun _ => careful_pure _) u hu.1

/-- Resolving a module is careful. -/
theorem careful_resolve (id : ModuleId) : cast.Careful n takes (resolve h id) :=
  careful_changeState id _ _

/-- Unresolving a module is careful. -/
theorem careful_unresolve (id : ModuleId) : cast.Careful n takes (unresolve h id) :=
  careful_changeState id _ _

/-- Installing a module that takes part is careful. -/
theorem careful_install {m : Module} (hm : cast.modules m) :
    cast.Careful n takes (install h m) := by
  intro s hs
  refine Safe.bind (safe_tryHost h (fun _ => True) hs fun _ host' hi => ?_)
    fun r u hu => ?_
  · cases hinstall : (s.1.host h).install m with
    | error refusal =>
      rw [hinstall] at hi
      cases hi
    | ok host =>
      rw [hinstall] at hi
      cases hi
      obtain ⟨-, hbus, hmodules⟩ := Host.install_eq_ok hinstall
      refine ⟨trivial, hbus, fun e he => ?_⟩
      rw [hmodules] at he
      rcases List.mem_append.1 he with he | he
      · exact hs.plays.hosted h e he
      · rw [List.mem_singleton.1 he]
        exact hm
  · cases r with
    | error refusal => exact safe_pure hu.1
    | ok _ => exact ((careful_publish hm).bind fun _ => careful_pure _) u hu.1

/-- Exchanging a module for one that takes part is careful. -/
theorem careful_exchange {m : Module} (hm : cast.modules m) (andResolve : Bool) :
    cast.Careful n takes (exchange h m andResolve) := by
  intro s hs
  refine Safe.bind (safe_tryHost h (fun _ => True) hs fun _ host' hr => ?_)
    fun r u hu => ?_
  · cases hreplace : (s.1.host h).replace m with
    | error refusal =>
      rw [hreplace] at hr
      cases hr
    | ok host =>
      rw [hreplace] at hr
      cases hr
      refine ⟨trivial, Host.bus_replace hreplace, fun e he => ?_⟩
      rw [Host.replace_eq_ok hreplace] at he
      rcases Host.mem_changeFirst he with he | ⟨d, hd, rfl⟩
      · exact hs.plays.hosted h e he
      · exact hm
  · cases r with
    | error refusal => exact safe_pure hu.1
    | ok _ =>
      refine Careful.bind (careful_interrupt _) (fun _ => ?_) u hu.1
      apply Careful.bind (careful_publish hm)
      intro _
      exact .ite (careful_resolve _) (careful_pure _)

/-- Updating a module to one that takes part is careful. -/
theorem careful_update {m : Module} (hm : cast.modules m) : cast.Careful n takes (update h m) := by
  apply (careful_ask _).bind
  intro state
  cases state with
  | none => exact careful_pure _
  | some state =>
    refine .ite ((careful_unresolve _).bind fun r => ?_) (careful_exchange hm false)
    cases r with
    | error refusal => exact careful_pure _
    | ok _ => exact careful_exchange hm true

/-- Uninstalling a module is careful. -/
theorem careful_uninstall (id : ModuleId) : cast.Careful n takes (uninstall h id) := by
  apply (careful_unresolve _).bind
  intro r
  cases r with
  | error refusal => exact careful_pure _
  | ok _ =>
    intro s hs
    refine Safe.bind (safe_tryHost h cast.modules hs fun m host' hr => ?_)
      fun r u hu => ?_
    · obtain ⟨⟨state, hd⟩, hbus, hmodules⟩ := Host.remove_eq_ok hr
      refine ⟨hs.plays.hosted h _ (Host.mem_of_hosted? hd), hbus, fun e he => ?_⟩
      rw [hmodules] at he
      exact hs.plays.hosted h e (List.mem_of_mem_eraseP he)
    · cases r with
      | error refusal => exact safe_pure hu.1
      | ok m => exact ((careful_publish (hu.2 m rfl)).bind fun _ => careful_pure _) u hu.1

/-- A call that brings modules that take part is careful. -/
theorem careful_call {call : HostCall} (hcall : call.Brings cast.modules) :
    cast.Careful n takes (call.work h) := by
  cases call with
  | install m => exact (careful_install hcall).forget
  | update m => exact (careful_update hcall).forget
  | resolve id => exact (careful_resolve id).forget
  | start id =>
    refine Careful.forget ((careful_resolve id).bind fun r => ?_)
    cases r with
    | error refusal => exact careful_pure _
    | ok _ => exact careful_changeState id _ _
  | stop id => exact (careful_changeState id _ _).forget
  | unresolve id => exact (careful_unresolve id).forget
  | uninstall id => exact (careful_uninstall id).forget

end Hosts

/-! ## Runs -/

/-- The operations that can begin at any moment. -/
inductive Begins (cast : Cast) (n : Nat) : Work Unit → Prop where
  | arrived {k : Nat} {m : Module} (hk : cast.Follows n k) (hm : cast.modules m) :
      Begins cast n (arrived k m)
  | departed {k : Nat} (hk : cast.Follows n k) (id : ModuleId) : Begins cast n (departed k id)
  | start {k : Nat} (hk : cast.Follows n k) (handle : HostHandle) :
      Begins cast n (startFollower k handle).forget
  | stop {k : Nat} (hk : cast.Follows n k) : Begins cast n (change (·.stopFollower k))
  | hold {k : Nat} (hk : cast.Follows n k) : Begins cast n (change (·.hold k))
  | release {k : Nat} (hk : cast.Follows n k) : Begins cast n (change (·.release k))
  | holding {k : Nat} (hk : cast.Follows n k) {p : Work Unit} (hp : Begins cast n p) :
      Begins cast n (holding k p)
  | publish (h : Nat) {e : Event} (he : cast.modules e.module) : Begins cast n (publish h e)
  | call (h : Nat) {call : HostCall} (hcall : call.Brings cast.modules) :
      Begins cast n (call.work h)

/-- What the outside can do between two steps of operations. -/
inductive Acts (cast : Cast) (n : Nat) (s : World × List OutsiderCall) :
    World × List OutsiderCall → Prop where
  /-- An outsider calls the catalog, about a pair that no module lists. -/
  | outsider (call : OutsiderCall)
      (h : ¬(cast.locations call.location ∧ call.service = call.location.baseName)) :
      Acts cast n s (s.1.setTable (s.1.follower n).catalog
        (call.apply (s.1.tableOf (s.1.follower n))), call :: s.2)
  /-- Something happens that concerns neither the follower nor its table. -/
  | elsewhere {w : World} (h : cast.Elsewhere n s.1 w) : Acts cast n s (w, s.2)

/-- Direct requests to a follower to take up a module. -/
inductive Requests (n : Nat) : Work Unit → Prop where
  | arrived (m : Module) : Requests n (arrived n m)
  | holding (k : Nat) {p : Work Unit} (hp : Requests n p) : Requests n (holding k p)

/-- Starts of a follower. -/
inductive Starts (n : Nat) : Work Unit → Prop where
  | start (handle : HostHandle) : Starts n (startFollower n handle).forget
  | holding (k : Nat) {p : Work Unit} (hp : Starts n p) : Starts n (holding k p)

/-- An operation that begins is careful from some state on, which is where it begins unless it is a
start. -/
def SafeFrom (cast : Cast) (n : Nat) (p : Work Unit) (s : World × List OutsiderCall) : Prop :=
  ∃ o, (¬Starts n p → o = s.1) ∧ (p s.1).Safe (cast.Holds n) (World.Spares (Requests n p) n)
    (fun _ => cast.Holds n) o s.2

/-- A careful operation is careful from where it begins. -/
theorem Careful.safeFrom {p : Work Unit} (hp : cast.Careful n (Requests n p) p)
    (hs : cast.Holds n s) : cast.SafeFrom n p s :=
  ⟨s.1, fun _ => rfl, hp s hs⟩

/-- An operation can be held for while it is careful. -/
theorem SafeFrom.holding (hk : cast.Follows n k) {p : Work Unit} (hs : cast.Holds n s)
    (hp : cast.SafeFrom n p (s.1.hold k, s.2)) : cast.SafeFrom n (World.holding k p) s := by
  have hheld : cast.Leads n (Requests n (World.holding k p)) s (s.1.hold k) := hs.leads_hold k
  have hrelease : cast.Careful n (Requests n (World.holding k p)) (change (·.release k)) :=
    careful_change fun s hs => hs.leads_release hk
  obtain ⟨o, ho, hsafe⟩ := hp
  have hall := (hsafe.mono fun _ _ h => h.mono (.holding k)).bind fun _ u hu =>
    hrelease.bind (fun _ => careful_pure ()) u hu
  by_cases hstarts : Starts n p
  · exact ⟨o, fun h => absurd (.holding k hstarts) h, hall⟩
  · exact ⟨s.1, fun _ => rfl, hall.since (.single (ho hstarts ▸ hheld.spares))⟩

/-- Every operation keeps what holds. Only direct requests take up a module for a follower that has
stopped, and only starts end that it has stopped, as they begin. -/
theorem Begins.safeFrom {p : Work Unit} (hp : cast.Begins n p) (hs : cast.Holds n s) :
    cast.SafeFrom n p s := by
  induction hp generalizing s with
  | arrived hk hm => exact Careful.safeFrom (careful_arrived hk hm fun h => h ▸ .arrived _) hs
  | departed hk id => exact Careful.safeFrom (careful_departed hk id) hs
  | start hk handle =>
    obtain ⟨o, ho, hsafe⟩ := safe_startFollower hk handle hs
    refine ⟨o, fun hstarts => ho fun h => hstarts (h ▸ .start handle), ?_⟩
    exact hsafe.bind fun _ _ hu => safe_pure hu
  | stop hk => exact Careful.safeFrom (careful_change fun s hs => hs.leads_stopFollower hk) hs
  | hold hk => exact Careful.safeFrom (careful_change fun s hs => hs.leads_hold _) hs
  | release hk => exact Careful.safeFrom (careful_change fun s hs => hs.leads_release hk) hs
  | @holding k hk p hp ih =>
    have hheld : cast.Leads n True s (s.1.hold k) := hs.leads_hold k
    exact (ih hheld.holds).holding hk hs
  | publish h he => exact Careful.safeFrom (careful_publish he) hs
  | call h hcall => exact Careful.safeFrom (careful_call hcall) hs

/-- An operation that may begin is careful from some state on. -/
theorem Begins.careful {p : Work Unit} (hp : cast.Begins n p) :
    Agenda.Opens (cast.Holds n) (World.Spares (Requests n p) n) p := fun _ hs =>
  have ⟨o, _, hsafe⟩ := hp.safeFrom hs
  ⟨o, hsafe⟩

/-- What outsiders do keeps what holds in all states. -/
theorem Holds.acts {t : World × List OutsiderCall} (hs : cast.Holds n s) (h : cast.Acts n s t) :
    cast.Holds n t := by
  cases h with
  | outsider call h =>
    refine ⟨{ hs.plays with }, ?_⟩
    simp only [tableOf, catalog_setTable, follower_setTable, nextSerial_setTable, if_pos]
    exact hs.corresponds.apply h
  | elsewhere h => exact hs.elsewhere h

/-- With nothing stored and an empty table all holds. -/
theorem Plays.holds (hplays : cast.Plays n w) (hgroups : (w.follower n).groups = .empty)
    (htable : w.tableOf (w.follower n) = .empty) : cast.Holds n (w, []) := by
  refine ⟨hplays, ?_⟩
  rw [hgroups, htable]
  exact .empty

/-- What holds in all states holds on every stage that is reached. -/
theorem Holds.reached (hs : cast.Holds n s) {g : Stage World Signal (List OutsiderCall)}
    (hg : Relation.ReflTransGen (Stage.Step (cast.Begins n) (cast.Acts n)) ⟨s, []⟩ g) :
    cast.Holds n g.state :=
  Stage.invariant (fun _ hp => hp.careful) (fun _ _ hact hs => hs.acts hact) hs hg

/-- In every state that is reached from a world in which nothing is registered, the contributions
that the follower has stored and the outsiders' calls account for its table. -/
theorem accounts_of_reached (hplays : cast.Plays n w)
    (hgroups : (w.follower n).groups = .empty) (htable : w.tableOf (w.follower n) = .empty)
    {g : Stage World Signal (List OutsiderCall)}
    (hg : Relation.ReflTransGen (Stage.Step (cast.Begins n) (cast.Acts n)) ⟨(w, []), []⟩ g) :
    Corresponds.Accounts g.state.1.nextSerial (g.state.1.follower n) g.state.2
      (g.state.1.tableOf (g.state.1.follower n)) := by
  have hholds : cast.Holds n g.state := (hplays.holds hgroups htable).reached hg
  exact hholds.corresponds.accounts

/-! A follower takes up the one module, and an outsider registers a provider besides. -/

section Example

/-- A module with one descriptor. -/
def greeting : InMemory := .build ⟨1⟩ [.service "Greeter" default]

/-- The object of the module. -/
def greetingModule : Module := ⟨0, ⟨1⟩, "module-1"⟩

/-- A world with the module in memory. -/
def greetingWorld : World where
  stock := { objects := ⟨[{ content := .inMemory greeting }]⟩ }

/-- Nobody takes part but the module. -/
def greetingCast : Cast where
  modules m := m = greetingModule
  locations l := l.owner? = some ⟨1⟩
  others _ := False

/-- The module of the example keeps to its part. -/
theorem plays_greeting : greetingCast.Plays 0 greetingWorld where
  honest := by
    rintro _ rfl folder l hl
    have hlisted : l ∈ greeting.list folder := (ScanRule.mem_descriptors.1 hl).1
    have howner := InMemory.owner?_of_mem_list hlisted
    exact ⟨howner, howner⟩
  hosted h e he := absurd he List.not_mem_nil
  listening h l hl := absurd hl List.not_mem_nil
  apart k hk := hk.elim

/-- What a follower and an outsider register beside each other is told apart. -/
theorem accounts_of_reached_greeting : ∃ g : Stage World Signal (List OutsiderCall),
    Relation.ReflTransGen (Stage.Step (greetingCast.Begins 0) (greetingCast.Acts 0))
      ⟨(greetingWorld, []), []⟩ g ∧
    ((g.state.1.follower 0).groups.get? ⟨1⟩).isSome ∧
    ∃ p ∈ ((g.state.1.tableOf (g.state.1.follower 0)).candidates "Greeter"),
      ¬Stores (g.state.1.follower 0).groups "Greeter" p := by
  let p : Provider := ⟨7, "Greeter", ⟨"elsewhere"⟩, greetingModule, true⟩
  have helsewhere : (Location.mk "elsewhere").owner? = none := by decide
  obtain ⟨g, hg, hgroup, hlive⟩ : ∃ g : Stage World Signal (List OutsiderCall),
      Relation.ReflTransGen (Stage.Step (greetingCast.Begins 0) (greetingCast.Acts 0))
        ⟨(greetingWorld, []), []⟩ g ∧
      ((g.state.1.follower 0).groups.get? ⟨1⟩).isSome ∧
      OutsiderCall.live g.state.2 "Greeter" p.location = some p := by
    refine ⟨_, .tail (.tail (.single (.begin (.arrived (.inl rfl) rfl)))
      (.resume [] [])) (.act (.outsider (.register "Greeter" p) ?_)), ?_, rfl⟩
    · rintro ⟨howner, -⟩
      cases helsewhere.symm.trans howner
    · simp [Follower.fst_arrive, Dict.get?_insert, greetingModule]
  have h := accounts_of_reached plays_greeting rfl rfl hg
  refine ⟨g, hg, hgroup, p, (h.outsiders "Greeter" p).2 (.inr hlive), fun hstores => ?_⟩
  cases hlive.symm.trans (h.apart "Greeter" p hstores)

end Example

end Cast

end ServiceRegistry
