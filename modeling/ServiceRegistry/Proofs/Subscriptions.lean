import ServiceRegistry.Proofs.Audience
import ServiceRegistry.Proofs.ElementaryChanges

/-!
# The subscription of a follower

That a follower runs, that it has a subscription and that a bus knows it as a listener are told in
three places, and in different ways. They tally at every moment that is reached, whatever the order
in which the follower is started and stopped, on whichever hosts, and also if that is done while it
starts (`World.bookkeeping_of_reached`). So no listener is left behind on a host that is no longer
followed, none is added twice, and a start is refused exactly if the follower runs.

The one exception is the moment between the two critical sections of a stop. The follower has no
subscription then and no bus knows it (`World.Gone`), but it still counts as running: they do not
tally (`World.not_tallies_while_stopping`). A start has no such moment, for it does all of this in
one section.

Of the outside it is asked only that it leaves the follower's subscription alone, or else changes it
as the operations do. To a bus a subscription is a number, so this is needed: whoever else hands in
that number silences the follower, and the follower is not told.
-/

namespace ServiceRegistry

open Relation (ReflTransGen)
open World Interruptible

/-- A follower runs if and only if it has a subscription. By it the follower is known once to the
bus of the host that it follows, and to no other. -/
structure World.Tallies (n : Nat) (w : World) : Prop where
  running : (w.follower n).running = (w.follower n).subscription.isSome
  listens : ∀ s, (w.follower n).subscription = some s → ∀ h,
    (w.host h).bus.followings n = if h = s.host then [(s.listener, .follower n)] else []
  silent : (w.follower n).subscription = none → ∀ h, (w.host h).bus.followings n = []

/-- A follower has no subscription, and no bus knows it. -/
structure World.Gone (n : Nat) (w : World) : Prop where
  unsubscribed : (w.follower n).subscription = none
  silent : ∀ h, (w.host h).bus.followings n = []

/-- A moment at which no bus mistakes a subscription for another, and at which a follower tallies
or has ended its subscription in order to stop. -/
structure Moment.InOrder (n : Nat) (m : Moment) : Prop where
  enrolled : ∀ h, m.world.Enrolled h
  tallies : m.stopping ≠ some n → m.world.Tallies n
  gone : m.stopping = some n → m.world.Gone n

/-- Something happens that does not concern a follower's subscription. -/
structure World.Unconcerned (n : Nat) (w w' : World) : Prop where
  running : (w'.follower n).running = (w.follower n).running
  subscription : (w'.follower n).subscription = (w.follower n).subscription
  followings : ∀ h, (w'.host h).bus.followings n = (w.host h).bus.followings n
  enrolled : (∀ h, w.Enrolled h) → ∀ h, w'.Enrolled h

/-- What can happen between two stretches of operations. As it may be any critical sections, other
operations can take their turns at each of these, and not only at interruptions. -/
inductive World.Meddles (n : Nat) (w w' : World) : Prop where
  | evolves (h : w.Evolves w')
  | unconcerned (h : w.Unconcerned n w')

/-- What a follower tells of itself, what the buses know of it and how it answers a start agree. -/
structure World.Bookkeeping (n : Nat) (w : World) : Prop extends w.Tallies n where
  /-- A running follower refuses to start at once, and leaves the world as it is. -/
  refuses : (w.follower n).running = true → ∀ handle,
    startFollower n handle w = .done w (.error alreadyRunning)
  /-- Whatever is done while it starts, a follower refuses if and only if it was running. -/
  answers : ∀ {δ : Type} (meanwhile : Signal → World × δ → World × δ) (d : δ) (handle : HostHandle),
    (((startFollower n handle w).beside d).finish meanwhile).1 =
      if (w.follower n).running then .error alreadyRunning else .ok ()

namespace World

variable {n k h : Nat} {w w' : World}

/-! ## Elementary changes -/

/-- No elementary change makes a bus mistake a subscription for another. -/
theorem Change.enrolled (hc : Change w w') (he : ∀ h, w.Enrolled h) (j : Nat) : w'.Enrolled j := by
  cases hc with
  | aside hhosts hfollowers =>
    refine (he j).mono (by rw [hhosts]; exact List.Subset.refl _) (by rw [hhosts]) ?_
    intro k id hk
    rwa [hfollowers] at hk
  | host h hlisteners hnext => exact enrolled_setHost hlisteners hnext (he j)
  | follower k hrunning hsubscription => exact enrolled_setFollower (he j) hsubscription
  | subscribe k h hnone => exact enrolled_subscribeFollower (he j)

/-- An elementary change does not concern a follower's subscription, unless the follower itself
subscribes. -/
theorem Change.concerns (hc : Change w w') (he : ∀ h, w.Enrolled h) (n : Nat) :
    w.Unconcerned n w' ∨
      ∃ h, (w.follower n).subscription = none ∧ w' = w.subscribeFollower n h := by
  have henrolled := fun _ : ∀ h, w.Enrolled h => hc.enrolled he
  cases hc with
  | aside hhosts hfollowers =>
    exact .inl ⟨by rw [hfollowers], by rw [hfollowers], fun h => by rw [hhosts], henrolled⟩
  | host h hlisteners hnext =>
    refine .inl ⟨rfl, rfl, fun j => ?_, henrolled⟩
    rw [host_setHost]
    split
    · rename_i hj
      unfold Bus.followings
      rw [hlisteners, hj]
    · rfl
  | follower k hrunning hsubscription =>
    refine .inl ⟨?_, ?_, fun _ => rfl, henrolled⟩ <;> rw [follower_setFollower] <;> split
    · rename_i hn
      rw [hn, hrunning]
    · rfl
    · rename_i hn
      rw [hn, hsubscription]
    · rfl
  | subscribe k h hnone =>
    by_cases hk : k = n
    · subst hk
      exact .inr ⟨h, hnone, rfl⟩
    · refine .inl ⟨?_, ?_, fun j => ?_, henrolled⟩
      · rw [follower_subscribeFollower, if_neg (Ne.symm hk)]
      · rw [follower_subscribeFollower, if_neg (Ne.symm hk)]
      · rw [followings_subscribeFollower, if_neg (fun hj => hk hj.2), List.append_nil]

/-- Neither of the two sections in which another follower stops concerns a follower's
subscription. -/
theorem unconcerned_endSubscription (he : ∀ h, w.Enrolled h) (hk : k ≠ n) :
    w.Unconcerned n (w.endSubscription k) where
  running := by rw [follower_endSubscription, if_neg (Ne.symm hk)]
  subscription := by rw [follower_endSubscription, if_neg (Ne.symm hk)]
  followings h := followings_endSubscription (he h) hk
  enrolled _ h := enrolled_endSubscription (he h)

@[inherit_doc unconcerned_endSubscription]
theorem unconcerned_halt (hk : k ≠ n) :
    w.Unconcerned n (w.onFollower k Follower.halt) where
  running := by rw [follower_onFollower, if_neg (Ne.symm hk)]
  subscription := by rw [follower_onFollower, if_neg (Ne.symm hk)]
  followings _ := rfl
  enrolled he h := (enrolled_onFollower fun _ _ => rfl).2 (he h)

/-- What does not concern a follower's subscription leaves its accounts as they are. -/
theorem Tallies.unconcerned (ht : w.Tallies n) (hw : w.Unconcerned n w') : w'.Tallies n where
  running := by rw [hw.running, hw.subscription, ht.running]
  listens s hs h := by
    rw [hw.followings]
    exact ht.listens s (hw.subscription ▸ hs) h
  silent hnone h := by
    rw [hw.followings]
    exact ht.silent (hw.subscription ▸ hnone) h

/-- A follower that subscribes is unknown to all buses before. -/
theorem Tallies.subscribe (ht : w.Tallies n) (hnone : (w.follower n).subscription = none)
    (h : Nat) : (w.subscribeFollower n h).Tallies n := by
  have hfollower := follower_subscribeFollower_self w n h
  constructor
  · rw [hfollower]
    rfl
  · intro s hs j
    rw [hfollower] at hs
    cases hs
    rw [followings_subscribeFollower, ht.silent hnone j, List.nil_append]
    simp
  · intro hs
    rw [hfollower] at hs
    cases hs

/-- A follower that ends its subscription was known by it only. -/
theorem Tallies.endSubscription (ht : w.Tallies n) : (w.endSubscription n).Gone n := by
  constructor
  · rw [follower_endSubscription, if_pos rfl]
  · intro h
    rw [host_endSubscription]
    cases hsub : (w.follower n).subscription with
    | none => exact ht.silent hsub h
    | some s =>
      have hlistens := ht.listens s hsub h
      dsimp only
      split
      · rename_i hh
        rw [if_pos hh] at hlistens
        simp [Bus.followings_unsubscribe, hlistens]
      · rename_i hh
        rwa [if_neg hh] at hlistens

/-- When a follower that has ended its subscription also ends its run, all tallies again. -/
theorem Gone.halt (hg : w.Gone n) : (w.onFollower n Follower.halt).Tallies n := by
  have hfollower : (w.onFollower n Follower.halt).follower n =
      ((w.follower n).halt (w.tableOf (w.follower n))).1 := by
    rw [follower_onFollower, if_pos rfl]
    rfl
  have hsubscription : ((w.onFollower n Follower.halt).follower n).subscription = none := by
    rw [hfollower]
    exact hg.unsubscribed
  constructor
  · rw [hsubscription, hfollower]
    rfl
  · intro s hs
    cases hsubscription.symm.trans hs
  · exact fun _ h => hg.silent h

end World

/-- The next critical section keeps a moment in order: a stop of the follower itself leads out of
the state in which all tallies and back into it. -/
theorem Moment.InOrder.next {n : Nat} {m m' : Moment} (hm : m.InOrder n) (h : m.Next m') :
    m'.InOrder n := by
  cases h with
  | @change w w' hc =>
    have ht := hm.tallies nofun
    refine ⟨hc.enrolled hm.enrolled, fun _ => ?_, nofun⟩
    rcases hc.concerns hm.enrolled n with hw | ⟨h, hnone, rfl⟩
    · exact ht.unconcerned hw
    · exact ht.subscribe hnone h
  | @leave w k =>
    have ht := hm.tallies nofun
    refine ⟨fun h => enrolled_endSubscription (hm.enrolled h), fun hk => ?_, fun hk => ?_⟩
    · exact ht.unconcerned (unconcerned_endSubscription hm.enrolled fun hkn => hk (hkn ▸ rfl))
    · cases hk
      exact ht.endSubscription
  | @halt w k =>
    have henrolled (h : Nat) : (w.onFollower k Follower.halt).Enrolled h :=
      (enrolled_onFollower fun _ _ => rfl).2 (hm.enrolled h)
    refine ⟨henrolled, fun _ => ?_, nofun⟩
    by_cases hk : k = n
    · subst hk
      exact (hm.gone rfl).halt
    · exact (hm.tallies fun hs => hk (Option.some.inj hs)).unconcerned (unconcerned_halt hk)

namespace World

variable {n : Nat} {w w' : World}

/-- Whatever happens between two stretches, a moment stays in order. -/
theorem Meddles.inOrder (h : w.Meddles n w') (hw : Moment.InOrder n ⟨w, none⟩) :
    Moment.InOrder n ⟨w', none⟩ := by
  cases h with
  | evolves h => exact h.keeps (fun _ _ hstep hm => hm.next hstep) hw
  | unconcerned h =>
    exact ⟨h.enrolled hw.enrolled, fun _ => (hw.tallies nofun).unconcerned h, nofun⟩

/-! ## Starting -/

/-- Whatever is done meanwhile, the answer is that of the moment at which a start begins. -/
theorem answer_startFollower {δ : Type} (meanwhile : Signal → World × δ → World × δ) (d : δ)
    (handle : HostHandle) : (((startFollower n handle w).beside d).finish meanwhile).1 =
      if (w.follower n).subscription.isSome then .error alreadyRunning else .ok () := by
  have hends := Run.ends_finish (fun i s => Eq.refl (meanwhile i s)) (startFollower n handle w) d
  cases hsub : (w.follower n).subscription with
  | none => exact (ends_startFollower (s := (w, d)) hsub hends).1
  | some s => exact (ends_startFollower_of_subscribed (s := (w, d)) hsub hends).1

/-- A world that tallies at a follower keeps its books. -/
theorem Tallies.bookkeeping (ht : w.Tallies n) : w.Bookkeeping n := by
  refine { ht with refuses := fun hrunning handle => ?_, answers := fun meanwhile d handle => ?_ }
  · rw [ht.running, Option.isSome_iff_exists] at hrunning
    obtain ⟨s, hs⟩ := hrunning
    exact startFollower_of_subscribed hs handle
  · rw [ht.running]
    exact answer_startFollower meanwhile d handle

/-! ## Runs -/

/-- A follower that has stopped and that no bus knows is in order, and stays so at every moment,
but the one at which it has ended its subscription and has yet to end its run. -/
theorem bookkeeping_of_reached (hrunning : (w.follower n).running = false)
    (hnone : (w.follower n).subscription = none) (hunserved : ∀ h, w.Unserved h n)
    {g : Stage World Signal Unit}
    (hg : ReflTransGen (Stage.Step Operation fun s t => s.1.Meddles n t.1) ⟨(w, ()), []⟩ g)
    {m : Moment} (hm : Moment.Reaches ⟨g.state.1, none⟩ m) :
    (m.stopping ≠ some n → m.world.Bookkeeping n) ∧ (m.stopping = some n → m.world.Gone n) := by
  have hstart : w.Tallies n := by
    refine ⟨by rw [hrunning, hnone]; rfl, fun s hs => ?_, fun _ h => (hunserved h).unfollowed⟩
    cases hnone.symm.trans hs
  have hinOrder : m.InOrder n :=
    invariant_of_changes (fun _ _ hstep hm => hm.next hstep) (fun _ _ hact hw => hact.inOrder hw)
      ⟨fun h => (hunserved h).enrolled, fun _ => hstart, nofun⟩ hg hm
  exact ⟨fun hstopping => (hinOrder.tallies hstopping).bookkeeping, hinOrder.gone⟩

/-! A follower that is starting on one host is stopped while the list of that host is taken, and
started on another. -/

section Example

/-- No bus of the empty world knows a follower. -/
theorem unserved_empty (h n : Nat) : Unserved h n {} where
  enrolled := ⟨fun _ hl => absurd hl List.not_mem_nil, nofun, nofun⟩
  unfollowed := rfl

/-- When the first start comes to its end, only the other host has a listener. If the follower is
then stopped, no host has one, also before its run is ended. -/
theorem bookkeeping_of_reached_restarted : ∃ g : Stage World Signal Unit,
    ReflTransGen (Stage.Step Operation fun s t => s.1.Meddles 0 t.1) ⟨({}, ()), []⟩ g ∧
    g.waiting = [] ∧ (g.state.1.follower 0).subscription = some ⟨1, ⟨0⟩⟩ ∧
    (g.state.1.host 0).bus.nextListener = 1 ∧ g.state.1.Bookkeeping 0 ∧
    (g.state.1.endSubscription 0).Gone 0 := by
  obtain ⟨g, hg, hwaiting, hsubscription, hnext⟩ : ∃ g : Stage World Signal Unit,
      ReflTransGen (Stage.Step Operation fun s t => s.1.Meddles 0 t.1) ⟨({}, ()), []⟩ g ∧
      g.waiting = [] ∧ (g.state.1.follower 0).subscription = some ⟨1, ⟨0⟩⟩ ∧
      (g.state.1.host 0).bus.nextListener = 1 :=
    ⟨_, .tail (.tail (.tail (.single (.begin (.start 0 ⟨0, some 0⟩))) (.begin (.stop 0)))
      (.begin (.start 0 ⟨1, none⟩))) (.resume [] []), rfl, rfl, rfl⟩
  have hbookkeeping {m : Moment} (hm : Moment.Reaches ⟨g.state.1, none⟩ m) :=
    bookkeeping_of_reached rfl rfl (fun h => unserved_empty h 0) hg hm
  exact ⟨g, hg, hwaiting, hsubscription, hnext, (hbookkeeping .refl).1 nofun,
    (hbookkeeping (.single (.leave 0))).2 rfl⟩

/-- A follower that is started in the empty world and then stopped does not tally at every moment:
it still counts as running when its subscription has ended. Nor does it tally if, instead of it,
somebody else takes back its listener. -/
theorem not_tallies_while_stopping :
    (¬∀ g : Stage World Signal Unit,
      ReflTransGen (Stage.Step Operation fun s t => s.1.Meddles 0 t.1) ⟨({}, ()), []⟩ g →
      ∀ m, Moment.Reaches ⟨g.state.1, none⟩ m → m.world.Tallies 0) ∧
    ∃ g : Stage World Signal Unit,
      ReflTransGen (Stage.Step Operation fun s t => s.1.Meddles 0 t.1) ⟨({}, ()), []⟩ g ∧
      ¬(g.state.1.setBus 0 ((g.state.1.host 0).bus.unsubscribe ⟨0⟩)).Tallies 0 := by
  obtain ⟨g, hg, hrunning, hsubscription, hsilenced⟩ : ∃ g : Stage World Signal Unit,
      ReflTransGen (Stage.Step Operation fun s t => s.1.Meddles 0 t.1) ⟨({}, ()), []⟩ g ∧
      (g.state.1.follower 0).running = true ∧
      (g.state.1.follower 0).subscription = some ⟨0, ⟨0⟩⟩ ∧
      (((g.state.1.host 0).bus.unsubscribe ⟨0⟩).followings 0) = [] :=
    ⟨_, .single (.begin (.start 0 ⟨0, none⟩)), rfl, rfl, rfl⟩
  constructor
  · intro hall
    have hrunning' : ((g.state.1.endSubscription 0).follower 0).running = true := by
      rw [follower_endSubscription, if_pos rfl]
      exact hrunning
    have htallies := (hall g hg _ (.single (.leave 0))).running
    rw [hrunning', follower_endSubscription, if_pos rfl] at htallies
    cases htallies
  · refine ⟨g, hg, fun htallies => ?_⟩
    have hlistens := htallies.listens ⟨0, ⟨0⟩⟩ hsubscription 0
    rw [if_pos rfl, host_setBus, if_pos rfl] at hlistens
    cases hsilenced.symm.trans hlistens

end Example

end World

end ServiceRegistry
