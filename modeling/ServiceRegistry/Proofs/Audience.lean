import ServiceRegistry.Proofs.FollowerCalls
import ServiceRegistry.Proofs.HostChanges

/-!
# Who follows a host

Several followers can follow one host, next to recorders. What happens to one of them depends on
little else: on the host's list and on what has been published, on its own subscription, and on the
answers of the modules (`World.Akin`). Nothing that another follower does when it hears of an event
concerns it (`ends_hear_other`), for a subscription is known to the bus by a number of its own
(`World.Enrolled`). Only the catalog can be shared: what is said of a follower's table, is said for
hosts that no other follower follows (`World.Alike`).
-/

namespace ServiceRegistry

/-- The subscriptions of a follower. -/
def Bus.followings (b : Bus) (n : Nat) : List (ListenerId × Listener) :=
  b.listeners.filter (·.2 = .follower n)

/-- An event that is recorded leaves the subscriptions of a follower. -/
@[simp] theorem Bus.followings_record (b : Bus) (n : Nat) (e : Event) :
    (b.record e).followings n = b.followings n := rfl

/-- Of the subscriptions of a follower, one that is ended is gone. -/
theorem Bus.followings_unsubscribe (b : Bus) (n : Nat) (id : ListenerId) :
    (b.unsubscribe id).followings n = (b.followings n).filter (·.1 ≠ id) :=
  List.filter_comm _ _ _

/-- A new subscription comes last among those of its follower, and is none of any other. -/
theorem Bus.followings_subscribe (b : Bus) (k n : Nat) :
    (b.subscribe (.follower k)).2.followings n =
      b.followings n ++ if k = n then [(⟨b.nextListener⟩, .follower n)] else [] := by
  unfold followings subscribe
  rw [List.filter_append]
  split
  · rename_i hk
    simp [hk]
  · rename_i hk
    simp [hk]

/-- A follower is among those who hear of an event as often as it is subscribed. -/
theorem Bus.filter_audience (b : Bus) (n : Nat) :
    b.audience.filter (· = .follower n) = (b.followings n).map (·.2) :=
  List.filter_map

/-- A host's bus knows each subscription by a number of its own. -/
structure World.Enrolled (h : Nat) (w : World) : Prop where
  fresh : ∀ l ∈ (w.host h).bus.listeners, l.1.number < (w.host h).bus.nextListener
  known : ∀ k id, (w.follower k).subscription = some ⟨h, id⟩ →
    id.number < (w.host h).bus.nextListener
  own : ∀ k id, (w.follower k).subscription = some ⟨h, id⟩ →
    ∀ l ∈ (w.host h).bus.listeners, l.1 = id → l.2 = .follower k

/-- No follower but one follows a host. -/
def World.Sole (h n : Nat) (w : World) : Prop :=
  ∀ l ∈ (w.host h).bus.listeners, ∀ k, l.2 = .follower k → k = n

/-- Two worlds are the same to a host and one of its followers, but perhaps for the follower's
table. -/
structure World.Akin (h n : Nat) (w w' : World) : Prop where
  modules : (w'.host h).modules = (w.host h).modules
  log : (w'.host h).bus.log = (w.host h).bus.log
  followings : (w'.host h).bus.followings n = (w.host h).bus.followings n
  follower : w'.follower n = w.follower n
  view : ∀ m, w'.stock.view m = w.stock.view m
  enrolled : w.Enrolled h → w'.Enrolled h

/-- Two worlds are the same to a host and one of its followers, and the table too if no other
follower follows the host. -/
structure World.Alike (h n : Nat) (w w' : World) : Prop extends World.Akin h n w w' where
  table : w.Sole h n → w'.Sole h n ∧ w'.tableOf (w.follower n) = w.tableOf (w.follower n)

/-- A follower runs on a host. -/
structure World.Attached (h n : Nat) (w : World) : Prop where
  enrolled : w.Enrolled h
  subscription : ∃ id, (w.follower n).subscription = some ⟨h, id⟩ ∧
    (w.host h).bus.followings n = [(id, .follower n)]
  running : (w.follower n).running = true
  held : (w.follower n).holders ≠ 0

/-- A follower does not hear of what happens on a host. -/
structure World.Unserved (h n : Nat) (w : World) : Prop where
  enrolled : w.Enrolled h
  unfollowed : (w.host h).bus.followings n = []

/-- A follower is stopped and tracks nothing. -/
structure World.Detached (h n : Nat) (w : World) : Prop extends w.Unserved h n where
  unsubscribed : (w.follower n).subscription = none
  stopped : (w.follower n).running = false
  held : (w.follower n).holders ≠ 0
  groups : (w.follower n).groups = .empty

namespace World

variable {h n k : Nat} {w w' w'' : World} {x : ModuleId}

/-! ## Subscriptions -/

/-- No subscription is mistaken for another if none is added. -/
theorem Enrolled.mono (he : w.Enrolled h)
    (hlisteners : (w'.host h).bus.listeners ⊆ (w.host h).bus.listeners)
    (hnext : (w'.host h).bus.nextListener = (w.host h).bus.nextListener)
    (hsubscription : ∀ k id, (w'.follower k).subscription = some ⟨h, id⟩ →
      (w.follower k).subscription = some ⟨h, id⟩) : w'.Enrolled h where
  fresh l hl := by
    rw [hnext]
    exact he.fresh l (hlisteners hl)
  known k id hk := by
    rw [hnext]
    exact he.known k id (hsubscription k id hk)
  own k id hk l hl := he.own k id (hsubscription k id hk) l (hlisteners hl)

/-- A host that changes without touching its bus leaves the subscriptions enrolled. -/
theorem enrolled_setHost {host : Host} (hlisteners : host.bus.listeners = (w.host k).bus.listeners)
    (hnext : host.bus.nextListener = (w.host k).bus.nextListener) (he : w.Enrolled h) :
    (w.setHost k host).Enrolled h := by
  have hbus : ((w.setHost k host).host h).bus.listeners = (w.host h).bus.listeners ∧
      ((w.setHost k host).host h).bus.nextListener = (w.host h).bus.nextListener := by
    rw [host_setHost]
    split
    · rename_i hk
      exact hk ▸ ⟨hlisteners, hnext⟩
    · exact ⟨rfl, rfl⟩
  exact he.mono (hbus.1 ▸ List.Subset.refl _) hbus.2 fun _ _ hk => hk

/-- A follower that changes but keeps its subscription leaves the subscriptions enrolled. -/
theorem enrolled_setFollower {f : Follower} (he : w.Enrolled h)
    (hf : f.subscription = (w.follower k).subscription) : (w.setFollower k f).Enrolled h := by
  refine he.mono (List.Subset.refl _) rfl fun j s hj => ?_
  rw [follower_setFollower] at hj
  split at hj
  · rename_i hjk
    rw [hjk, ← hf]
    exact hj
  · exact hj

/-- A change of what one follower tracks leaves every follower with its subscription. -/
theorem subscription_onFollower {f : Follower → Table → Follower × Table}
    (hf : ∀ g t, (f g t).1.subscription = g.subscription) (j : Nat) :
    ((w.onFollower k f).follower j).subscription = (w.follower j).subscription := by
  rw [follower_onFollower]
  split
  · rename_i hjk
    rw [hf, hjk]
  · rfl

/-- Whether subscriptions are enrolled does not depend on what a follower tracks. -/
theorem enrolled_onFollower {f : Follower → Table → Follower × Table}
    (hf : ∀ g t, (f g t).1.subscription = g.subscription) :
    (w.onFollower k f).Enrolled h ↔ w.Enrolled h := by
  constructor
  · intro he
    refine he.mono (List.Subset.refl _) rfl fun j s hj => ?_
    rw [subscription_onFollower hf]
    exact hj
  · intro he
    refine he.mono (List.Subset.refl _) rfl fun j s hj => ?_
    rw [subscription_onFollower hf] at hj
    exact hj

/-- Whether subscriptions are enrolled does not depend on the events that were published. -/
theorem enrolled_record (e : Event) : (record h e w).2.Enrolled h ↔ w.Enrolled h := by
  have hbus : ((record h e w).2.host h).bus = (w.host h).bus.record e := by
    rw [host_record, if_pos rfl]
  constructor <;> intro he
  · exact he.mono (by rw [hbus]; exact List.Subset.refl _) (by rw [hbus]; rfl) fun _ _ hk => hk
  · exact he.mono (by rw [hbus]; exact List.Subset.refl _) (by rw [hbus]; rfl) fun _ _ hk => hk

/-- Who else follows a host does not depend on the events that were published. -/
theorem sole_record (e : Event) : (record h e w).2.Sole h n ↔ w.Sole h n := by
  unfold Sole
  rw [host_record, if_pos rfl]
  rfl

/-- No other follower comes to follow a host when a subscription ends. -/
theorem sole_endSubscription (hs : w.Sole h n) : (w.endSubscription k).Sole h n := by
  unfold Sole
  rw [host_endSubscription]
  split
  · exact hs
  · split
    · exact fun l hl => hs l (List.mem_filter.1 hl).1
    · exact hs

/-- A follower that subscribes is still the only one if there was no other. -/
theorem sole_subscribeFollower (hs : w.Sole h n) : (w.subscribeFollower n h).Sole h n := by
  unfold Sole
  rw [host_subscribeFollower, if_pos rfl]
  intro l hl k hk
  rcases List.mem_append.1 hl with hl | hl
  · exact hs l hl k hk
  · rw [List.mem_singleton.1 hl] at hk
    exact (Listener.follower.inj hk).symm

/-- A follower among those who hear of a host's events follows that host. -/
theorem not_sole_of_mem_audience (hk : k ≠ n)
    (hmem : .follower k ∈ (w.host h).bus.audience) : ¬w.Sole h n := by
  obtain ⟨l, hl, hlk⟩ := List.mem_map.1 hmem
  exact fun hs => hk (hs l hl k hlk)

/-- Subscriptions remain enrolled when one of them ends. -/
theorem enrolled_endSubscription (he : w.Enrolled h) : (w.endSubscription k).Enrolled h := by
  refine he.mono ?_ ?_ fun j s hj => ?_
  · rw [host_endSubscription]
    split
    · exact List.Subset.refl _
    · split
      · exact List.filter_sublist.subset
      · exact List.Subset.refl _
  · rw [host_endSubscription]
    split
    · rfl
    · split <;> rfl
  · rw [follower_endSubscription] at hj
    split at hj
    · cases hj
    · exact hj

/-- A new subscription has a new number. -/
theorem enrolled_subscribeFollower_self (he : w.Enrolled h) :
    (w.subscribeFollower n h).Enrolled h := by
  have hbus : ((w.subscribeFollower n h).host h).bus =
      ((w.host h).bus.subscribe (.follower n)).2 := by
    rw [host_subscribeFollower, if_pos rfl]
  have hlisteners (l : ListenerId × Listener) :
      l ∈ ((w.subscribeFollower n h).host h).bus.listeners ↔
        l ∈ (w.host h).bus.listeners ∨ l = (⟨(w.host h).bus.nextListener⟩, .follower n) := by
    rw [hbus]
    simp [Bus.subscribe]
  have hnext : ((w.subscribeFollower n h).host h).bus.nextListener =
      (w.host h).bus.nextListener + 1 := by
    rw [hbus]
    rfl
  have hsubscription (k : Nat) (id : ListenerId)
      (hk : ((w.subscribeFollower n h).follower k).subscription = some ⟨h, id⟩) :
      (k = n ∧ id = ⟨(w.host h).bus.nextListener⟩) ∨
        (w.follower k).subscription = some ⟨h, id⟩ := by
    rw [follower_subscribeFollower] at hk
    split at hk
    · rename_i hkn
      cases hk
      exact .inl ⟨hkn, rfl⟩
    · exact .inr hk
  refine ⟨fun l hl => ?_, fun k id hk => ?_, fun k id hk l hl hid => ?_⟩
  · rw [hnext]
    rcases (hlisteners l).1 hl with hl | rfl
    · exact Nat.lt_succ_of_lt (he.fresh l hl)
    · exact Nat.lt_succ_self _
  · rw [hnext]
    rcases hsubscription k id hk with ⟨-, rfl⟩ | hk
    · exact Nat.lt_succ_self _
    · exact Nat.lt_succ_of_lt (he.known k id hk)
  · rcases hsubscription k id hk with ⟨rfl, rfl⟩ | hk
    · rcases (hlisteners l).1 hl with hl | rfl
      · exact absurd (he.fresh l hl) (by rw [hid]; exact Nat.lt_irrefl _)
      · rfl
    · rcases (hlisteners l).1 hl with hl | rfl
      · exact he.own k id hk l hl hid
      · exact absurd (he.known k id hk) (by rw [← hid]; exact Nat.lt_irrefl _)

/-- Subscriptions remain enrolled when a follower subscribes, to whichever host. -/
theorem enrolled_subscribeFollower {j : Nat} (he : w.Enrolled j) :
    (w.subscribeFollower k h).Enrolled j := by
  by_cases hj : j = h
  · subst hj
    exact enrolled_subscribeFollower_self he
  · have hhost : (w.subscribeFollower k h).host j = w.host j := by
      rw [host_subscribeFollower, if_neg hj]
    refine he.mono (hhost ▸ List.Subset.refl _) (by rw [hhost]) fun i id hi => ?_
    rw [follower_subscribeFollower] at hi
    split at hi
    · injection hi with hi
      exact absurd (congrArg Subscription.host hi).symm hj
    · exact hi

/-- By subscribing, a follower gains one subscription, on the host to which it subscribes. -/
theorem followings_subscribeFollower (j : Nat) :
    ((w.subscribeFollower k h).host j).bus.followings n = (w.host j).bus.followings n ++
      if j = h ∧ k = n then [(⟨(w.host h).bus.nextListener⟩, .follower n)] else [] := by
  rw [host_subscribeFollower]
  split
  · rename_i hj
    subst hj
    simpa using Bus.followings_subscribe (w.host j).bus k n
  · rename_i hj
    simp [hj]

/-- A follower that changes goes on running on its host, if it keeps its subscription and is held.
-/
theorem Attached.setFollower {f : Follower} (ha : w.Attached h n)
    (hf : f.subscription = (w.follower n).subscription) (hrun : f.running = true)
    (hheld : f.holders ≠ 0) : (w.setFollower n f).Attached h n := by
  refine ⟨enrolled_setFollower ha.enrolled hf, ?_, ?_, ?_⟩ <;> rw [follower_setFollower, if_pos rfl]
  · rw [hf]
    exact ha.subscription
  · exact hrun
  · exact hheld

/-- A stopped follower that changes remains stopped, if it gains no subscription and tracks nothing.
-/
theorem Detached.setFollower {f : Follower} (hd : w.Detached h n)
    (hf : f.subscription = (w.follower n).subscription) (hrun : f.running = false)
    (hheld : f.holders ≠ 0) (hgroups : f.groups = .empty) : (w.setFollower n f).Detached h n := by
  refine ⟨⟨enrolled_setFollower hd.enrolled hf, hd.unfollowed⟩, ?_, ?_, ?_, ?_⟩ <;>
    rw [follower_setFollower, if_pos rfl]
  · exact hf.trans hd.unsubscribed
  · exact hrun
  · exact hheld
  · exact hgroups

/-- The end of a subscription does not concern other followers. -/
theorem followings_endSubscription (he : w.Enrolled h) (hk : k ≠ n) :
    ((w.endSubscription k).host h).bus.followings n = (w.host h).bus.followings n := by
  rw [host_endSubscription]
  split
  · rfl
  · rename_i s hs
    split
    · rename_i hhost
      subst hhost
      change ((w.host s.host).bus.unsubscribe s.listener).followings n = _
      rw [Bus.followings_unsubscribe, List.filter_eq_self]
      intro l hl
      obtain ⟨hmem, hn⟩ := List.mem_filter.1 hl
      refine decide_eq_true fun hid => hk ?_
      have hown := he.own k s.listener hs l hmem hid
      rw [of_decide_eq_true hn] at hown
      exact (Listener.follower.inj hown).symm
    · rfl

/-- The end of a subscription is no event. -/
theorem log_endSubscription : ((w.endSubscription k).host h).bus.log = (w.host h).bus.log := by
  rw [host_endSubscription]
  split
  · rfl
  · split <;> rfl

/-- A follower that is stopped no longer follows its host. -/
theorem detached_stopFollower (hw : w.Attached h n ∨ w.Detached h n) :
    (w.stopFollower n).Detached h n := by
  have hfollower := follower_stopFollower w n n
  rw [if_pos rfl] at hfollower
  have henrolled : (w.endSubscription n).Enrolled h :=
    enrolled_endSubscription (hw.elim (·.enrolled) (·.enrolled))
  refine ⟨⟨(enrolled_onFollower fun _ _ => rfl).2 henrolled, ?_⟩, ?_, ?_, ?_, ?_⟩
  · rw [host_stopFollower, host_endSubscription]
    rcases hw with ha | hd
    · obtain ⟨id, hsub, hf⟩ := ha.subscription
      rw [hsub]
      simp [Bus.followings_unsubscribe, hf]
    · rw [hd.unsubscribed]
      exact hd.unfollowed
  · rw [hfollower]
  · rw [hfollower]
  · rw [hfollower]
    exact hw.elim (·.held) (·.held)
  · rw [hfollower]

/-! ## Worlds that are the same to a follower -/

/-- Every world is akin to itself. -/
theorem Akin.refl (w : World) : Akin h n w w := ⟨rfl, rfl, rfl, rfl, fun _ => rfl, id⟩

/-- Being akin goes from world to world. -/
theorem Akin.trans (a : Akin h n w w') (b : Akin h n w' w'') : Akin h n w w'' where
  modules := b.modules.trans a.modules
  log := b.log.trans a.log
  followings := b.followings.trans a.followings
  follower := b.follower.trans a.follower
  view m := (b.view m).trans (a.view m)
  enrolled he := b.enrolled (a.enrolled he)

/-- In akin worlds, a follower runs on the same host. -/
theorem Akin.attached (a : Akin h n w w') (ha : w.Attached h n) : w'.Attached h n where
  enrolled := a.enrolled ha.enrolled
  subscription := by
    rw [a.follower, a.followings]
    exact ha.subscription
  running := a.follower ▸ ha.running
  held := a.follower ▸ ha.held

/-- In akin worlds, a follower hears of the same hosts. -/
theorem Akin.unserved (a : Akin h n w w') (hw : w.Unserved h n) : w'.Unserved h n where
  enrolled := a.enrolled hw.enrolled
  unfollowed := a.followings.trans hw.unfollowed

/-- In akin worlds, a follower is stopped in both or in neither. -/
theorem Akin.detached (a : Akin h n w w') (hw : w.Detached h n) : w'.Detached h n where
  toUnserved := a.unserved hw.toUnserved
  unsubscribed := a.follower ▸ hw.unsubscribed
  stopped := a.follower ▸ hw.stopped
  held := a.follower ▸ hw.held
  groups := a.follower ▸ hw.groups

/-- In akin worlds, a host has the same objects available. -/
theorem Akin.available? (a : Akin h n w w') (x : ModuleId) :
    (w'.host h).available? x = (w.host h).available? x := by
  unfold Host.available? Host.hosted?
  rw [a.modules]

/-- Every world is alike to itself. -/
theorem Alike.refl (w : World) : Alike h n w w := ⟨.refl w, fun hs => ⟨hs, rfl⟩⟩

/-- Being alike goes from world to world. -/
theorem Alike.trans (a : Alike h n w w') (b : Alike h n w' w'') : Alike h n w w'' := by
  refine ⟨a.toAkin.trans b.toAkin, fun hs => ?_⟩
  obtain ⟨hs', ha⟩ := a.table hs
  obtain ⟨hs'', hb⟩ := b.table hs'
  rw [a.follower] at hb
  exact ⟨hs'', hb.trans ha⟩

/-- Where others follow the host too, the table is not looked at. -/
theorem Alike.trans_akin (a : Alike h n w w') (b : Akin h n w' w'') (hs : ¬w.Sole h n) :
    Alike h n w w'' :=
  ⟨a.toAkin.trans b, fun hsole => absurd hsole hs⟩

/-- Writing a host back changes nothing. -/
theorem alike_setHost_self (w : World) : Alike h n w (w.setHost h (w.host h)) := by
  have hhost : (w.setHost h (w.host h)).host h = w.host h := by rw [host_setHost, if_pos rfl]
  refine ⟨⟨by rw [hhost], by rw [hhost], by rw [hhost], rfl, fun _ => rfl,
    enrolled_setHost rfl rfl⟩, fun hs => ⟨?_, rfl⟩⟩
  unfold Sole
  rw [hhost]
  exact hs

/-! ## What other followers do -/

section Other

variable (hk : k ≠ n)
include hk

/-- A change of another follower that keeps its subscription leaves the world akin. -/
theorem akin_setFollower {f : Follower} (hf : f.subscription = (w.follower k).subscription) :
    Akin h n w (w.setFollower k f) := by
  refine ⟨rfl, rfl, rfl, ?_, fun _ => rfl, fun he => enrolled_setFollower he hf⟩
  rw [follower_setFollower, if_neg hk.symm]

/-- A change of what another follower tracks leaves the world akin, shared table or not. -/
theorem akin_onFollower {f : Follower → Table → Follower × Table}
    (hf : ∀ g t, (f g t).1.subscription = g.subscription) : Akin h n w (w.onFollower k f) := by
  refine ⟨rfl, rfl, rfl, ?_, fun _ => rfl, (enrolled_onFollower hf).2⟩
  rw [follower_onFollower, if_neg hk.symm]

/-- That another follower stops leaves the world akin. -/
theorem akin_stopFollower (he : w.Enrolled h) : Akin h n w (w.stopFollower k) := by
  have hend : Akin h n w (w.endSubscription k) := by
    refine ⟨modules_endSubscription w k h, log_endSubscription, followings_endSubscription he hk,
      ?_, fun m => by rw [stock_endSubscription], fun he => enrolled_endSubscription he⟩
    rw [follower_endSubscription, if_neg hk.symm]
  exact hend.trans (akin_onFollower hk fun _ _ => rfl)

/-- That another follower is let go of leaves the world akin, also if it stops for that. -/
theorem akin_release (he : w.Enrolled h) : Akin h n w (w.release k) := by
  have hless : Akin h n w (w.setFollower k
      { w.follower k with holders := (w.follower k).holders - 1 }) := akin_setFollower hk rfl
  unfold release
  dsimp only
  split
  · exact hless.trans (akin_stopFollower hk (hless.enrolled he))
  · exact hless

end Other

end World

open World Interruptible

variable {δ : Type} {outside : Signal → World × δ → World × δ → Prop} {h n k : Nat} {e : Event}
  {m : Module} {s t : World × δ}

/-- A scan shows a module as it is when it is asked; then others act, and then it is done. -/
theorem ends_scan (h n : Nat) {rule : ScanRule} {c : Contribution}
    (hs : (scan rule m).Ends outside s c t) :
    ∃ u v serial, (Alike h n s.1 u.1 ∧ u.2 = s.2) ∧ outside (.listed m) u v ∧
      (Alike h n v.1 t.1 ∧ t.2 = v.2) ∧
      c = rule.contribution m serial ((s.1.stock.view m).list rule.folder.toList) := by
  unfold scan World.list at hs
  simp only [ends_bind, ends_act, ends_interrupt, ends_pure] at hs
  obtain ⟨listing, u, ⟨_, v, ⟨rfl, rfl⟩, _, u', hout, hlisting, rfl⟩, rfl, rfl⟩ := hs
  subst hlisting
  have hasked : Alike h n s.1 (onStock (·.list m rule.folder) s.1).2 :=
    ⟨⟨rfl, rfl, rfl, rfl, fun k => Stock.view_list _ m k rule.folder,
      fun he => ⟨he.fresh, he.known, he.own⟩⟩, fun hs => ⟨hs, rfl⟩⟩
  have hnumbered (listing : Except Fault (List Location)) :
      Alike h n u.1 (contribute rule m listing u.1).2 :=
    ⟨⟨rfl, rfl, rfl, rfl, fun _ => rfl, fun he => ⟨he.fresh, he.known, he.own⟩⟩,
      fun hs => ⟨hs, rfl⟩⟩
  exact ⟨((onStock (·.list m rule.folder) s.1).2, s.2), u, u.1.nextSerial, ⟨hasked, rfl⟩, hout,
    ⟨hnumbered _, rfl⟩, rfl⟩

/-- What another follower does when it hears of an event consists of steps that do not concern a
follower, and of what happens at their interruptions. -/
theorem ends_hear_other (hk : k ≠ n) {R : World × δ → World × δ → Prop}
    (trans : ∀ {s t u}, R s t → R t u → R s u)
    (step : ∀ {s t}, (s.1.Enrolled h → Akin h n s.1 t.1) → t.2 = s.2 → R s t)
    (listed : ∀ {m s t}, outside (.listed m) s t → R s t)
    (tookUp : ∀ {m s t}, outside (.reported (.tookUp k m)) s t → R s t)
    (letGo : ∀ {id s t}, outside (.reported (.letGo k id)) s t → R s t)
    (hs : (hear k e).Ends outside s () t) : R s t := by
  have hscan {rule : ScanRule} {m : Module} {c : Contribution} {s t : World × δ}
      (hs : (scan rule m).Ends outside s c t) : R s t := by
    obtain ⟨u, v, serial, ⟨hu, hu'⟩, hout, ⟨ht, ht'⟩, -⟩ := ends_scan h n hs
    exact trans (trans (step (fun _ => hu.toAkin) hu') (listed hout))
      (step (fun _ => ht.toAkin) ht')
  obtain ⟨-, hs⟩ | ⟨-, hs⟩ | ⟨rfl, -⟩ := ends_hear_cases hs
  · obtain ⟨v, hheard, rfl⟩ := ends_holding hs
    have hheld : R s (s.1.hold k, s.2) := step (fun _ => akin_setFollower hk rfl) rfl
    have hreleased : R v (v.1.release k, v.2) := step (fun he => akin_release hk he) rfl
    refine trans (trans hheld ?_) hreleased
    obtain ⟨c, u, hc, ⟨-, htake⟩ | ⟨-, rfl⟩⟩ := ends_hearArrival hheard
    · have harrived : Akin h n u.1 (u.1.onFollower k fun f t => f.arrive t c) :=
        akin_onFollower hk fun g t => by rw [Follower.fst_arrive]; rfl
      have hstep : R u (u.1.onFollower k fun f t => f.arrive t c, u.2) :=
        step (fun _ => harrived) rfl
      exact trans (hscan hc) (trans hstep (tookUp (ends_takeUp_iff.1 htake)))
    · exact hscan hc
  · have hdeparted : Akin h n s.1 (s.1.onFollower k fun f t => f.depart t e.module.id) :=
      akin_onFollower hk fun g t => by rw [Follower.fst_depart]; rfl
    have hstep : R s (s.1.onFollower k fun f t => f.depart t e.module.id, s.2) :=
      step (fun _ => hdeparted) rfl
    exact trans hstep (letGo (ends_departed_iff.1 hs))
  · exact step (fun _ => .refl _) rfl

end ServiceRegistry
