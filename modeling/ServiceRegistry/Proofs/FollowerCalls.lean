import ServiceRegistry.Proofs.Runs
import ServiceRegistry.World.Delivery

/-!
# Operations of followers, part by part

For each operation of a follower: what it consists of, and in which states the outside acts between
its parts. Nothing is assumed of what the outside does.
-/

namespace ServiceRegistry

open World Interruptible

variable {α δ : Type} {outside : Signal → World × δ → World × δ → Prop} {h n : Nat} {e : Event}
  {m : Module} {id : ModuleId} {hosted : Hosted} {watch : Option Nat} {answer : Except Error Unit}
  {s t : World × δ}

/-! ## Taking up and letting go -/

/-- To take up a module is one change, and then a report. -/
theorem ends_takeUp_iff {f : Follower → Table → Follower × Table} :
    (takeUp n m f).Ends outside s () t ↔
      outside (.reported (.tookUp n m)) (s.1.onFollower n f, s.2) t := by
  unfold takeUp
  simp

/-- To let go of a module is one change, and then a report. -/
theorem ends_departed_iff : (departed n id).Ends outside s () t ↔
    outside (.reported (.letGo n id)) (s.1.onFollower n fun f t => f.depart t id, s.2) t := by
  unfold departed
  simp

/-- An operation is performed between holding the follower and letting go of it. -/
theorem ends_holding {p : Work α} {a : α} (hs : (holding n p).Ends outside s a t) :
    ∃ u, p.Ends outside (s.1.hold n, s.2) a u ∧ t = (u.1.release n, u.2) := by
  unfold holding at hs
  simp only [ends_bind, ends_change, ends_pure] at hs
  obtain ⟨_, _, rfl, _, u, hp, _, _, rfl, rfl, rfl⟩ := hs
  exact ⟨u, hp, rfl⟩

/-- A module that has arrived is scanned first; whether the follower runs is asked then. -/
theorem ends_hearArrival (hs : (hearArrival n m).Ends outside s () t) :
    ∃ c u, (scan (s.1.follower n).rule m).Ends outside s c u ∧
      ((u.1.follower n).running = true ∧
          (takeUp n m fun f t => f.arrive t c).Ends outside u () t ∨
        (u.1.follower n).running = false ∧ t = u) := by
  unfold hearArrival at hs
  simp only [ends_bind, ends_ask] at hs
  obtain ⟨_, s, ⟨rfl, rfl⟩, c, u, hscan, _, u, ⟨rfl, rfl⟩, hs⟩ := hs
  refine ⟨c, u, hscan, ?_⟩
  split at hs
  · rename_i hrun
    exact .inl ⟨hrun, hs⟩
  · rename_i hstopped
    exact .inr ⟨by simpa using hstopped, hs.2⟩

/-- What a follower does when it hears of an event. -/
theorem ends_hear_cases (hs : (hear n e).Ends outside s () t) :
    e.kind.isArrival = true ∧ (holding n (hearArrival n e.module)).Ends outside s () t ∨
    e.kind.isDeparture = true ∧ (departed n e.module.id).Ends outside s () t ∨
    t = s ∧ ((s.1.follower n).holders ≠ 0 →
      e.kind.isArrival = false ∧ e.kind.isDeparture = false) := by
  unfold hear at hs
  simp only [ends_bind, ends_ask] at hs
  obtain ⟨_, s, ⟨rfl, rfl⟩, hs⟩ := hs
  split at hs
  · rename_i hfree
    exact .inr (.inr ⟨hs.2, fun hheld => absurd hfree hheld⟩)
  · split at hs
    · rename_i harrival
      exact .inl ⟨harrival, hs⟩
    · rename_i harrival
      split at hs
      · rename_i hdeparture
        exact .inr (.inl ⟨hdeparture, hs⟩)
      · rename_i hdeparture
        exact .inr (.inr ⟨hs.2, fun _ => ⟨by simpa using harrival, by simpa using hdeparture⟩⟩)

/-! ## Starting -/

/-- The list of a host is taken first; then others may act. -/
theorem ends_modules {handle : HostHandle} {hosted : List Hosted}
    (hs : (modules handle).Ends outside s hosted t) :
    hosted = (s.1.host handle.host).modules ∧
      (t = s ∨ ∃ watch, outside (.surveyed watch) s t) := by
  unfold modules at hs
  rw [ends_bind] at hs
  obtain ⟨_, s, ⟨rfl, rfl⟩, hs⟩ := hs
  cases hwatch : handle.watch with
  | none =>
    rw [hwatch] at hs
    obtain ⟨rfl, rfl⟩ := hs
    exact ⟨rfl, .inl rfl⟩
  | some watch =>
    rw [hwatch] at hs
    simp only [ends_bind, ends_interrupt, ends_pure] at hs
    obtain ⟨_, u, hout, rfl, rfl⟩ := hs
    exact ⟨rfl, .inr ⟨watch, hout⟩⟩

/-- A listed module that is resolved is scanned first; whether it is still wanted is asked then. -/
theorem ends_replayHosted
    (hstates : (s.1.follower n).startupStates = ModuleState.startupDefaults)
    (hs : (replayHosted n hosted).Ends outside s () t) :
    hosted.state.isResolved = false ∧ t = s ∨
    hosted.state.isResolved = true ∧
      ∃ c u, (scan (s.1.follower n).rule hosted.module).Ends outside s c u ∧
        ((u.1.follower n).running = true ∧ (u.1.follower n).isMarked hosted.module.id = false ∧
            (takeUp n hosted.module fun f t => f.adopt t c).Ends outside u () t ∨
          ((u.1.follower n).running = true →
            (u.1.follower n).isMarked hosted.module.id = true) ∧ t = u) := by
  unfold replayHosted at hs
  simp only [ends_bind, ends_ask] at hs
  obtain ⟨_, s, ⟨rfl, rfl⟩, hs⟩ := hs
  rw [hstates] at hs
  split at hs
  · rename_i hresolved
    rw [ModuleState.mem_startupDefaults_iff] at hresolved
    unfold replay at hs
    simp only [ends_bind, ends_ask] at hs
    obtain ⟨_, s, ⟨rfl, rfl⟩, c, _, hscan, _, u, ⟨rfl, rfl⟩, hs⟩ := hs
    refine .inr ⟨hresolved, c, u, hscan, ?_⟩
    split at hs
    · rename_i hwanted
      simp only [Bool.and_eq_true, Bool.not_eq_true'] at hwanted
      exact .inl ⟨hwanted.1, hwanted.2, hs⟩
    · rename_i hunwanted
      refine .inr ⟨fun hrun => ?_, hs.2⟩
      simpa [hrun] using hunwanted
  · rename_i hresolved
    rw [ModuleState.mem_startupDefaults_iff, Bool.not_eq_true] at hresolved
    exact .inl ⟨hresolved, hs.2⟩

/-- A follower that has a subscription refuses to start, at once. -/
theorem World.startFollower_of_subscribed {w : World} {subscription : Subscription}
    (hsub : (w.follower n).subscription = some subscription) (handle : HostHandle) :
    startFollower n handle w = .done w (.error alreadyRunning) := by
  change (if (w.follower n).subscription.isSome then _ else _ : Work _) w = _
  rw [hsub]
  rfl

/-- A follower with a subscription answers with a refusal and changes nothing. -/
theorem ends_startFollower_of_subscribed {subscription : Subscription}
    (hsub : (s.1.follower n).subscription = some subscription)
    (hs : (startFollower n ⟨h, watch⟩).Ends outside s answer t) :
    answer = .error alreadyRunning ∧ t = s := by
  unfold Ends at hs
  rw [startFollower_of_subscribed hsub] at hs
  exact hs

/-- A follower without a subscription subscribes, goes through the list as it is then, and
settles. -/
theorem ends_startFollower (hsub : (s.1.follower n).subscription = none)
    (hs : (startFollower n ⟨h, watch⟩).Ends outside s answer t) :
    answer = .ok () ∧ ∃ u v,
      (u = (s.1.subscribeFollower n h, s.2) ∨
        ∃ watch, outside (.surveyed watch) (s.1.subscribeFollower n h, s.2) u) ∧
      (each (replayHosted n) (s.1.host h).modules).Ends outside u () v ∧
      t = (v.1.setFollower n (v.1.follower n).settle, v.2) := by
  unfold startFollower at hs
  simp only [ends_bind, ends_ask] at hs
  obtain ⟨_, s, ⟨rfl, rfl⟩, hs⟩ := hs
  rw [hsub, if_neg (by simp)] at hs
  simp only [ends_bind, ends_change, ends_pure] at hs
  obtain ⟨_, _, rfl, hosted, u, hlist, _, v, heach, _, _, rfl, rfl, rfl⟩ := hs
  obtain ⟨rfl, hbetween⟩ := ends_modules hlist
  rw [modules_subscribeFollower] at heach
  exact ⟨rfl, u, v, hbetween, heach, rfl⟩

end ServiceRegistry
