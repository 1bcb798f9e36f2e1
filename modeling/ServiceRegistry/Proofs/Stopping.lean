import ServiceRegistry.Proofs.SharedCatalog

/-!
# Stopping a follower

A follower can be stopped at any moment: while it scans, while it takes up the modules that a host
lists, while an event is on its way to it. A stop removes what the follower has registered and
nothing else, in whatever order its contributions are gone through. After that the follower stays
stopped until it is started again, and operations that are still going on remove at most what direct
requests have made it take up meanwhile; where no such request acts, only outsiders change the table
(`stopClears_of_reached`).
-/

namespace ServiceRegistry

/-- In which order contributions are removed makes no difference. -/
theorem Table.foldl_unregisterAll_perm {t : Table} (ht : t.Tight) {cs ds : List Contribution}
    (h : cs.Perm ds) : cs.foldl Table.unregisterAll t = ds.foldl Table.unregisterAll t := by
  refine (ht.foldl_unregisterAll cs).ext (ht.foldl_unregisterAll ds) fun service => ?_
  rw [candidates_foldl_unregisterAll, candidates_foldl_unregisterAll]
  exact List.filter_congr fun q _ => h.all_eq

namespace Corresponds

variable {lists : Location → Prop} {bound : Nat} {f : Follower} {calls : List OutsiderCall}
  {t : Table} {id : ModuleId} {c : Contribution} {service : String} {p : Provider}

/-- Where a stored contribution has a provider, that is the one that is listed. -/
theorem names_iff (h : Corresponds lists bound f.groups calls t)
    (hc : f.groups.get? id = some c) (hp : p ∈ t.candidates service) :
    c.names service p.location = true ↔ p ∈ c.offers service := by
  rw [Contribution.mem_offers]
  constructor
  · intro hnames
    obtain ⟨q, hq, hservice, hl⟩ := Contribution.names_eq_true.1 hnames
    have hlisted : q ∈ t.candidates service :=
      (h.registered service q).2 (.inl ⟨id, c, hc, hq, hservice⟩)
    have heq : q = p := List.inj_on_of_nodup_map (h.distinct service) hlisted hp hl
    exact heq ▸ ⟨hq, hservice⟩
  · rintro ⟨hp, hservice⟩
    exact Contribution.names_eq_true.2 ⟨p, hp, hservice, rfl⟩

/-- Stopping removes the providers of the stored contributions and leaves the others in order. -/
theorem candidates_halt (h : Corresponds lists bound f.groups calls t) :
    (f.halt t).2.candidates service =
      (t.candidates service).filter fun p => f.groups.values.all fun c => p ∉ c.offers service := by
  rw [Follower.halt, Table.candidates_foldl_unregisterAll]
  refine List.filter_congr fun p hp => ?_
  rw [Bool.eq_iff_iff, List.all_eq_true, List.all_eq_true]
  refine forall₂_congr fun c hc => ?_
  obtain ⟨id, hc⟩ := Dict.mem_values_iff.1 hc
  rw [decide_eq_true_iff, ← h.names_iff hc hp, Bool.not_eq_true', Bool.eq_false_iff]

end Corresponds

namespace World

variable {w w' : World} {n : Nat}

/-- Two worlds cannot be told apart. -/
structure Same (w w' : World) : Prop where
  follower : ∀ k, w'.follower k = w.follower k
  catalog : ∀ k, w'.catalog k = w.catalog k
  host : ∀ k, w'.host k = w.host k
  stock : w'.stock = w.stock
  environment : w'.environment = w.environment
  nextSerial : w'.nextSerial = w.nextSerial

/-- Stopping a follower that has stopped and has stored nothing changes nothing. -/
theorem same_stopFollower (hf : (w.follower n).Stopped) (hbare : (w.follower n).groups = .empty) :
    Same w (w.stopFollower n) := by
  have hend : w.endSubscription n = w := by
    unfold endSubscription
    rw [hf.subscription]
  have hhalt (t : Table) : (w.follower n).halt t = (w.follower n, t) := by
    unfold Follower.halt
    obtain ⟨hrunning, hmarks, -⟩ := hf
    generalize w.follower n = f at hrunning hmarks hbare ⊢
    cases f
    cases hrunning
    cases hmarks
    cases hbare
    rfl
  unfold stopFollower
  rw [hend]
  refine ⟨fun k => ?_, fun k => ?_, fun _ => rfl, rfl, rfl, rfl⟩
  · rw [follower_onFollower, hhalt]
    split
    · rename_i hk
      rw [hk]
    · rfl
  · rw [catalog_onFollower, hhalt]
    split
    · rename_i hk
      rw [hk]
    · rfl

/-- A follower that was stopped has stopped. -/
theorem stopped_stopFollower (w : World) (n : Nat) :
    ((w.stopFollower n).follower n).Stopped := by
  rw [follower_stopFollower, if_pos rfl]
  exact ⟨rfl, rfl, rfl⟩

/-- Stopping removes from the table what the follower has stored. -/
theorem tableOf_stopFollower (w : World) (n : Nat) :
    (w.stopFollower n).tableOf ((w.stopFollower n).follower n) =
      ((w.follower n).halt (w.tableOf (w.follower n))).2 := by
  unfold tableOf
  rw [follower_stopFollower, if_pos rfl, catalog_stopFollower, if_pos rfl]

end World

namespace Cast

open World Relation

/-- A turn in which a follower is not started. -/
def Unstarted (n : Nat) : Agenda.Turn World Signal → Prop
  | .begin p => ¬Starts n p
  | .resume _ => True
  | .outside => True

/-- A turn of an operation that does not start a follower and is no direct request to it. -/
def Remote (n : Nat) : Agenda.Turn World Signal → Prop
  | .begin p => ¬Starts n p ∧ ¬Requests n p
  | .resume p => ¬Requests n p
  | .outside => False

/-- The agenda on which a follower has been stopped. -/
def stopping (n : Nat) (a : Agenda World Signal (List OutsiderCall)) :
    Agenda World Signal (List OutsiderCall) :=
  ⟨(a.state.1.stopFollower n, a.state.2), a.waiting⟩

/-- What a follower's catalog lists. -/
def listed (n : Nat) (a : Agenda World Signal (List OutsiderCall)) : Table :=
  a.state.1.tableOf (a.state.1.follower n)

/-- What comes of stopping a follower. -/
structure StopClears (cast : Cast) (n : Nat) (a : Agenda World Signal (List OutsiderCall)) :
    Prop where
  tracked : ((stopping n a).state.1.follower n).tracked = []
  running : ((stopping n a).state.1.follower n).running = false
  /-- The providers of the follower's contributions are removed, and all others stay in order. -/
  removed : ∀ service, (listed n (stopping n a)).candidates service =
    ((listed n a).candidates service).filter fun p =>
      (a.state.1.follower n).groups.values.all fun c => p ∉ c.offers service
  /-- The contributions can be gone through in any order. -/
  anyOrder : ∀ cs : List Contribution, cs.Perm (a.state.1.follower n).groups.values →
    cs.foldl Table.unregisterAll (listed n a) = listed n (stopping n a)
  /-- Until it is started, the follower does not run, and no turn of an operation adds a provider to
  its catalog, unless the operation is a direct request. -/
  spared : ∀ b, Agenda.Reaches (cast.Begins n) (cast.Acts n) (Unstarted n) (stopping n a) b →
    (b.state.1.follower n).running = false ∧
    (b.state.1.follower n).catalog = (a.state.1.follower n).catalog ∧
    ∀ turn c, Remote n turn → Agenda.Step (cast.Begins n) (cast.Acts n) turn b c →
      ∀ service, ((listed n c).candidates service).Sublist ((listed n b).candidates service)
  /-- Where no direct request acts, only the outsiders' calls change the catalog, and stopping the
  follower once more changes nothing. -/
  final : ∀ b, Agenda.Reaches (cast.Begins n) (cast.Acts n)
      (fun turn => turn = .outside ∨ Remote n turn) (stopping n a) b →
    (b.state.1.follower n).tracked = [] ∧
    (∃ calls, b.state.2 = calls ++ a.state.2 ∧
      listed n b = calls.foldr (fun call t => call.apply t) (listed n (stopping n a))) ∧
    Same b.state.1 (stopping n b).state.1

variable {cast : Cast} {n : Nat} {a b : Agenda World Signal (List OutsiderCall)}
  {turn : Agenda.Turn World Signal}

/-- All that can go on is careful. -/
abbrev Sound (cast : Cast) (n : Nat) (a : Agenda World Signal (List OutsiderCall)) : Prop :=
  a.Sound (cast.Holds n) fun p => World.Spares (Requests n p) n

/-- An operation that goes on, or that begins and is no start, spares the follower. -/
theorem Sound.spares (ha : cast.Sound n a) (hturn : Unstarted n turn)
    (h : Agenda.Step (cast.Begins n) (cast.Acts n) turn a b) :
    (∃ p, (turn = .begin p ∨ turn = .resume p) ∧
      World.Spares (Requests n p) n a.state.1 b.state.1) ∨
    (turn = .outside ∧ cast.Acts n a.state b.state) := by
  cases turn with
  | begin p =>
    have hp : cast.Begins n p := by
      cases h with
      | begin hp => exact hp
    -- Only a start is not yet careful where it begins.
    obtain ⟨o, ho, hsafe⟩ := hp.safeFrom ha.invariant
    rw [ho hturn] at hsafe
    exact .inl ⟨p, .inl rfl, .of_steps (ha.begin hsafe h).2⟩
  | resume p => exact .inl ⟨p, .inr rfl, .of_steps (ha.resume h).2⟩
  | outside =>
    cases h with
    | act h => exact .inr ⟨rfl, h⟩

/-- Remote turns do not start the follower. -/
theorem Remote.unstarted (h : Remote n turn) : Unstarted n turn := by
  cases turn with
  | begin p => exact h.1
  | resume p => trivial
  | outside => trivial

/-- Remote turns are not those of outsiders. -/
theorem Remote.ne_outside (h : Remote n turn) : turn ≠ .outside := by
  rintro rfl
  exact h

/-- So none of its turns adds anything, unless it is a direct request. -/
theorem Sound.spares_of_remote (ha : cast.Sound n a) (hturn : Remote n turn)
    (h : Agenda.Step (cast.Begins n) (cast.Acts n) turn a b) :
    World.Spares False n a.state.1 b.state.1 := by
  rcases ha.spares hturn.unstarted h with ⟨p, rfl | rfl, hspares⟩ | ⟨rfl, -⟩
  · exact hspares.mono hturn.2
  · exact hspares.mono hturn
  · exact hturn.elim

/-- What is done by others is nothing to the follower itself. -/
theorem follower_of_acts {s t : World × List OutsiderCall} (h : cast.Acts n s t) :
    t.1.follower n = s.1.follower n := by
  cases h with
  | outsider call h => rfl
  | elsewhere h => exact h.follower

/-- A follower that has stopped stays stopped until it is started. -/
theorem Sound.stopped (ha : cast.Sound n a) (hturn : Unstarted n turn)
    (h : Agenda.Step (cast.Begins n) (cast.Acts n) turn a b)
    (hf : (a.state.1.follower n).Stopped) :
    (b.state.1.follower n).Stopped ∧
      (b.state.1.follower n).catalog = (a.state.1.follower n).catalog := by
  rcases ha.spares hturn h with ⟨p, -, hspares⟩ | ⟨-, hacts⟩
  · exact ⟨hspares.stopped hf, hspares.catalog⟩
  · rw [follower_of_acts hacts]
    exact ⟨hf, rfl⟩

/-- A sound agenda stays sound in each turn. -/
theorem Sound.step (ha : cast.Sound n a)
    (h : Agenda.Step (cast.Begins n) (cast.Acts n) turn a b) : cast.Sound n b :=
  Agenda.Sound.keeps (fun _ hp => hp.careful) (fun _ _ hacts hs => hs.acts hacts) ha h

/-- A sound agenda stays sound when the follower is stopped. -/
theorem Sound.stopping (ha : cast.Sound n a) : cast.Sound n (stopping n a) where
  invariant :=
    have hstop : cast.Leads n True a.state (a.state.1.stopFollower n) :=
      ha.invariant.leads_stopFollower (.inl rfl)
    hstop.holds
  waiting := ha.waiting

/-- A stopped follower stays stopped in turns that do not start it. -/
theorem Sound.stays_stopped (ha : cast.Sound n a) (hf : (a.state.1.follower n).Stopped)
    (h : Agenda.Reaches (cast.Begins n) (cast.Acts n) (Unstarted n) a b) :
    cast.Sound n b ∧ (b.state.1.follower n).Stopped ∧
      (b.state.1.follower n).catalog = (a.state.1.follower n).catalog := by
  induction h with
  | refl => exact ⟨ha, hf, rfl⟩
  | tail _ hstep ih =>
    obtain ⟨turn, hturn, hstep⟩ := hstep
    obtain ⟨hsound, hstopped, hcatalog⟩ := ih
    obtain ⟨hstopped', hcatalog'⟩ := hsound.stopped hturn hstep hstopped
    exact ⟨hsound.step hstep, hstopped', hcatalog'.trans hcatalog⟩

/-- A follower that has stopped and has stored nothing, and the calls that have made its table what
it is since. -/
structure Bare (n : Nat) (a b : Agenda World Signal (List OutsiderCall)) : Prop where
  stopped : (b.state.1.follower n).Stopped
  groups : (b.state.1.follower n).groups = .empty
  table : ∃ calls, b.state.2 = calls ++ a.state.2 ∧
    listed n b = calls.foldr (fun call t => call.apply t) (listed n a)

/-- What outsiders do to the table of a bare follower is on record. -/
theorem Bare.acts (hb : Bare n a b) {t : World × List OutsiderCall} (h : cast.Acts n b.state t) :
    Bare n a ⟨t, b.waiting⟩ := by
  obtain ⟨hstopped, hgroups, calls, hcalls, htable⟩ := hb
  have hfollower := follower_of_acts h
  refine ⟨hfollower ▸ hstopped, hfollower ▸ hgroups, ?_⟩
  cases h with
  | outsider call h =>
    refine ⟨call :: calls, congrArg (call :: ·) hcalls, ?_⟩
    rw [List.foldr_cons, ← htable]
    simp only [listed, tableOf, follower_setTable, catalog_setTable, if_pos]
  | elsewhere h =>
    refine ⟨calls, hcalls, ?_⟩
    rw [← htable, listed, listed, hfollower, h.table]

/-- What spares a follower leaves it bare. -/
theorem Bare.spares {c : Agenda World Signal (List OutsiderCall)} (hb : Bare n a b)
    (h : World.Spares False n b.state.1 c.state.1) (hcalls : c.state.2 = b.state.2) :
    Bare n a c := by
  obtain ⟨hstopped, hgroups, htable⟩ := hb
  obtain ⟨hbare, hsame⟩ := h.bare not_false hstopped hgroups
  have hlisted : listed n c = listed n b := hsame
  exact ⟨h.stopped hstopped, hbare, hcalls ▸ hlisted ▸ htable⟩

/-- If no direct request acts, then only calls of outsiders do. -/
theorem Sound.stays_bare (ha : cast.Sound n a) (hbare : Bare n a a)
    (h : Agenda.Reaches (cast.Begins n) (cast.Acts n)
      (fun turn => turn = .outside ∨ Remote n turn) a b) :
    cast.Sound n b ∧ Bare n a b := by
  induction h with
  | refl => exact ⟨ha, hbare⟩
  | @tail b c _ hstep ih =>
    obtain ⟨turn, hturn, hstep⟩ := hstep
    obtain ⟨hsound, hbare⟩ := ih
    refine ⟨hsound.step hstep, ?_⟩
    rcases hturn with rfl | hturn
    · cases hstep with
      | act h => exact hbare.acts h
    · exact hbare.spares (hsound.spares_of_remote hturn hstep) (hstep.remembered hturn.ne_outside)

/-- Stopping a follower on a sound agenda clears it. -/
theorem stopClears_of_sound (ha : cast.Sound n a) : cast.StopClears n a where
  tracked := by
    change ((a.state.1.stopFollower n).follower n).tracked = []
    rw [follower_stopFollower, if_pos rfl]
    rfl
  running := (stopped_stopFollower a.state.1 n).running
  removed service := by
    rw [listed, stopping, tableOf_stopFollower, ha.invariant.corresponds.candidates_halt]
    rfl
  anyOrder cs hcs := by
    rw [listed, listed, stopping, tableOf_stopFollower, Follower.halt]
    exact Table.foldl_unregisterAll_perm ha.invariant.corresponds.tight hcs
  spared b hb := by
    obtain ⟨hsound, hstopped, hcatalog⟩ :=
      ha.stopping.stays_stopped (stopped_stopFollower a.state.1 n) hb
    refine ⟨hstopped.running, hcatalog.trans ?_, fun turn c hturn hstep => ?_⟩
    · change ((a.state.1.stopFollower n).follower n).catalog = _
      rw [follower_stopFollower, if_pos rfl]
    · exact (hsound.spares_of_remote hturn hstep).fewer not_false hstopped
  final b hb := by
    have hbare : Bare n (stopping n a) (stopping n a) := by
      refine ⟨stopped_stopFollower a.state.1 n, ?_, [], rfl, rfl⟩
      change ((a.state.1.stopFollower n).follower n).groups = .empty
      rw [follower_stopFollower, if_pos rfl]
    obtain ⟨-, hstopped, hgroups, htable⟩ := ha.stopping.stays_bare hbare hb
    refine ⟨?_, htable, same_stopFollower hstopped hgroups⟩
    rw [Follower.tracked, hgroups]
    rfl

/-- In every state that is reached from a world in which nothing is registered, a stop removes what
the follower has registered, and it is not undone before the next start. -/
theorem stopClears_of_reached {w : World} (hplays : cast.Plays n w)
    (hgroups : (w.follower n).groups = .empty) (htable : w.tableOf (w.follower n) = .empty)
    (ha : Agenda.Reaches (cast.Begins n) (cast.Acts n) (fun _ => True) ⟨(w, []), []⟩ a) :
    cast.StopClears n a := by
  have hstart : cast.Sound n ⟨(w, []), []⟩ :=
    ⟨hplays.holds hgroups htable, fun e he => absurd he List.not_mem_nil⟩
  have hsound : cast.Sound n a :=
    hstart.reaches (fun _ hp => hp.careful) (fun _ _ hacts hs => hs.acts hacts) ha
  exact stopClears_of_sound hsound

/-- A follower that has taken up a module is stopped while it starts. -/
theorem stopClears_of_reached_starting :
    ∃ a : Agenda World Signal (List OutsiderCall),
      (a.state.1.follower 0).running = true ∧ (a.state.1.follower 0).tracked = [⟨1⟩] ∧
      a.waiting.length = 2 ∧ greetingCast.StopClears 0 a := by
  have hreached : ∃ a : Agenda World Signal (List OutsiderCall),
      Agenda.Reaches (greetingCast.Begins 0) (greetingCast.Acts 0) (fun _ => True)
        ⟨(greetingWorld, []), []⟩ a ∧
      (a.state.1.follower 0).running = true ∧ (a.state.1.follower 0).tracked = [⟨1⟩] ∧
      a.waiting.length = 2 := by
    refine ⟨_, .tail (.tail (.single ⟨_, trivial, .begin (.start (.inl rfl) ⟨0, some 0⟩)⟩)
      ⟨_, trivial, .begin (.arrived (.inl rfl) rfl)⟩) ⟨_, trivial, .resume [] _⟩, ?_, ?_, rfl⟩
    · rfl
    · rfl
  obtain ⟨a, ha, hrunning, htracked, hwaiting⟩ := hreached
  exact ⟨a, hrunning, htracked, hwaiting, stopClears_of_reached plays_greeting rfl rfl ha⟩

end Cast

end ServiceRegistry
