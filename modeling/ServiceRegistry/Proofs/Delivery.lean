import ServiceRegistry.Proofs.Audience
import ServiceRegistry.Proofs.HostCalls

/-!
# What a follower hears

A follower hears of every change that its host announces. `Heard` says what it makes of an event:
the contribution of an arrived module takes the place of what was stored for it, that of a departed
one goes, and nothing else changes.

All this holds if those who act at the interruptions leave the host's list, the follower, its table
and the answers of the modules as they are (`Quiet`). Other followers may hear of the event too;
then nothing is said of the table, which they may share. `Announced` puts it together with the
host's own change for the steps of a call.
-/

namespace ServiceRegistry

/-- What a follower's scan of a module shows, with providers numbered from `serial` on. -/
def World.scanFor (w : World) (n : Nat) (m : Module) (serial : Nat) : Contribution :=
  let rule := (w.follower n).rule
  rule.contribution m serial ((w.stock.view m).list rule.folder.toList)

namespace World

variable {h n : Nat} {w w' w'' : World} {e : Event} {m : Module}

/-- In alike worlds, a scan shows the same. -/
theorem Alike.scanFor (a : Alike h n w w') (m : Module) (serial : Nat) :
    w'.scanFor n m serial = w.scanFor n m serial := by
  unfold World.scanFor
  rw [a.view, a.follower]

/-- A follower's change of what it tracks, which depends on nothing but what it has tracked. -/
structure Tracks (f : Follower → Table → Follower × Table) : Prop where
  frame : ∀ g t, (f g t).1 = { g with groups := (f g t).1.groups, marks := (f g t).1.marks }
  alone : ∀ g t t', (f g t).1 = (f g t').1

/-- An arrival changes what is tracked, and nothing else of the follower. -/
theorem tracks_arrive (c : Contribution) : Tracks fun f t => f.arrive t c where
  frame g t := by
    rw [Follower.fst_arrive]
    rfl
  alone g t t' := by rw [Follower.fst_arrive, Follower.fst_arrive]

/-- A departure changes what is tracked, and nothing else of the follower. -/
theorem tracks_depart (id : ModuleId) : Tracks fun f t => f.depart t id where
  frame g t := by
    rw [Follower.fst_depart]
    rfl
  alone g t t' := by rw [Follower.fst_depart, Follower.fst_depart]

/-- Adopting a contribution changes what is tracked, and nothing else of the follower. -/
theorem tracks_adopt (c : Contribution) : Tracks fun f t => f.adopt t c where
  frame g t := by rw [Follower.fst_adopt]
  alone g t t' := by rw [Follower.fst_adopt, Follower.fst_adopt]

variable {f : Follower → Table → Follower × Table}

/-- A change of what is tracked leaves the follower with its catalog. -/
theorem Tracks.catalog (hf : Tracks f) (g : Follower) (t : Table) :
    (f g t).1.catalog = g.catalog := by
  rw [hf.frame]

/-- A change of what is tracked leaves the follower with its subscription. -/
theorem Tracks.subscription (hf : Tracks f) (g : Follower) (t : Table) :
    (f g t).1.subscription = g.subscription := by
  rw [hf.frame]

/-- A follower that changes what it tracks goes on running on its host. -/
theorem Attached.onFollower (ha : w.Attached h n) (hf : Tracks f) :
    (w.onFollower n f).Attached h n := by
  refine ⟨(enrolled_onFollower hf.subscription).2 ha.enrolled, ?_, ?_, ?_⟩ <;>
    rw [follower_onFollower, if_pos rfl, hf.frame]
  · exact ha.subscription
  · exact ha.running
  · exact ha.held

/-- Worlds that are alike remain so if the follower makes the same change in both. -/
theorem Alike.onFollower (a : Alike h n w w') (hf : Tracks f) :
    Alike h n (w.onFollower n f) (w'.onFollower n f) := by
  refine ⟨⟨a.modules, a.log, a.followings, ?_, a.view, fun he => ?_⟩, fun hs => ?_⟩
  · rw [follower_onFollower, follower_onFollower, if_pos rfl, if_pos rfl, a.follower]
    exact hf.alone _ _ _
  · rw [enrolled_onFollower hf.subscription] at he ⊢
    exact a.enrolled he
  · obtain ⟨hs', htable⟩ := a.table hs
    refine ⟨hs', ?_⟩
    unfold tableOf at htable
    simp only [tableOf, follower_onFollower, catalog_onFollower, if_pos, a.follower, htable,
      hf.catalog]

/-- What a change of a follower leaves. -/
theorem Alike.of_onFollower (hf : Tracks f) (a : Alike h n (w.onFollower n f) w') :
    w'.follower n = (f (w.follower n) (w.tableOf (w.follower n))).1 ∧
      (w.Sole h n → w'.Sole h n ∧
        w'.tableOf (w'.follower n) = (f (w.follower n) (w.tableOf (w.follower n))).2) := by
  have hfollower := a.follower
  rw [follower_onFollower, if_pos rfl] at hfollower
  refine ⟨hfollower, fun hs => ?_⟩
  obtain ⟨hs', htable⟩ := a.table hs
  rw [follower_onFollower, if_pos rfl] at htable
  refine ⟨hs', ?_⟩
  rw [hfollower, htable]
  simp only [tableOf, catalog_onFollower, hf.catalog, if_pos]

/-- A follower is in step with a host about a module: it has stored a scan of the object that is
available, or nothing if none is. -/
def InStep (h n : Nat) (w : World) (x : ModuleId) : Prop :=
  match (w.host h).available? x with
  | none => (w.follower n).groups.get? x = none
  | some m => ∃ serial, (w.follower n).groups.get? x = some (w.scanFor n m serial)

/-- A follower tracks exactly the modules that a host has in a resolved state, and each with a scan
of the object that the host holds. -/
structure UpToDate (h n : Nat) (w : World) : Prop where
  tracked : ∀ x, x ∈ (w.follower n).tracked ↔
    ∃ e, (w.host h).hosted? x = some e ∧ e.state.isResolved = true
  scanned : ∀ x e, (w.host h).hosted? x = some e → e.state.isResolved = true →
    ∃ serial, (w.follower n).groups.get? x = some (w.scanFor n e.module serial)

variable {x : ModuleId}

/-- Whether a follower is in step about a module shows in what the host holds, in what the follower
has stored and in what a scan shows. -/
theorem InStep.congr (hin : w.InStep h n x)
    (havailable : (w'.host h).available? x = (w.host h).available? x)
    (hgroup : (w'.follower n).groups.get? x = (w.follower n).groups.get? x)
    (hrule : (w'.follower n).rule = (w.follower n).rule)
    (hview : ∀ m, w'.stock.view m = w.stock.view m) : w'.InStep h n x := by
  unfold InStep at hin ⊢
  rw [havailable, hgroup]
  simpa only [World.scanFor, hrule, hview] using hin

/-- A follower that is in step about every module is up to date. -/
theorem upToDate_of_inStep (hin : ∀ x, w.InStep h n x) : w.UpToDate h n where
  tracked x := by
    have hx := hin x
    unfold InStep Host.available? at hx
    rw [Follower.tracked, Dict.mem_keys_iff]
    cases he : (w.host h).hosted? x with
    | none =>
      simp only [he, Option.bind_none] at hx
      simp [hx]
    | some e =>
      by_cases hs : e.state.isResolved = true
      · obtain ⟨serial, hx⟩ : ∃ serial, (w.follower n).groups.get? x =
            some (w.scanFor n e.module serial) := by simpa [he, hs] using hx
        simp [hx, hs]
      · simp only [he, Option.bind_some, if_neg hs] at hx
        simp [hx, hs]
  scanned x e he hs := by
    have hx := hin x
    unfold InStep Host.available? at hx
    simpa [he, hs] using hx

/-- What a follower makes of an event. -/
inductive Heard (h n : Nat) (e : Event) (w w' : World) : Prop where
  | arrival (he : e.kind.isArrival = true) (serial : Nat)
      (ha : Alike h n (w.onFollower n fun f t =>
        f.arrive t (w.scanFor n e.module serial)) w')
  | departure (he : e.kind.isDeparture = true)
      (ha : Alike h n (w.onFollower n fun f t => f.depart t e.module.id) w')
  | other (harrival : e.kind.isArrival = false) (hdeparture : e.kind.isDeparture = false)
      (ha : Alike h n w w')

/-- What was made of an event is seen in every world that is alike to the one after it. -/
theorem Heard.alike (hw : Heard h n e w w') (a : Alike h n w' w'') : Heard h n e w w'' := by
  cases hw with
  | arrival he serial ha => exact .arrival he serial (ha.trans a)
  | departure he ha => exact .departure he (ha.trans a)
  | other harrival hdeparture ha => exact .other harrival hdeparture (ha.trans a)

/-- Where others follow the host too, the table is not looked at. -/
theorem Heard.akin (hw : Heard h n e w w') (b : Akin h n w' w'') (hs : ¬w.Sole h n) :
    Heard h n e w w'' := by
  cases hw with
  | arrival he serial ha => exact .arrival he serial (ha.trans_akin b hs)
  | departure he ha => exact .departure he (ha.trans_akin b hs)
  | other harrival hdeparture ha => exact .other harrival hdeparture (ha.trans_akin b hs)

/-- What is made of an event is the same from every world that is alike to the one before it. -/
theorem Alike.heard (a : Alike h n w w') (hw : Heard h n e w' w'') : Heard h n e w w'' := by
  cases hw with
  | arrival he serial ha =>
    rw [a.scanFor] at ha
    exact .arrival he serial ((a.onFollower (tracks_arrive _)).trans ha)
  | departure he ha =>
    exact .departure he ((a.onFollower (tracks_depart _)).trans ha)
  | other harrival hdeparture ha => exact .other harrival hdeparture (a.trans ha)

/-- What a follower makes of an event concerns its groups, its marks and its table only. -/
theorem Heard.frame (hw : Heard h n e w w') :
    (w'.host h).modules = (w.host h).modules ∧ (w'.host h).bus.log = (w.host h).bus.log ∧
      (w'.host h).bus.followings n = (w.host h).bus.followings n ∧
      w'.follower n = { w.follower n with
        groups := (w'.follower n).groups
        marks := (w'.follower n).marks } ∧
      ∀ m, w'.stock.view m = w.stock.view m := by
  cases hw with
  | arrival he serial ha =>
    refine ⟨ha.modules, ha.log, ha.followings, ?_, ha.view⟩
    rw [ha.follower, follower_onFollower, if_pos rfl, Follower.fst_arrive]
    rfl
  | departure he ha =>
    refine ⟨ha.modules, ha.log, ha.followings, ?_, ha.view⟩
    rw [ha.follower, follower_onFollower, if_pos rfl, Follower.fst_depart]
    rfl
  | other harrival hdeparture ha =>
    exact ⟨ha.modules, ha.log, ha.followings, by rw [ha.follower], ha.view⟩

/-- A follower that has heard of an event goes on running on its host. -/
theorem Heard.attached (hw : Heard h n e w w') (ha : w.Attached h n) : w'.Attached h n := by
  cases hw with
  | arrival _ serial hw => exact hw.attached (ha.onFollower (tracks_arrive _))
  | departure _ hw => exact hw.attached (ha.onFollower (tracks_depart _))
  | other _ _ hw => exact hw.attached ha

/-- A follower goes on running on a host that records an event. -/
theorem attached_record (ha : w.Attached h n) (e : Event) :
    (record h e w).2.Attached h n := by
  refine ⟨(enrolled_record e).2 ha.enrolled, ?_, ha.running, ha.held⟩
  simp only [follower_record, host_record, if_pos, Bus.followings_record]
  exact ha.subscription

/-- A host changed and its change recorded, before anyone hears of it. -/
def recorded (w : World) (h : Nat) (host : Host) (e : Event) : World :=
  (record h e (w.setHost h host)).2

/-- Worlds that are alike remain so if the host records the same event in both. -/
theorem Alike.record (a : Alike h n w w') (e : Event) :
    Alike h n (World.record h e w).2 (World.record h e w').2 := by
  refine ⟨⟨?_, ?_, ?_, a.follower, a.view, fun he => ?_⟩, fun hs => ?_⟩
  · rw [host_record, host_record, if_pos rfl, if_pos rfl]
    exact a.modules
  · rw [host_record, host_record, if_pos rfl, if_pos rfl]
    exact congrArg (e :: ·) a.log
  · rw [host_record, host_record, if_pos rfl, if_pos rfl]
    exact a.followings
  · rw [enrolled_record] at he ⊢
    exact a.enrolled he
  · rw [sole_record] at hs ⊢
    exact a.table hs

end World

open World Interruptible

/-- Those who act at interruptions leave a host, its follower and what both look at as they are. -/
def Quiet {δ : Type} (h n : Nat) (outside : Signal → World × δ → World × δ → Prop) : Prop :=
  ∀ i s t, outside i s t → Alike h n s.1 t.1

variable {δ : Type} {outside : Signal → World × δ → World × δ → Prop} {h n : Nat} {e : Event}
  {m : Module} {s t : World × δ}

section Quiet

variable (hquiet : Quiet h n outside)
include hquiet

/-- A scan that is left in quiet changes nothing, and shows what the module lists. -/
theorem ends_scan_quiet {c : Contribution}
    (hs : (scan (s.1.follower n).rule m).Ends outside s c t) :
    Alike h n s.1 t.1 ∧ ∃ serial, c = s.1.scanFor n m serial := by
  obtain ⟨u, v, serial, ⟨hu, -⟩, hout, ⟨ht, -⟩, hc⟩ := ends_scan h n hs
  exact ⟨(hu.trans (hquiet _ _ _ hout)).trans ht, serial, hc⟩

/-- What a follower takes up in quiet is its only change. -/
theorem ends_takeUp_quiet {f : Follower → Table → Follower × Table}
    (hs : (takeUp n m f).Ends outside s () t) : Alike h n (s.1.onFollower n f) t.1 :=
  hquiet _ _ _ (ends_takeUp_iff.1 hs)

/-- A running follower takes up a module that has arrived. -/
theorem ends_hearArrival_quiet (hrun : (s.1.follower n).running = true)
    (hs : (hearArrival n m).Ends outside s () t) :
    ∃ serial, Alike h n (s.1.onFollower n fun f t => f.arrive t (s.1.scanFor n m serial)) t.1 := by
  obtain ⟨c, u, hscan, hs⟩ := ends_hearArrival hs
  obtain ⟨hu, serial, rfl⟩ := ends_scan_quiet hquiet hscan
  rw [hu.follower] at hs
  obtain ⟨-, hs⟩ | ⟨hstopped, -⟩ := hs
  · refine ⟨serial, Alike.trans ?_ (ends_takeUp_quiet hquiet hs)⟩
    exact hu.onFollower (tracks_arrive _)
  · rw [hrun] at hstopped
    cases hstopped

/-- Holding a follower that is held anyway makes no difference to what it hears. -/
theorem ends_holding_hearArrival (ha : s.1.Attached h n)
    (hs : (holding n (hearArrival n m)).Ends outside s () t) :
    ∃ serial, Alike h n (s.1.onFollower n fun f t => f.arrive t (s.1.scanFor n m serial)) t.1 := by
  obtain ⟨u, hhear, rfl⟩ := ends_holding hs
  obtain ⟨serial, hu⟩ := ends_hearArrival_quiet hquiet (by simpa using ha.running) hhear
  have hscan : (s.1.hold n).scanFor n m serial = s.1.scanFor n m serial := by simp [scanFor]
  rw [hscan] at hu
  have hfollower := hu.follower
  simp only [follower_onFollower, follower_hold, if_pos, Follower.fst_arrive] at hfollower
  have hholders : (u.1.follower n).holders = (s.1.follower n).holders + 1 := by
    rw [hfollower]
    rfl
  have hheld := ha.held
  rw [release_of_held _ _ (by omega)]
  refine ⟨serial, ⟨hu.modules, hu.log, hu.followings, ?_, hu.view, fun he => ?_⟩, fun hs => ?_⟩
  · simp only [follower_setFollower, follower_onFollower, if_pos, hfollower, Follower.fst_arrive]
    rfl
  · rw [enrolled_onFollower (tracks_arrive _).subscription] at he
    refine enrolled_setFollower (hu.enrolled ?_) rfl
    exact (enrolled_onFollower (tracks_arrive _).subscription).2 (enrolled_setFollower he rfl)
  · obtain ⟨hs', htable⟩ := hu.table hs
    refine ⟨hs', ?_⟩
    simp only [tableOf, follower_onFollower, follower_hold, catalog_onFollower, catalog_hold,
      catalog_setFollower, if_pos, Follower.catalog_arrive, Follower.arrive_holders] at htable ⊢
    exact htable

/-- What a running follower makes of an event. -/
theorem ends_hear (ha : s.1.Attached h n) (hs : (hear n e).Ends outside s () t) :
    Heard h n e s.1 t.1 := by
  obtain ⟨harrival, hs⟩ | ⟨hdeparture, hs⟩ | ⟨rfl, hother⟩ := ends_hear_cases hs
  · obtain ⟨serial, hs⟩ := ends_holding_hearArrival hquiet ha hs
    exact .arrival harrival serial hs
  · exact .departure hdeparture (hquiet _ _ _ (ends_departed_iff.1 hs))
  · obtain ⟨harrival, hdeparture⟩ := hother ha.held
    exact .other harrival hdeparture (.refl _)

/-- What happens while an event is delivered to someone else. -/
theorem ends_deliver_other {l : Listener} (hl : l ≠ .follower n) (he : s.1.Enrolled h)
    (hs : (deliver e l).Ends outside s () t) :
    Alike h n s.1 t.1 ∨ Akin h n s.1 t.1 ∧ ∃ k, k ≠ n ∧ l = .follower k := by
  cases l with
  | recorder r => exact .inl (hquiet _ _ _ ((ends_interrupt _ _).1 hs))
  | follower k =>
    have hk : k ≠ n := fun hk => hl (by rw [hk])
    have hakin : s.1.Enrolled h → Akin h n s.1 t.1 := by
      refine ends_hear_other hk (R := fun s t => s.1.Enrolled h → Akin h n s.1 t.1)
        (fun a b he => (a he).trans (b ((a he).enrolled he))) (fun ha _ => ha)
        (fun hout _ => ?_) (fun hout _ => ?_) (fun hout _ => ?_) hs
      · exact (hquiet _ _ _ hout).toAkin
      · exact (hquiet _ _ _ hout).toAkin
      · exact (hquiet _ _ _ hout).toAkin
    exact .inr ⟨hakin he, k, hk, rfl⟩

/-- An event passes by all listeners, and the follower hears of it in its turn. -/
theorem ends_publish (ha : s.1.Attached h n) (hs : (publish h e).Ends outside s () t) :
    Heard h n e (record h e s.1).2 t.1 := by
  unfold publish at hs
  simp only [ends_bind, ends_act] at hs
  obtain ⟨audience, u, ⟨rfl, rfl⟩, hs⟩ := hs
  obtain ⟨id, hsub, hfollowings⟩ := ha.subscription
  have hattached := attached_record ha e
  have haudience : (s.1.host h).bus.audience.filter (· = .follower n) = [.follower n] := by
    rw [Bus.filter_audience, hfollowings]
    rfl
  have hdone := Ends.each_induction
    (motive := fun rest u => rest ⊆ ((record h e s.1).2.host h).bus.audience ∧
      (rest.filter (· = .follower n) = [.follower n] ∧ Alike h n (record h e s.1).2 u.1 ∨
      rest.filter (· = .follower n) = [] ∧ Heard h n e (record h e s.1).2 u.1))
    hs ⟨by rw [host_record, if_pos rfl]; exact List.Subset.refl _, .inl ⟨haudience, .refl _⟩⟩ ?_
  · obtain ⟨-, ⟨hc, -⟩ | ⟨-, hheard⟩⟩ := hdone
    · cases hc
    · exact hheard
  · intro l rest u v hdeliver hmotive
    obtain ⟨hrest, hmotive⟩ := hmotive
    refine ⟨fun x hx => hrest (List.mem_cons_of_mem l hx), ?_⟩
    by_cases hl : l = .follower n
    · subst hl
      rw [List.filter_cons_of_pos (by simp)] at hmotive
      obtain ⟨hfilter, hu⟩ | ⟨hfilter, -⟩ := hmotive
      · have hheard := ends_hear hquiet (hu.attached hattached) hdeliver
        exact .inr ⟨(List.cons.inj hfilter).2, hu.heard hheard⟩
      · cases hfilter
    · rw [List.filter_cons_of_neg (by simpa using hl)] at hmotive
      have henrolled : u.1.Enrolled h :=
        hmotive.elim (fun hm => (hm.2.attached hattached).enrolled)
          fun hm => (hm.2.attached hattached).enrolled
      obtain hact | ⟨hact, k, hk, rfl⟩ := ends_deliver_other hquiet hl henrolled hdeliver
      · exact hmotive.imp (fun hm => ⟨hm.1, hm.2.trans hact⟩) fun hm => ⟨hm.1, hm.2.alike hact⟩
      · have hsole := not_sole_of_mem_audience hk (hrest List.mem_cons_self)
        exact hmotive.imp (fun hm => ⟨hm.1, hm.2.trans_akin hact hsole⟩)
          fun hm => ⟨hm.1, hm.2.akin hact hsole⟩

/-- An event that is published where the follower does not listen is only recorded. -/
theorem ends_publish_unfollowed (he : s.1.Enrolled h)
    (hnone : (s.1.host h).bus.followings n = [])
    (hs : (publish h e).Ends outside s () t) : Alike h n (record h e s.1).2 t.1 := by
  unfold publish at hs
  simp only [ends_bind, ends_act] at hs
  obtain ⟨audience, u, ⟨rfl, rfl⟩, hs⟩ := hs
  have haudience : (s.1.host h).bus.audience.filter (· = .follower n) = [] := by
    rw [Bus.filter_audience, hnone]
    rfl
  have hdone := Ends.each_induction
    (motive := fun rest u => rest ⊆ ((record h e s.1).2.host h).bus.audience ∧
      rest.filter (· = .follower n) = [] ∧ Alike h n (record h e s.1).2 u.1)
    hs ⟨by rw [host_record, if_pos rfl]; exact List.Subset.refl _, haudience, .refl _⟩ ?_
  · exact hdone.2.2
  · intro l rest u v hdeliver hmotive
    obtain ⟨hrest, hfilter, hu⟩ := hmotive
    have hl : l ≠ .follower n := by
      rintro rfl
      rw [List.filter_cons_of_pos (by simp)] at hfilter
      cases hfilter
    rw [List.filter_cons_of_neg (by simpa using hl)] at hfilter
    refine ⟨fun x hx => hrest (List.mem_cons_of_mem l hx), hfilter, ?_⟩
    have henrolled := hu.enrolled ((enrolled_record e).2 he)
    obtain hact | ⟨hact, k, hk, rfl⟩ := ends_deliver_other hquiet hl henrolled hdeliver
    · exact hu.trans hact
    · exact hu.trans_akin hact (not_sole_of_mem_audience hk (hrest List.mem_cons_self))

end Quiet

/-! ## Calls -/

/-- What comes of an event that a host has recorded: the follower hears of it, or it does not. -/
inductive Delivered (h n : Nat) (e : Event) (w w' : World) : Prop where
  | heard (ha : w.Attached h n) (hw : Heard h n e w w')
  | unheard (hu : w.Unserved h n) (ha : Alike h n w w')

/-- A step of a call that nothing disturbs. -/
inductive Announced (h n : Nat) (call : HostCall) (w w' : World) : Prop where
  | idle (ha : Alike h n w w')
  | changes {e : Event} {host : Host} (hcall : e.kind = .installed → call = .install e.module)
      (hc : (w.host h).Changes e host) (hw : Delivered h n e (w.recorded h host e) w')
  /-- An object is replaced while the module is unavailable. -/
  | replaces {m : Module} {host : Host} (hcall : call = .update m)
      (hnone : (w.host h).available? m.id = none) (hc : (w.host h).replace m = .ok host)
      (hw : Delivered h n ⟨.updated, m⟩ (w.recorded h host ⟨.updated, m⟩) w')

/-- The follower runs on the host, or it does not hear of it. -/
def World.Served (h n : Nat) (w : World) : Prop := w.Attached h n ∨ w.Unserved h n

namespace World

variable {w w' : World} {host : Host}

/-- A follower goes on running on a host that changes without touching its bus. -/
theorem attached_setHost (hbus : host.bus = (w.host h).bus) (ha : w.Attached h n) :
    (w.setHost h host).Attached h n := by
  refine ⟨enrolled_setHost (congrArg _ hbus) (congrArg _ hbus) ha.enrolled, ?_, ha.running, ha.held⟩
  rw [host_setHost, if_pos rfl, hbus]
  exact ha.subscription

/-- A follower that does not hear of a host does not begin to if the host changes without touching
its bus. -/
theorem unserved_setHost (hbus : host.bus = (w.host h).bus) (hu : w.Unserved h n) :
    (w.setHost h host).Unserved h n := by
  refine ⟨enrolled_setHost (congrArg _ hbus) (congrArg _ hbus) hu.enrolled, ?_⟩
  rw [host_setHost, if_pos rfl, hbus]
  exact hu.unfollowed

/-- A follower that does not hear of a host does not begin to by an event. -/
theorem unserved_record (hu : w.Unserved h n) (e : Event) : (record h e w).2.Unserved h n := by
  refine ⟨(enrolled_record e).2 hu.enrolled, ?_⟩
  rw [host_record, if_pos rfl]
  exact hu.unfollowed

/-- A host that changes without touching its bus serves a follower as before. -/
theorem served_setHost (hbus : host.bus = (w.host h).bus) (hs : w.Served h n) :
    (w.setHost h host).Served h n :=
  hs.imp (attached_setHost hbus) (unserved_setHost hbus)

/-- A host that records an event serves a follower as before. -/
theorem served_record (hs : w.Served h n) (e : Event) : (record h e w).2.Served h n :=
  hs.imp (attached_record · e) (unserved_record · e)

/-- In alike worlds, a host serves a follower in the same way. -/
theorem Alike.served (a : Alike h n w w') (hs : w.Served h n) : w'.Served h n :=
  hs.imp a.attached a.unserved

/-- A follower that runs on a host hears of it. -/
theorem Attached.not_unserved (ha : w.Attached h n) : ¬w.Unserved h n := by
  intro hu
  obtain ⟨id, -, hfollowings⟩ := ha.subscription
  cases hu.unfollowed.symm.trans hfollowings

end World

/-- After a delivery, the host serves the follower as before. -/
theorem Delivered.served {w w' : World} (hw : Delivered h n e w w') : w'.Served h n := by
  cases hw with
  | heard ha hw => exact .inl (hw.attached ha)
  | unheard hu ha => exact .inr (ha.unserved hu)

/-- A delivery leaves the host's list, which was changed before. -/
theorem Delivered.modules {w w' : World} (hw : Delivered h n e w w') :
    (w'.host h).modules = (w.host h).modules := by
  cases hw with
  | heard ha hw => exact hw.frame.1
  | unheard hnone ha => exact ha.modules

/-- From alike worlds, a delivery leads to the same. -/
theorem World.Alike.delivered {w w' w'' : World} (a : Alike h n w w') (hs : w.Served h n)
    (hw : Delivered h n e w' w'') : Delivered h n e w w'' := by
  rcases hs with ha | hu
  · cases hw with
    | heard _ hw => exact .heard ha (a.heard hw)
    | unheard hu _ => exact absurd hu (a.attached ha).not_unserved
  · cases hw with
    | heard ha _ => exact absurd (a.unserved hu) ha.not_unserved
    | unheard _ ha => exact .unheard hu (a.trans ha)

/-- A delivery publishes nothing more. -/
theorem Delivered.log {w w' : World} (hw : Delivered h n e w w') :
    (w'.host h).bus.log = (w.host h).bus.log := by
  cases hw with
  | heard ha hw => exact hw.frame.2.1
  | unheard hnone ha => exact ha.log

/-- A delivery does not change what modules answer. -/
theorem Delivered.view {w w' : World} (hw : Delivered h n e w w') (m : Module) :
    w'.stock.view m = w.stock.view m := by
  cases hw with
  | heard ha hw => exact hw.frame.2.2.2.2 m
  | unheard hnone ha => exact ha.view m

/-- The event of a change is the newest of the host's events. -/
theorem World.log_recorded (w : World) (host : Host) (e : Event) :
    ((w.recorded h host e).host h).bus.log = e :: host.bus.log := by
  simp [recorded, Bus.record]

/-- That a change is recorded does not matter to who follows the host. -/
theorem World.sole_recorded {w : World} {host : Host} (hbus : host.bus = (w.host h).bus)
    (e : Event) : (w.recorded h host e).Sole h n ↔ w.Sole h n := by
  unfold recorded
  rw [sole_record]
  unfold Sole
  rw [host_setHost, if_pos rfl, hbus]

/-- That a change is recorded leaves the list as the change has made it. -/
theorem World.modules_recorded (w : World) (host : Host) (e : Event) :
    ((w.recorded h host e).host h).modules = host.modules := by
  simp [recorded]

/-- Steps of a call keep the numbers of a list distinct. -/
theorem Announced.distinct {call : HostCall} {w w' : World} (hw : Announced h n call w w')
    (hd : (w.host h).Distinct) : (w'.host h).Distinct := by
  unfold Host.Distinct
  cases hw with
  | idle ha =>
    rw [ha.modules]
    exact hd
  | changes _ hc hw =>
    rw [hw.modules, modules_recorded]
    exact hc.distinct hd
  | replaces _ _ hc hw =>
    rw [hw.modules, modules_recorded]
    exact hd.replace hc

/-- Steps of a call leave the follower served as before. -/
theorem Announced.served {call : HostCall} {w w' : World} (hw : Announced h n call w w')
    (ha : w.Served h n) : w'.Served h n := by
  cases hw with
  | idle h => exact h.served ha
  | changes _ _ hw => exact hw.served
  | replaces _ _ _ hw => exact hw.served

section Quiet

variable (hquiet : Quiet h n outside)
include hquiet

/-- What is published is recorded and delivered, to a follower that is served. -/
theorem delivered_publish (ha : s.1.Served h n) (hs : (publish h e).Ends outside s () t) :
    Delivered h n e (record h e s.1).2 t.1 := by
  rcases ha with ha | hu
  · exact .heard (attached_record ha e) (ends_publish hquiet ha hs)
  · refine .unheard (unserved_record hu e) ?_
    exact ends_publish_unfollowed hquiet hu.enrolled hu.unfollowed hs

/-- What a host announces is recorded and delivered. -/
theorem Announces.delivered (ha : s.1.Served h n) (hs : Announces outside h e s t) :
    ∃ host, (s.1.host h).Changes e host ∧ Delivered h n e (s.1.recorded h host e) t.1 := by
  obtain ⟨host, hc, hs⟩ := hs
  have hserved := served_setHost hc.bus ha
  exact ⟨host, hc, delivered_publish (s := (s.1.setHost h host, s.2)) hquiet hserved hs⟩

/-- A replacement is recorded and delivered. -/
theorem Replaces.delivered (ha : s.1.Served h n) (hs : Replaces outside h m s t) :
    ∃ host, (s.1.host h).replace m = .ok host ∧
      Delivered h n ⟨.updated, m⟩ (s.1.recorded h host ⟨.updated, m⟩) t.1 := by
  obtain ⟨host, u, hc, hout, hs⟩ := hs
  have hu : Alike h n (s.1.setHost h host) u.1 := hquiet _ _ _ hout
  have hserved := served_setHost (Host.bus_replace hc) ha
  have hdelivered := delivered_publish hquiet (hu.served hserved) hs
  exact ⟨host, hc, (hu.record ⟨.updated, m⟩).delivered (served_record hserved _) hdelivered⟩

/-- After a departure is announced, the module is unavailable. -/
theorem Announces.unavailable (hd : (s.1.host h).Distinct) (ha : s.1.Served h n)
    (he : e.kind.isDeparture = true) (hs : Announces outside h e s t) :
    (t.1.host h).available? e.module.id = none := by
  obtain ⟨host, hc, hs⟩ := hs.delivered hquiet ha
  have havailable := hc.available? hd e.module.id
  rw [if_neg, if_pos ⟨rfl, he⟩] at havailable
  · unfold Host.available? Host.hosted?
    rw [hs.modules, modules_recorded]
    exact havailable
  · rw [EventKind.isArrival_of_isDeparture he]
    exact fun hc => Bool.noConfusion hc.2

/-- In quiet, a step of a call is announced and delivered. -/
theorem HostStep.announced {call : HostCall} (ha : s.1.Served h n)
    (hs : HostStep outside h (fun u id => (u.1.host h).available? id = none) call s t) :
    Announced h n call s.1 t.1 := by
  cases hs with
  | idle ht =>
    subst ht
    exact .idle (alike_setHost_self s.1)
  | announces _ hcall hs =>
    obtain ⟨host, hc, hw⟩ := hs.delivered hquiet ha
    exact .changes hcall hc hw
  | replaces hcall hnone hs =>
    obtain ⟨host, hc, hw⟩ := hs.delivered hquiet ha
    exact .replaces hcall hnone hc hw

/-- A call that nothing disturbs is a sequence of announced steps. -/
theorem HostCall.announced {call : HostCall} (hd : (s.1.host h).Distinct) (ha : s.1.Served h n)
    (hs : (call.work h).Ends outside s () t) :
    t.1.Served h n ∧ Relation.ReflTransGen (Announced h n call) s.1 t.1 := by
  have hsteps : HostSteps outside h (fun u id => (u.1.host h).available? id = none) call s t :=
    HostCall.steps hs (fun id hnone => hnone) fun d u _ hu => hu.unavailable hquiet hd ha rfl
  clear hs
  induction hsteps with
  | refl => exact ⟨ha, .refl⟩
  | tail _ hstep ih =>
    have hannounced := hstep.announced hquiet ih.1
    exact ⟨hannounced.served ih.1, ih.2.tail hannounced⟩

end Quiet

end ServiceRegistry
