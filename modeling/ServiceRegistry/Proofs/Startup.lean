import ServiceRegistry.Proofs.Delivery

/-!
# Starting on a host that changes

A follower subscribes to its host before it takes up the listed modules, and listed modules of which
it has heard meanwhile are left alone. Whatever calls on the host come in between, from the moment
that the list is taken to the last scan of the replay, the follower is up to date with the host when
it has started: it tracks exactly the modules that are available then, and each with a scan of the
object that the host holds then (`upToDate_of_start`).

The reason is that what a follower has not heard of has not changed: a step of a call either leaves
a module as it is, for the host and the follower alike, or has the follower mark the module and be
in step about it (`Follows`). Others may follow the host too. Calls that come while the follower
takes up an arrival are left out here.
-/

namespace ServiceRegistry

namespace World

/-- For one module, nothing has changed. -/
structure Untouched (h n : Nat) (w w' : World) (x : ModuleId) : Prop where
  available : (w'.host h).available? x = (w.host h).available? x
  group : (w'.follower n).groups.get? x = (w.follower n).groups.get? x
  mark : (w'.follower n).isMarked x = (w.follower n).isMarked x

/-- A follower has heard of a module and is in step about it. -/
structure Caught (h n : Nat) (w : World) (x : ModuleId) : Prop where
  inStep : w.InStep h n x
  marked : (w.follower n).marks.isSome = true → (w.follower n).isMarked x = true

/-- A follower goes on running as it did, on a host that may have changed. -/
structure Alongside (h n : Nat) (w w' : World) : Prop where
  attached : w'.Attached h n
  distinct : (w'.host h).Distinct
  frame : w'.follower n = { w.follower n with
    groups := (w'.follower n).groups
    marks := (w'.follower n).marks }
  starting : (w'.follower n).marks.isSome = (w.follower n).marks.isSome
  view : ∀ m, w'.stock.view m = w.stock.view m

/-- A running follower has kept up with its host. -/
structure Follows (h n : Nat) (w w' : World) : Prop extends Alongside h n w w' where
  modules : ∀ x, w'.Caught h n x ∨ Untouched h n w w' x

variable {h n : Nat} {w w' w'' : World} {x : ModuleId}

/-- An attached follower goes on running as it does. -/
theorem Alongside.refl (ha : w.Attached h n) (hd : (w.host h).Distinct) : Alongside h n w w :=
  ⟨ha, hd, rfl, rfl, fun _ => rfl⟩

/-- A follower that goes on running twice goes on running. -/
theorem Alongside.trans (a : Alongside h n w w') (b : Alongside h n w' w'') :
    Alongside h n w w'' where
  attached := b.attached
  distinct := b.distinct
  frame := by rw [b.frame, a.frame]
  starting := b.starting.trans a.starting
  view m := (b.view m).trans (a.view m)

/-- While a follower goes on running, scans show it the same. -/
theorem Alongside.scanFor (hw : Alongside h n w w') (m : Module) (serial : Nat) :
    w'.scanFor n m serial = w.scanFor n m serial := by
  unfold World.scanFor
  rw [hw.view, hw.frame]

/-- A follower that goes on running stays in step about modules that are left alone. -/
theorem Alongside.inStep (hw : Alongside h n w w') (hx : Untouched h n w w' x)
    (hin : w.InStep h n x) : w'.InStep h n x :=
  hin.congr hx.available hx.group (by rw [hw.frame]) hw.view

/-- What a follower has heard of a module holds on while the module is left alone. -/
theorem Alongside.caught (hw : Alongside h n w w') (hx : Untouched h n w w' x)
    (hcaught : w.Caught h n x) : w'.Caught h n x := by
  refine ⟨hw.inStep hx hcaught.inStep, fun hmarks => ?_⟩
  rw [hx.mark]
  exact hcaught.marked (hw.starting ▸ hmarks)

/-- A follower has kept up with a host that does nothing. -/
theorem Follows.refl (ha : w.Attached h n) (hd : (w.host h).Distinct) : Follows h n w w :=
  ⟨.refl ha hd, fun _ => .inr ⟨rfl, rfl, rfl⟩⟩

/-- A follower that keeps up twice keeps up. -/
theorem Follows.trans (a : Follows h n w w') (b : Follows h n w' w'') : Follows h n w w'' := by
  refine ⟨a.toAlongside.trans b.toAlongside, fun x => ?_⟩
  rcases b.modules x with hb | hb
  · exact .inl hb
  · rcases a.modules x with ha | ha
    · exact .inl (b.toAlongside.caught hb ha)
    · exact .inr ⟨hb.available.trans ha.available, hb.group.trans ha.group,
        hb.mark.trans ha.mark⟩

/-- A follower goes on running while nothing concerns it. -/
theorem Alike.alongside (a : Alike h n w w') (ha : w.Attached h n) (hd : (w.host h).Distinct) :
    Alongside h n w w' where
  attached := a.attached ha
  distinct := by
    unfold Host.Distinct
    rw [a.modules]
    exact hd
  frame := by rw [a.follower]
  starting := by rw [a.follower]
  view := a.view

/-- What concerns neither host nor follower leaves each module alone. -/
theorem Alike.untouched (a : Alike h n w w') (x : ModuleId) : Untouched h n w w' x :=
  ⟨a.available? x, by rw [a.follower], by rw [a.follower]⟩

/-- A follower has kept up with what concerns neither it nor its host. -/
theorem Alike.follows (a : Alike h n w w') (ha : w.Attached h n) (hd : (w.host h).Distinct) :
    Follows h n w w' :=
  ⟨a.alongside ha hd, fun x => .inr (a.untouched x)⟩

end World

open World Interruptible

variable {h n : Nat} {w w' : World} {e : Event} {host : Host}

/-- A follower has kept up with its host if it has marked a module and is in step about it, and all
else is as it was. -/
theorem World.Follows.of_mark {id : ModuleId} {groups : Dict ModuleId Contribution}
    (ha : w'.Attached h n) (hd : (w'.host h).Distinct)
    (hview : ∀ m, w'.stock.view m = w.stock.view m)
    (hfollower : w'.follower n = { (w.follower n).mark id with groups })
    (hin : w'.InStep h n id)
    (havailable : ∀ x, x ≠ id → (w'.host h).available? x = (w.host h).available? x)
    (hgroups : ∀ x, x ≠ id → groups.get? x = (w.follower n).groups.get? x) :
    Follows h n w w' := by
  refine ⟨⟨ha, hd, by rw [hfollower]; rfl, ?_, hview⟩, fun x => ?_⟩
  · rw [hfollower]
    exact Follower.isSome_marks_mark _ _
  · by_cases hx : x = id
    · refine .inl ⟨hx ▸ hin, fun hmarks => ?_⟩
      rw [hfollower] at hmarks ⊢
      exact Follower.isMarked_of_mark _ _ _ hx (by simpa using hmarks)
    · refine .inr ⟨havailable x hx, ?_, ?_⟩
      · rw [hfollower]
        exact hgroups x hx
      · rw [hfollower]
        exact Follower.isMarked_mark_of_ne _ _ _ hx

/-- A follower that hears of a change has kept up with the host. -/
theorem World.Heard.follows (ha : w.Attached h n) (hd : (w.host h).Distinct)
    (hc : (w.host h).Changes e host) (hw : Heard h n e (w.recorded h host e) w') :
    Follows h n w w' := by
  obtain ⟨hmodules, -, -, hframe, hview⟩ := hw.frame
  have hattached := hw.attached (attached_record (attached_setHost hc.bus ha) e)
  have hmod : (w'.host h).modules = host.modules := hmodules.trans (modules_recorded w host e)
  have havailable (x : ModuleId) : (w'.host h).available? x =
      if x = e.module.id ∧ e.kind.isArrival = true then some e.module
      else if x = e.module.id ∧ e.kind.isDeparture = true then none
      else (w.host h).available? x := by
    rw [← hc.available? hd x]
    unfold Host.available? Host.hosted?
    rw [hmod]
  have hothers (x : ModuleId) (hx : x ≠ e.module.id) :
      (w'.host h).available? x = (w.host h).available? x := by
    rw [havailable, if_neg fun hc => hx hc.1, if_neg fun hc => hx hc.1]
  have hdistinct : (w'.host h).Distinct := by
    unfold Host.Distinct
    rw [hmod]
    exact hc.distinct hd
  have hscan (m : Module) (serial : Nat) :
      w'.scanFor n m serial = (w.recorded h host e).scanFor n m serial := by
    unfold scanFor
    rw [hview, hframe]
  cases hw with
  | arrival he serial ha =>
    have hfollower := ha.follower
    rw [follower_onFollower, if_pos rfl, Follower.fst_arrive] at hfollower
    refine .of_mark hattached hdistinct hview hfollower ?_ hothers fun x hx =>
      (Dict.get?_insert _ _ _ _).trans (if_neg hx)
    unfold InStep
    rw [havailable, if_pos ⟨rfl, he⟩]
    refine ⟨serial, ?_⟩
    rw [hscan, hfollower]
    exact (Dict.get?_insert _ _ _ _).trans (if_pos rfl)
  | departure he ha =>
    have hfollower := ha.follower
    rw [follower_onFollower, if_pos rfl, Follower.fst_depart] at hfollower
    refine .of_mark hattached hdistinct hview hfollower ?_ hothers fun x hx =>
      (Dict.get?_erase _ _ _).trans (if_neg hx)
    have harrival : e.kind.isArrival = false := EventKind.isArrival_of_isDeparture he
    unfold InStep
    rw [havailable, if_neg (by simp [harrival]), if_pos ⟨rfl, he⟩]
    dsimp only
    rw [hfollower]
    exact (Dict.get?_erase _ _ _).trans (if_pos rfl)
  | other harrival hdeparture ha =>
    have hfollower : w'.follower n = w.follower n := ha.follower
    refine ⟨⟨hattached, hdistinct, hframe, by rw [hfollower], hview⟩, fun x => .inr ⟨?_, ?_, ?_⟩⟩
    · rw [havailable, if_neg (by simp [harrival]), if_neg (by simp [hdeparture])]
    · rw [hfollower]
    · rw [hfollower]

/-- An attached follower hears what is delivered. -/
theorem Delivered.heard_of_attached (hw : Delivered h n e w w') (ha : w.Attached h n) :
    Heard h n e w w' := by
  cases hw with
  | heard _ hw => exact hw
  | unheard hu _ => exact absurd hu ha.not_unserved

/-- A follower keeps up with the steps of calls. -/
theorem Announced.follows {call : HostCall} (ha : w.Attached h n) (hd : (w.host h).Distinct)
    (hw : Announced h n call w w') : Follows h n w w' := by
  cases hw with
  | idle halike => exact halike.follows ha hd
  | changes _ hc hw =>
    refine World.Heard.follows ha hd hc (hw.heard_of_attached ?_)
    exact attached_record (attached_setHost hc.bus ha) _
  | @replaces m host _ hnone hc hw =>
    have hattached := attached_record (attached_setHost (Host.bus_replace hc) ha) ⟨.updated, m⟩
    cases hw.heard_of_attached hattached with
    | arrival he => cases he
    | departure he => cases he
    | other _ _ halike =>
      have hmod : (w'.host h).modules = host.modules :=
        halike.modules.trans (modules_recorded w host _)
      refine ⟨⟨halike.attached hattached, ?_, ?_, ?_, halike.view⟩, fun x => .inr ⟨?_, ?_, ?_⟩⟩
      · unfold Host.Distinct
        rw [hmod]
        exact hd.replace hc
      · rw [halike.follower]
        rfl
      · rw [halike.follower]
        rfl
      · have havailable : (w'.host h).available? x = host.available? x := by
          unfold Host.available? Host.hosted?
          rw [hmod]
        rw [havailable, Host.available?_replace hc]
        split
        · rename_i hx
          rw [hx, hnone]
          rfl
        · rfl
      · rw [halike.follower]
        rfl
      · rw [halike.follower]
        rfl

/-- A follower keeps up with any number of steps of a call. -/
theorem follows_of_announced {call : HostCall} (ha : w.Attached h n) (hd : (w.host h).Distinct)
    (hw : Relation.ReflTransGen (Announced h n call) w w') : Follows h n w w' := by
  induction hw with
  | refl => exact .refl ha hd
  | tail _ hstep ih => exact ih.trans (hstep.follows ih.attached ih.distinct)

/-! ## Calls in between -/

variable {δ : Type} {calm : Signal → World × δ → World × δ → Prop} {s t : World × δ}

/-- What can come in between: a call on the host, or something that concerns neither the host nor
the follower. -/
def Interlude (calm : Signal → World × δ → World × δ → Prop) (h n : Nat) (s t : World × δ) : Prop :=
  (∃ call : HostCall, (call.work h).Ends calm s () t) ∨ Alike h n s.1 t.1

/-- Any number of calls come in between while the list is taken and while a listed module is
scanned; these calls themselves are not disturbed. -/
def Interludes (calm : Signal → World × δ → World × δ → Prop) (h n : Nat) (i : Signal)
    (s t : World × δ) : Prop :=
  match i with
  | .listed _ | .surveyed _ => Relation.ReflTransGen (Interlude calm h n) s t
  | _ => calm i s t

/-- A follower keeps up with whatever comes in between. -/
theorem follows_of_interludes (hcalm : Quiet h n calm) (ha : s.1.Attached h n)
    (hd : (s.1.host h).Distinct) (hs : Relation.ReflTransGen (Interlude calm h n) s t) :
    Follows h n s.1 t.1 := by
  induction hs with
  | refl => exact .refl ha hd
  | tail _ hstep ih =>
    apply ih.trans
    rcases hstep with ⟨call, hcall⟩ | halike
    · have hsteps := HostCall.announced hcalm ih.distinct (.inl ih.attached) hcall
      exact follows_of_announced ih.attached ih.distinct hsteps.2
    · exact halike.follows ih.attached ih.distinct

/-! ## The replay -/

/-- A follower has not heard of a module since a list was taken. Of the list, `rest` is still to be
taken up. -/
structure Unheard (h n : Nat) (w₀ : World) (rest : List Hosted) (w : World) (x : ModuleId) :
    Prop where
  available : (w.host h).available? x = (w₀.host h).available? x
  unmarked : (w.follower n).isMarked x = false
  open' : x ∈ rest.map (·.module.id) → (w.follower n).groups.get? x = none
  done : x ∉ rest.map (·.module.id) → w.InStep h n x

/-- A follower takes up what was listed. -/
structure Replaying (h n : Nat) (w₀ : World) (rest : List Hosted) (w : World) : Prop
    extends Alongside h n w₀ w where
  modules : ∀ x, w.Caught h n x ∨ Unheard h n w₀ rest w x

variable {w₀ : World} {rest : List Hosted} {hosted : Hosted} {m : Module}

/-- Calls that come in between leave open what was open, or settle it. -/
theorem Replaying.follows (hr : Replaying h n w₀ rest w) (hw : Follows h n w w') :
    Replaying h n w₀ rest w' := by
  refine ⟨hr.toAlongside.trans hw.toAlongside, fun x => ?_⟩
  rcases hw.modules x with hx | hx
  · exact .inl hx
  · exact (hr.modules x).imp (hw.caught hx) fun hu =>
      ⟨hx.available.trans hu.available, hx.mark.trans hu.unmarked,
        fun hmem => hx.group.trans (hu.open' hmem), fun hmem => hw.inStep hx (hu.done hmem)⟩

/-- A listed module is passed over if it was unavailable or the follower has heard of it. -/
theorem Replaying.pass (hr : Replaying h n w₀ (hosted :: rest) w)
    (hpass : (w₀.host h).available? hosted.module.id = none ∨
      (w.follower n).isMarked hosted.module.id = true) : Replaying h n w₀ rest w := by
  refine ⟨hr.toAlongside, fun x => (hr.modules x).imp_right fun hu => ?_⟩
  refine ⟨hu.available, hu.unmarked, fun hmem => hu.open' (List.mem_cons_of_mem _ hmem),
    fun hmem => ?_⟩
  by_cases hx : x = hosted.module.id
  · subst hx
    have hnone := hpass.resolve_right (by simp [hu.unmarked])
    unfold InStep
    rw [hu.available, hnone]
    exact hu.open' List.mem_cons_self
  · exact hu.done (List.not_mem_cons_of_ne_of_not_mem hx hmem)

/-- A listed module is taken up if it was available and the follower has not heard of it. -/
theorem Replaying.adopt {serial : Nat} {c : Contribution}
    (hr : Replaying h n w₀ (hosted :: rest) w)
    (hnew : hosted.module.id ∉ rest.map (·.module.id))
    (hmarks : (w₀.follower n).marks.isSome = true)
    (havailable : (w₀.host h).available? hosted.module.id = some hosted.module)
    (hunmarked : (w.follower n).isMarked hosted.module.id = false)
    (hc : c = w.scanFor n hosted.module serial) :
    Replaying h n w₀ rest (w.onFollower n fun f t => f.adopt t c) := by
  have hfollower : (w.onFollower n fun f t => f.adopt t c).follower n =
      { w.follower n with groups := (w.follower n).groups.insert hosted.module.id c } := by
    rw [follower_onFollower, if_pos rfl, Follower.fst_adopt, hc]
    rfl
  have halongside : Alongside h n w (w.onFollower n fun f t => f.adopt t c) := by
    refine ⟨hr.attached.onFollower (tracks_adopt c), hr.distinct, ?_, ?_, fun _ => rfl⟩ <;>
      rw [hfollower]
  refine ⟨hr.toAlongside.trans halongside, fun x => ?_⟩
  by_cases hx : x = hosted.module.id
  · subst hx
    rcases hr.modules hosted.module.id with hcaught | hu
    · rw [hcaught.marked (hr.starting.trans hmarks)] at hunmarked
      cases hunmarked
    · refine .inr ⟨hu.available, ?_, fun hmem => absurd hmem hnew, fun _ => ?_⟩
      · rw [hfollower]
        exact hu.unmarked
      · unfold InStep
        rw [host_onFollower, hu.available, havailable]
        refine ⟨serial, ?_⟩
        rw [halongside.scanFor, hfollower, ← hc]
        exact (Dict.get?_insert _ _ _ _).trans (if_pos rfl)
  · have hother : Untouched h n w (w.onFollower n fun f t => f.adopt t c) x := by
      refine ⟨rfl, ?_, ?_⟩ <;> rw [hfollower]
      · exact (Dict.get?_insert _ _ _ _).trans (if_neg hx)
      · rfl
    apply (hr.modules x).imp (halongside.caught hother)
    intro hu
    refine ⟨hu.available, hother.mark.trans hu.unmarked, fun hmem => hother.group.trans ?_,
      fun hmem => ?_⟩
    · exact hu.open' (List.mem_cons_of_mem _ hmem)
    · exact halongside.inStep hother (hu.done (List.not_mem_cons_of_ne_of_not_mem hx hmem))

/-- One listed module is taken up or passed over. -/
theorem Replaying.step (hcalm : Quiet h n calm) (hr : Replaying h n w₀ (hosted :: rest) s.1)
    (hnew : hosted.module.id ∉ rest.map (·.module.id))
    (hmarks : (w₀.follower n).marks.isSome = true)
    (hstates : (w₀.follower n).startupStates = ModuleState.startupDefaults)
    (hhosted : (w₀.host h).hosted? hosted.module.id = some hosted)
    (hs : (replayHosted n hosted).Ends (Interludes calm h n) s () t) :
    Replaying h n w₀ rest t.1 := by
  have hstates' : (s.1.follower n).startupStates = ModuleState.startupDefaults := by
    rw [hr.frame]
    exact hstates
  obtain ⟨hresolved, rfl⟩ | ⟨hresolved, c, u, hscan, hs⟩ := ends_replayHosted hstates' hs
  · exact hr.pass (.inl (by simp [Host.available?, hhosted, hresolved]))
  · have havailable : (w₀.host h).available? hosted.module.id = some hosted.module := by
      simp [Host.available?, hhosted, hresolved]
    obtain ⟨v, v', serial, ⟨hv, -⟩, hbetween, ⟨hu, -⟩, hc⟩ := ends_scan h n hscan
    have hfollows : Follows h n s.1 u.1 := by
      have hfirst := hv.follows hr.attached hr.distinct
      have hthen := follows_of_interludes hcalm hfirst.attached hfirst.distinct hbetween
      exact (hfirst.trans hthen).trans (hu.follows hthen.attached hthen.distinct)
    have hru := hr.follows hfollows
    obtain ⟨-, hunmarked, hs⟩ | ⟨hmarked, rfl⟩ := hs
    · have hdone := hru.adopt hnew hmarks havailable hunmarked
        (hc.trans (hfollows.scanFor hosted.module serial).symm)
      have hreport := (hcalm _ _ _ (ends_takeUp_iff.1 hs)).follows hdone.attached hdone.distinct
      exact hdone.follows hreport
    · exact hru.pass (.inr (hmarked hru.attached.running))

/-- All listed modules are taken up or passed over. -/
theorem Replaying.each (hcalm : Quiet h n calm) (hr : Replaying h n w₀ rest s.1)
    (hmarks : (w₀.follower n).marks.isSome = true)
    (hstates : (w₀.follower n).startupStates = ModuleState.startupDefaults)
    (hd : (w₀.host h).Distinct) (hrest : rest.Sublist (w₀.host h).modules)
    (hs : (each (replayHosted n) rest).Ends (Interludes calm h n) s () t) :
    Replaying h n w₀ [] t.1 := by
  refine (Ends.each_induction
    (motive := fun rest u => Replaying h n w₀ rest u.1 ∧ rest.Sublist (w₀.host h).modules)
    hs ⟨hr, hrest⟩ ?_).1
  intro hosted rest u v hstep ⟨hu, hrest⟩
  have hnodup : ((hosted :: rest).map (·.module.id)).Nodup := hd.sublist (hrest.map _)
  have hhosted := hd.hosted?_of_mem (hrest.subset List.mem_cons_self)
  refine ⟨hu.step hcalm (List.nodup_cons.1 hnodup).1 hmarks hstates hhosted hstep, ?_⟩
  exact (List.sublist_cons_self hosted rest).trans hrest

/-- A follower that begins to run. -/
theorem attached_subscribeFollower (hw : w.Detached h n) :
    (w.subscribeFollower n h).Attached h n := by
  refine ⟨enrolled_subscribeFollower hw.enrolled, ⟨⟨(w.host h).bus.nextListener⟩, ?_, ?_⟩, ?_, ?_⟩
  · rw [follower_subscribeFollower, if_pos rfl]
  · rw [followings_subscribeFollower, hw.unfollowed, if_pos ⟨rfl, rfl⟩, List.nil_append]
  · rw [follower_subscribeFollower, if_pos rfl]
    rfl
  · rw [follower_subscribeFollower, if_pos rfl]
    exact hw.held

/-- Right after a follower has subscribed, all that is listed is open. -/
theorem replaying_subscribeFollower (hw : w.Detached h n) (hd : (w.host h).Distinct) :
    Replaying h n (w.subscribeFollower n h) (w.host h).modules (w.subscribeFollower n h) := by
  have hattached := attached_subscribeFollower hw
  have hmodules := modules_subscribeFollower w n h h
  have hgroup (x : ModuleId) :
      ((w.subscribeFollower n h).follower n).groups.get? x = none := by
    rw [follower_subscribeFollower, if_pos rfl]
    exact congrArg (Dict.get? · x) hw.groups
  refine ⟨.refl hattached ?_, fun x => .inr ⟨rfl, ?_, fun _ => hgroup x, fun hmem => ?_⟩⟩
  · unfold Host.Distinct
    rw [hmodules]
    exact hd
  · rw [follower_subscribeFollower, if_pos rfl]
    rfl
  · have hunlisted : ((w.subscribeFollower n h).host h).hosted? x = none := by
      unfold Host.hosted?
      rw [hmodules, List.find?_eq_none]
      intro e he hid
      exact hmem (List.mem_map.2 ⟨e, he, of_decide_eq_true hid⟩)
    unfold InStep Host.available?
    rw [hunlisted]
    exact hgroup x

/-- A follower that settles stays attached. -/
theorem attached_settle (ha : w.Attached h n) :
    (w.setFollower n (w.follower n).settle).Attached h n :=
  ha.setFollower rfl ha.running ha.held

/-- What is left when nothing is open any more is settled. -/
theorem Replaying.inStep_settle (hr : Replaying h n w₀ [] w) (x : ModuleId) :
    (w.setFollower n (w.follower n).settle).InStep h n x := by
  have hsettled : (w.setFollower n (w.follower n).settle).follower n = (w.follower n).settle := by
    rw [follower_setFollower, if_pos rfl]
  have hx : w.InStep h n x :=
    (hr.modules x).elim (·.inStep) fun hu => hu.done List.not_mem_nil
  exact hx.congr rfl (by rw [hsettled]; rfl) (by rw [hsettled]; rfl) fun _ => rfl

section Start

variable (hd : (s.1.host h).Distinct) (hdetached : s.1.Detached h n)
  (hstates : (s.1.follower n).startupStates = ModuleState.startupDefaults)
include hd hdetached hstates

/-- A start goes through the list to its end. -/
theorem replaying_of_start (hcalm : Quiet h n calm) {watch : Option Nat}
    {answer : Except Error Unit}
    (hs : (startFollower n ⟨h, watch⟩).Ends (Interludes calm h n) s answer t) :
    answer = .ok () ∧ ∃ u, Replaying h n (s.1.subscribeFollower n h) [] u ∧
      t.1 = u.setFollower n (u.follower n).settle := by
  obtain ⟨hok, u, v, hbetween, heach, rfl⟩ := ends_startFollower hdetached.unsubscribed hs
  have hbegin := replaying_subscribeFollower hdetached hd
  have hlisted : Replaying h n (s.1.subscribeFollower n h) (s.1.host h).modules u.1 := by
    rcases hbetween with rfl | ⟨watch, hbetween⟩
    · exact hbegin
    · have hfollows := follows_of_interludes (s := (s.1.subscribeFollower n h, s.2)) hcalm
        hbegin.attached hbegin.distinct hbetween
      exact hbegin.follows hfollows
  have hbegun := follower_subscribeFollower_self s.1 n h
  have hmodules := modules_subscribeFollower s.1 n h h
  refine ⟨hok, v.1, ?_, rfl⟩
  refine hlisted.each hcalm (by rw [hbegun]; rfl) (by rw [hbegun]; exact hstates) ?_
    (hmodules ▸ List.Sublist.refl _) heach
  unfold Host.Distinct
  rw [hmodules]
  exact hd

/-- A follower that is stopped starts, and is up to date with its host when it has started, whatever
calls on the host come in between. -/
theorem upToDate_of_start (hcalm : Quiet h n calm) {watch : Option Nat}
    {answer : Except Error Unit}
    (hs : (startFollower n ⟨h, watch⟩).Ends (Interludes calm h n) s answer t) :
    answer = .ok () ∧ t.1.UpToDate h n := by
  obtain ⟨hok, u, hr, ht⟩ := replaying_of_start hd hdetached hstates hcalm hs
  exact ⟨hok, ht ▸ upToDate_of_inStep hr.inStep_settle⟩

end Start

/-! A host lists one module, which is replaced by another object while the list is taken. -/

section Example

/-- The object that is listed. -/
def stale : Module := ⟨0, ⟨1⟩, "module-1"⟩

/-- The object that takes its place. -/
def replacement : Module := ⟨1, ⟨1⟩, "module-1"⟩

/-- A world in which the host lists the module. -/
def staleWorld : World where
  hosts := ⟨[{ modules := [⟨stale, .resolved⟩] }]⟩

/-- Nothing comes in between. -/
def undisturbed (_ : Signal) (s t : World × Unit) : Prop := t = s

/-- Replaces the module at the moment that the list is taken. -/
def replaceWhenSurveyed : Signal → World × Unit → World × Unit
  | .surveyed _, s =>
    ((((HostCall.update replacement).work 0 s.1).beside s.2).finish fun _ u => u).2
  | _, s => s

/-- What the follower has stored in the end is a scan of the object that took the place of the
listed one. -/
theorem upToDate_of_start_stale : ∃ t : World × Unit,
    (startFollower 0 ⟨0, some 0⟩).Ends (Interludes undisturbed 0 0) (staleWorld, ()) (.ok ()) t ∧
    (t.1.host 0).hosted? ⟨1⟩ = some ⟨replacement, .resolved⟩ ∧
    ∃ serial, (t.1.follower 0).groups.get? ⟨1⟩ = some (t.1.scanFor 0 replacement serial) := by
  have hcalm : Quiet 0 0 undisturbed := by
    rintro _ _ s rfl
    exact .refl s.1
  have hact (i : Signal) (s : World × Unit) :
      Interludes undisturbed 0 0 i s (replaceWhenSurveyed i s) := by
    cases i with
    | surveyed watch =>
      have hnone (j : Signal) (u : World × Unit) : undisturbed j u ((fun _ v => v) j u) := rfl
      exact .single (.inl ⟨.update replacement, Run.ends_finish hnone _ _⟩)
    | listed m => exact .refl
    | heard r e => rfl
    | reported notice => rfl
  have hs := Run.ends_finish hact (startFollower 0 ⟨0, some 0⟩ staleWorld) ()
  have hd : (staleWorld.host 0).Distinct := List.nodup_singleton _
  have hdetached : staleWorld.Detached 0 0 :=
    ⟨⟨⟨nofun, nofun, nofun⟩, rfl⟩, rfl, rfl, by decide, rfl⟩
  obtain ⟨hok, huptodate⟩ := upToDate_of_start (s := (staleWorld, ())) hd hdetached rfl hcalm hs
  rw [hok] at hs
  have hhosted : ((((startFollower 0 ⟨0, some 0⟩ staleWorld).beside ()).finish
      replaceWhenSurveyed).2.1.host 0).hosted? ⟨1⟩ = some ⟨replacement, .resolved⟩ := by
    decide +kernel
  exact ⟨_, hs, hhosted, huptodate.scanned _ _ hhosted rfl⟩

end Example

end ServiceRegistry
