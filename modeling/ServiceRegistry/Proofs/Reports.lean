import ServiceRegistry.Proofs.Startup

/-!
# Calls inside calls

Listeners, modules that are asked for a listing and those who watch a host's list can call the host
and stop or start the follower before the operation that asked them goes on, and the calls that they
make can be interrupted in the same way, to any depth. Then a follower that runs is not always up to
date: a module may depart, or its object be replaced, between the scan of the module and its
registration, and listeners hear of a later event before an earlier one.

What can be relied on is told by a `Chronicle` of what host and follower have done. For each module
it has the last report: the object that the follower has taken up and not let go of, and the object
that the host had available at that moment. Besides, it has the modules about which one operation
was made inside another. After the outermost call, a running follower is up to date if and only if
the two objects of each report look the same in a scan; and whatever the reports say, it is in step
about all modules on which no two operations have crossed (`upToDate_iff_of_acts`). This holds
however many others follow the host.

The reason is the same as for one start (`Follows`): what has not been reported has not changed, for
the host and the follower alike (`Progress`). That a follower has stored a scan of what it was
reported to have taken up is a fact about its state that every act keeps (`Chronicled`).
-/

namespace ServiceRegistry

open World Interruptible

/-- A contribution with its providers numbered anew, from `start` on. -/
def Contribution.numberedFrom (c : Contribution) (start : Nat) : Contribution :=
  { c with providers := c.providers.zipIdx.map fun (p, k) => { p with serial := start + k } }

/-- Contributions of one content differ in the numbers of their providers only. -/
theorem ScanRule.numberedFrom_contribution (rule : ScanRule) (m : Module) (a b : Nat)
    (listing : Except Fault (List Location)) :
    (rule.contribution m a listing).numberedFrom b = rule.contribution m b listing := by
  unfold Contribution.numberedFrom contribution
  cases listing with
  | error e => rfl
  | ok listing =>
    congr 1
    apply List.ext_getElem?
    intro k
    simp only [List.getElem?_map, List.getElem?_zipIdx, Option.map_map]
    rfl

/-- What the last report on a module says. -/
structure Finding where
  /-- The object that the follower has taken up and not let go of. -/
  taken : Option Module := none
  /-- The object that the host had available then. -/
  held : Option Module := none
deriving DecidableEq

/-- What the last report says after a further notice, of a module of which the host has an object
available. A replacement is of consequence only if the module is available. -/
def Finding.after (f : Finding) (available : Option Module) : Notice → Finding
  | .tookUp _ m => ⟨some m, available⟩
  | .letGo _ _ => ⟨none, available⟩
  | .replaced _ _ => if available.isSome then ⟨f.taken, available⟩ else f

/-- What has been done on a host and with a follower. -/
structure Chronicle where
  /-- The last report on each module. -/
  report : ModuleId → Finding := fun _ => {}
  /-- Whether a call about the module is in progress, or a start of the follower. -/
  busy : ModuleId → Bool := fun _ => false
  /-- Whether a call about the module, or a start, has been made inside another of these. -/
  crossed : ModuleId → Bool := fun _ => false

namespace Chronicle

/-- An operation about some modules begins. -/
def begun (c : Chronicle) (about : ModuleId → Bool) : Chronicle :=
  { c with
    busy := fun x => about x || c.busy x
    crossed := fun x => c.crossed x || about x && c.busy x }

/-- The operation that has begun after `before` ends. -/
def ended (c before : Chronicle) : Chronicle := { c with busy := before.busy }

/-- A follower is asked to start. If it is not running, it has taken up nothing, and the start is
about all modules. -/
def atStart (c : Chronicle) (running : Bool) : Chronicle :=
  if running then c else { c.begun fun _ => true with report := fun _ => {} }

end Chronicle

/-- The module on which a notice of a host or its follower reports. -/
def Notice.subject? (h n : Nat) : Notice → Option ModuleId
  | .tookUp k m => if k = n then some m.id else none
  | .letGo k id => if k = n then some id else none
  | .replaced k m => if k = h then some m.id else none

/-- Enters a notice into the chronicle of a host and its follower. -/
def noted (h n : Nat) (notice : Notice) (s : World × Chronicle) : World × Chronicle :=
  (s.1, { s.2 with
    report := fun x =>
      if notice.subject? h n = some x then
        (s.2.report x).after ((s.1.host h).available? x) notice
      else s.2.report x })

/-- What can be done: a call on the host, a start or a stop of the follower, or something that
concerns neither. -/
inductive Act (h n : Nat)
    (outside : Signal → World × Chronicle → World × Chronicle → Prop) (s t : World × Chronicle) :
    Prop where
  | call (call : HostCall) {u : World × Chronicle}
      (hs : (call.work h).Ends outside (s.1, s.2.begun (· = call.subject)) () u)
      (ht : t = (u.1, u.2.ended s.2))
  | start {watch : Option Nat} {answer : Except Error Unit} {u : World × Chronicle}
      (hs : (startFollower n ⟨h, watch⟩).Ends outside
        (s.1, s.2.atStart (s.1.follower n).running) answer u)
      (ht : t = (u.1, u.2.ended s.2))
  | stop (ht : t = (s.1.stopFollower n, s.2))
  | elsewhere (hw : Akin h n s.1 t.1) (ht : t.2 = s.2)

/-- What happens at a signal: a report is noted, and at any other, acts follow one another. -/
def AtSignal (h n : Nat) (acts : World × Chronicle → World × Chronicle → Prop) :
    Signal → World × Chronicle → World × Chronicle → Prop
  | .reported notice, s, t => t = noted h n notice s
  | _, s, t => Relation.ReflTransGen acts s t

/-- What happens at a signal if acts interrupt each other to a depth. -/
def Nested (h n : Nat) : Nat → Signal → World × Chronicle → World × Chronicle → Prop
  | 0 => AtSignal h n fun _ _ => False
  | d + 1 => AtSignal h n (Act h n (Nested h n d))

namespace World

/-- A host lists no number twice, and its follower either runs on it or is stopped. -/
structure Wired (h n : Nat) (w : World) : Prop where
  distinct : (w.host h).Distinct
  states : (w.follower n).startupStates = ModuleState.startupDefaults
  linked : w.Attached h n ∨ w.Detached h n

variable {h n : Nat} {w w' w'' : World} {x : ModuleId}

/-- The follower of a wired host is there. -/
theorem Wired.held (hw : w.Wired h n) : (w.follower n).holders ≠ 0 :=
  hw.linked.elim (·.held) (·.held)

/-- On a wired host subscriptions and listeners belong together. -/
theorem Wired.enrolled (hw : w.Wired h n) : w.Enrolled h :=
  hw.linked.elim (·.enrolled) (·.enrolled)

/-- A running follower of a wired host is attached to it. -/
theorem Wired.attached (hw : w.Wired h n) (hrun : (w.follower n).running = true) :
    w.Attached h n := by
  apply hw.linked.resolve_right
  intro hd
  rw [hd.stopped] at hrun
  cases hrun

/-- A follower of a wired host that does not run is detached from it. -/
theorem Wired.detached (hw : w.Wired h n) (hrun : (w.follower n).running = false) :
    w.Detached h n := by
  apply hw.linked.resolve_left
  intro ha
  rw [ha.running] at hrun
  cases hrun

/-- What concerns neither a host nor its follower leaves them wired. -/
theorem Akin.wired (a : Akin h n w w') (hw : w.Wired h n) : w'.Wired h n where
  distinct := by
    unfold Host.Distinct
    rw [a.modules]
    exact hw.distinct
  states := a.follower ▸ hw.states
  linked := hw.linked.imp a.attached a.detached

/-- A host that changes its list remains connected to its follower. -/
theorem Wired.setHost {host : Host} (hw : w.Wired h n) (hbus : host.bus = (w.host h).bus)
    (hd : host.Distinct) : (w.setHost h host).Wired h n := by
  refine ⟨?_, hw.states, hw.linked.imp (attached_setHost hbus) fun hd => ?_⟩
  · rw [host_setHost, if_pos rfl]
    exact hd
  · exact ⟨unserved_setHost hbus hd.toUnserved, hd.unsubscribed, hd.stopped, hd.held, hd.groups⟩

/-- Recording an event leaves a host and its follower wired. -/
theorem Wired.record (hw : w.Wired h n) (e : Event) : (World.record h e w).2.Wired h n := by
  refine ⟨?_, hw.states, hw.linked.imp (attached_record · e) fun hd => ?_⟩
  · unfold Host.Distinct
    rw [host_record, if_pos rfl]
    exact hw.distinct
  · exact ⟨unserved_record hd.toUnserved e, hd.unsubscribed, hd.stopped, hd.held, hd.groups⟩

/-- A follower that changes what it tracks remains connected to its host; one that is stopped tracks
nothing. -/
theorem Wired.onFollower {f : Follower → Table → Follower × Table} (hw : w.Wired h n)
    (hf : Tracks f) (hstopped : (w.follower n).running = false →
      (f (w.follower n) (w.tableOf (w.follower n))).1.groups = .empty) :
    (w.onFollower n f).Wired h n := by
  have hfollower : (w.onFollower n f).follower n =
      (f (w.follower n) (w.tableOf (w.follower n))).1 := by
    rw [follower_onFollower, if_pos rfl]
    rfl
  refine ⟨hw.distinct, ?_, hw.linked.imp (·.onFollower hf) fun hd =>
    ⟨⟨(enrolled_onFollower hf.subscription).2 hd.enrolled, hd.unfollowed⟩, ?_, ?_, ?_, ?_⟩⟩ <;>
    rw [hfollower]
  · rw [hf.frame]
    exact hw.states
  · rw [hf.frame]
    exact hd.unsubscribed
  · rw [hf.frame]
    exact hd.stopped
  · rw [hf.frame]
    exact hd.held
  · exact hstopped hd.stopped

/-- What leaves a module alone in two steps leaves it alone in both together. -/
theorem Untouched.trans (a : Untouched h n w w' x) (b : Untouched h n w' w'' x) :
    Untouched h n w w'' x :=
  ⟨b.available.trans a.available, b.group.trans a.group, b.mark.trans a.mark⟩

/-- What a follower has stored of a module: a scan of an object, or nothing. -/
def HasStored (n : Nat) (w : World) (x : ModuleId) : Option Module → Prop
  | none => (w.follower n).groups.get? x = none
  | some m => ∃ serial, (w.follower n).groups.get? x = some (w.scanFor n m serial)

/-- Two objects look the same in a scan of a follower, or neither is there. -/
def ScanAlike (n : Nat) (w : World) (o o' : Option Module) : Prop :=
  o.map (w.scanFor n · 0) = o'.map (w.scanFor n · 0)

/-- A follower is in step about a module if it has stored what the host has available. -/
theorem inStep_iff_hasStored : w.InStep h n x ↔ w.HasStored n x ((w.host h).available? x) := by
  unfold InStep HasStored
  cases (w.host h).available? x <;> rfl

variable {o o' : Option Module}

/-- Scans of one content differ in the numbers of their providers only. -/
theorem numberedFrom_scanFor (m : Module) (a b : Nat) :
    (w.scanFor n m a).numberedFrom b = w.scanFor n m b :=
  ScanRule.numberedFrom_contribution _ _ _ _ _

/-- What a follower has stored shows in its groups and in what a scan shows. -/
theorem HasStored.congr (hs : w.HasStored n x o)
    (hgroup : (w'.follower n).groups.get? x = (w.follower n).groups.get? x)
    (hrule : (w'.follower n).rule = (w.follower n).rule)
    (hview : ∀ m, w'.stock.view m = w.stock.view m) : w'.HasStored n x o := by
  cases o with
  | none => exact hgroup.trans hs
  | some m =>
    obtain ⟨serial, hs⟩ := hs
    refine ⟨serial, (hgroup.trans hs).trans ?_⟩
    rw [scanFor, scanFor, hrule, hview]

/-- A follower that has stored one object has stored another if and only if they look the same: two
scans of the same content differ in the numbers of their providers only. -/
theorem HasStored.iff_scanAlike (hs : w.HasStored n x o) :
    w.HasStored n x o' ↔ w.ScanAlike n o o' := by
  unfold ScanAlike
  cases o with
  | none =>
    cases o' with
    | none => exact iff_of_true hs rfl
    | some m' =>
      refine iff_of_false (fun ⟨serial, hs'⟩ => ?_) nofun
      cases hs.symm.trans hs'
  | some m =>
    obtain ⟨serial, hs⟩ := hs
    cases o' with
    | none =>
      refine iff_of_false (fun hs' => ?_) nofun
      cases hs.symm.trans hs'
    | some m' =>
      rw [Option.map_some, Option.map_some, Option.some_inj]
      constructor
      · rintro ⟨serial', hs'⟩
        rw [← numberedFrom_scanFor m serial, Option.some.inj (hs.symm.trans hs'),
          numberedFrom_scanFor]
      · intro hscan
        refine ⟨serial, hs.trans ?_⟩
        rw [← numberedFrom_scanFor m 0, hscan, numberedFrom_scanFor]

end World

variable {h n : Nat} {s t u : World × Chronicle} {w : World} {x : ModuleId}
  {own : Option ModuleId} {pending : ModuleId → Prop}

/-- A report on what another follower does is not entered. -/
theorem noted_of_subject?_eq_none {notice : Notice} (hnone : notice.subject? h n = none) :
    noted h n notice s = s := by
  unfold noted
  simp [hnone]

/-- The report on a module that is not available remains what it was when its object is replaced. -/
theorem noted_replaced_of_unavailable {c : Chronicle} {m : Module}
    (hnone : (w.host h).available? m.id = none) :
    noted h n (.replaced h m) (w, c) = (w, c) := by
  unfold noted
  dsimp only
  congr 2
  funext x
  split
  · rename_i hx
    have hself : (Notice.replaced h m).subject? h n = some m.id := if_pos rfl
    rw [← Option.some.inj (hself.symm.trans hx), hnone]
    rfl
  · rfl

/-- A running follower has stored scans of what it was reported to have taken up. -/
structure Chronicled (h n : Nat) (s : World × Chronicle) : Prop where
  wired : s.1.Wired h n
  stored : (s.1.follower n).running = true → ∀ x, s.1.HasStored n x (s.2.report x).taken

/-- The host has of a module what it had at the last report. The follower had taken up just that,
unless operations on the module have crossed. -/
structure BorneOut (h n : Nat) (s : World × Chronicle) (x : ModuleId) : Prop where
  held : (s.1.host h).available? x = (s.2.report x).held
  taken : s.2.crossed x = false → (s.2.report x).taken = (s.2.report x).held

/-- Nothing has changed for a module, and nothing has been reported about it. -/
structure Kept (h n : Nat) (s t : World × Chronicle) (x : ModuleId) : Prop
    extends Untouched h n s.1 t.1 x where
  report : t.2.report x = s.2.report x

/-- If a follower runs in the end, then the last report on a module is borne out, or it has been
running and has yet to hear of the module, or nothing has changed for it. If a call about a module
is in progress, its own one excepted, then the module is left alone, or operations have crossed. -/
structure Progress (h n : Nat) (own : Option ModuleId) (pending : ModuleId → Prop)
    (s t : World × Chronicle) : Prop extends Chronicled h n t where
  rule : (t.1.follower n).rule = (s.1.follower n).rule
  holders : (t.1.follower n).holders = (s.1.follower n).holders
  view : ∀ m, t.1.stock.view m = s.1.stock.view m
  busy : t.2.busy = s.2.busy
  crossed : ∀ x, t.2.crossed x = false → s.2.crossed x = false
  quiet : ∀ x, s.2.busy x = true → own ≠ some x → t.2.crossed x = false →
    (t.1.host h).available? x = (s.1.host h).available? x
  modules : (t.1.follower n).running = true → ∀ x, BorneOut h n t x ∨
    (s.1.follower n).running = true ∧ (Kept h n s t x ∨ pending x)

/-- The follower has heard of all that has changed. -/
abbrev Handled (h n : Nat) (own : Option ModuleId) : World × Chronicle → World × Chronicle → Prop :=
  Progress h n own fun _ => False

/-- A report remains borne out while nothing changes. -/
theorem BorneOut.of_kept (hs : BorneOut h n s x) (hx : Kept h n s t x)
    (hcrossed : t.2.crossed x = false → s.2.crossed x = false) : BorneOut h n t x where
  held := by rw [hx.available, hx.report, hs.held]
  taken hx' := by rw [hx.report, hs.taken (hcrossed hx')]

/-- Nothing has changed if nothing has changed before and after. -/
theorem Kept.trans (a : Kept h n s t x) (b : Kept h n t u x) : Kept h n s u x :=
  ⟨a.toUntouched.trans b.toUntouched, b.report.trans a.report⟩

namespace Progress

/-- Nothing happens. -/
theorem refl (hs : Chronicled h n s) : Progress h n own pending s s :=
  { hs with
    rule := rfl
    holders := rfl
    view := fun _ => rfl
    busy := rfl
    crossed := fun _ => id
    quiet := fun _ _ _ _ => rfl
    modules := fun hrun _ => .inr ⟨hrun, .inl ⟨⟨rfl, rfl, rfl⟩, rfl⟩⟩ }

/-- Something happens, and then something of which the follower hears. -/
theorem trans (a : Progress h n own pending s t) (b : Handled h n own t u) :
    Progress h n own pending s u where
  toChronicled := b.toChronicled
  rule := b.rule.trans a.rule
  holders := b.holders.trans a.holders
  view m := (b.view m).trans (a.view m)
  busy := b.busy.trans a.busy
  crossed x hx := a.crossed x (b.crossed x hx)
  quiet x hbusy hown hx := by
    rw [b.quiet x (a.busy ▸ hbusy) hown hx, a.quiet x hbusy hown (b.crossed x hx)]
  modules hrun x := by
    obtain hu | ⟨ht, hkept | hfalse⟩ := b.modules hrun x
    · exact .inl hu
    · obtain hx | ⟨hs, hx⟩ := a.modules ht x
      · exact .inl (hx.of_kept hkept (b.crossed x))
      · exact .inr ⟨hs, hx.imp_left (·.trans hkept)⟩
    · exact hfalse.elim

/-- What was reported goes on being borne out. -/
theorem borneOut (a : Handled h n own s t) (hrun : (t.1.follower n).running = true)
    (hs : (s.1.follower n).running = true → BorneOut h n s x) : BorneOut h n t x := by
  obtain hx | ⟨hrun, hkept | hfalse⟩ := a.modules hrun x
  · exact hx
  · exact (hs hrun).of_kept hkept (a.crossed x)
  · exact hfalse.elim

/-- Nothing is pending once it has been heard of. -/
theorem settle (a : Progress h n own pending s t) (b : Handled h n own t u)
    (hx : (u.1.follower n).running = true → ∀ x, pending x → BorneOut h n u x) :
    Handled h n own s u := by
  refine { a.trans b with modules := fun hrun x => ?_ }
  obtain hu | ⟨hs, hkept | hpending⟩ := (a.trans b).modules hrun x
  · exact .inl hu
  · exact .inr ⟨hs, .inl hkept⟩
  · exact .inl (hx hrun x hpending)

/-- What leaves alone all modules about which a call is in progress, leaves alone all but one. -/
theorem widen (a : Handled h n none s t) : Handled h n own s t :=
  { a with quiet := fun x hbusy _ hx => a.quiet x hbusy nofun hx }

/-- If nothing is pending, then at most something is. -/
theorem pend (a : Handled h n own s t) : Progress h n own pending s t :=
  { a with
    modules := fun hrun x => by
      obtain hx | ⟨hs, hkept | hfalse⟩ := a.modules hrun x
      · exact .inl hx
      · exact .inr ⟨hs, .inl hkept⟩
      · exact hfalse.elim }

/-- A call in progress changes its own module, and the follower has yet to hear of it. -/
theorem of_pending (hs : Chronicled h n s) (hw : t.1.Wired h n)
    (hfollower : t.1.follower n = s.1.follower n)
    (hview : ∀ m, t.1.stock.view m = s.1.stock.view m) (hchronicle : t.2 = s.2)
    (hown : ∀ x, pending x → own = some x)
    (havailable : ∀ x, ¬pending x → (t.1.host h).available? x = (s.1.host h).available? x) :
    Progress h n own pending s t where
  wired := hw
  stored hrun x := by
    rw [hfollower] at hrun
    rw [hchronicle]
    exact (hs.stored hrun x).congr (by rw [hfollower]) (by rw [hfollower]) hview
  rule := by rw [hfollower]
  holders := by rw [hfollower]
  view := hview
  busy := by rw [hchronicle]
  crossed x hx := hchronicle ▸ hx
  quiet x _ hx _ := havailable x fun hpending => hx (hown x hpending)
  modules hrun x := by
    refine .inr ⟨hfollower ▸ hrun, ?_⟩
    by_cases hx : pending x
    · exact .inr hx
    · refine .inl ⟨⟨havailable x hx, by rw [hfollower], by rw [hfollower]⟩, by rw [hchronicle]⟩

/-- Something happens that concerns neither the host nor the follower. -/
theorem of_akin (hs : Chronicled h n s) (a : Akin h n s.1 t.1) (ht : t.2 = s.2) :
    Handled h n own s t :=
  of_pending hs (a.wired hs.wired) a.follower a.view ht (fun _ => False.elim)
    fun x _ => a.available? x

/-- Something happens to one module and is reported. -/
theorem of_noted {notice : Notice} {o : Option Module} (hs : Chronicled h n s)
    (hsubject : notice.subject? h n = some x) (hw : w.Wired h n)
    (hrule : (w.follower n).rule = (s.1.follower n).rule)
    (hholders : (w.follower n).holders = (s.1.follower n).holders)
    (hrun : (w.follower n).running = (s.1.follower n).running)
    (hview : ∀ m, w.stock.view m = s.1.stock.view m)
    (hothers : ∀ y, y ≠ x → Untouched h n s.1 w y)
    (hquiet : own = some x ∨ (w.host h).available? x = (s.1.host h).available? x)
    (hreport : (s.2.report x).after ((w.host h).available? x) notice =
      ⟨o, (w.host h).available? x⟩)
    (hstored : (w.follower n).running = true → w.HasStored n x o)
    (hstands : s.2.crossed x = false → o = (w.host h).available? x) :
    Handled h n own s (noted h n notice (w, s.2)) ∧
      BorneOut h n (noted h n notice (w, s.2)) x := by
  have hself : (noted h n notice (w, s.2)).2.report x = ⟨o, (w.host h).available? x⟩ := by
    unfold noted
    dsimp only
    rw [if_pos hsubject, hreport]
  have hother (y : ModuleId) (hy : y ≠ x) :
      (noted h n notice (w, s.2)).2.report y = s.2.report y := by
    unfold noted
    dsimp only
    rw [if_neg fun hc => hy (Option.some.inj (hc.symm.trans hsubject))]
  have hborne : BorneOut h n (noted h n notice (w, s.2)) x :=
    ⟨by rw [hself]; rfl, fun hx => by rw [hself]; exact hstands hx⟩
  refine ⟨⟨⟨hw, fun hrunning y => ?_⟩, hrule, hholders, hview, rfl, fun _ => id,
    fun y _ hown _ => ?_, fun hrunning y => ?_⟩, hborne⟩ <;> by_cases hy : y = x
  · rw [hy, hself]
    exact hstored hrunning
  · rw [hother y hy]
    exact (hs.stored (hrun ▸ hrunning) y).congr (hothers y hy).group hrule hview
  · subst hy
    exact hquiet.resolve_left hown
  · exact (hothers y hy).available
  · exact .inl (hy ▸ hborne)
  · exact .inr ⟨hrun ▸ hrunning, .inl ⟨hothers y hy, hother y hy⟩⟩

end Progress

/-! ## What acts at signals keep -/

/-- At a signal, a report is noted, and whatever else happens is handled. -/
structure Orderly (h n : Nat)
    (outside : Signal → World × Chronicle → World × Chronicle → Prop) : Prop where
  reported : ∀ notice s t, outside (.reported notice) s t → t = noted h n notice s
  handled : ∀ i s t, (∀ notice, i ≠ .reported notice) → Chronicled h n s → outside i s t →
    Handled h n none s t

/-- Modules about which a follower does something when it hears of an event. -/
def Concerns (e : Event) (x : ModuleId) : Prop :=
  x = e.module.id ∧ (e.kind.isArrival = true ∨ e.kind.isDeparture = true)

/-- Unless operations have crossed, the host has of a module what an event has announced. -/
structure Stands (h : Nat) (e : Event) (s : World × Chronicle) : Prop where
  arrival : e.kind.isArrival = true → s.2.crossed e.module.id = false →
    (s.1.host h).available? e.module.id = some e.module
  departure : e.kind.isDeparture = true → s.2.crossed e.module.id = false →
    (s.1.host h).available? e.module.id = none

/-- While a call about a module is in progress, what was announced stands. -/
theorem Stands.handled {e : Event} (hs : Stands h e s) (hbusy : s.2.busy e.module.id = true)
    (ht : Handled h n none s t) : Stands h e t where
  arrival he hx := (ht.quiet _ hbusy nofun hx).trans (hs.arrival he (ht.crossed _ hx))
  departure he hx := (ht.quiet _ hbusy nofun hx).trans (hs.departure he (ht.crossed _ hx))

/-- The replacement of an object is reported. Unless operations on the module have crossed, it is
not available. -/
theorem handled_replaced {m : Module} {host : Host} (hs : Chronicled h n s)
    (hmay : s.2.crossed m.id = false → (s.1.host h).available? m.id = none)
    (hc : (s.1.host h).replace m = .ok host) :
    Handled h n (some m.id) s (noted h n (.replaced h m) (s.1.setHost h host, s.2)) := by
  have hwired : (s.1.setHost h host).Wired h n :=
    hs.wired.setHost (Host.bus_replace hc) (hs.wired.distinct.replace hc)
  have havailable (x : ModuleId) : ((s.1.setHost h host).host h).available? x =
      if x = m.id then ((s.1.host h).available? m.id).map fun _ => m
      else (s.1.host h).available? x := by
    rw [host_setHost, if_pos rfl, Host.available?_replace hc]
  cases hbefore : (s.1.host h).available? m.id with
  | none =>
    have hnow (x : ModuleId) :
        ((s.1.setHost h host).host h).available? x = (s.1.host h).available? x := by
      rw [havailable]
      split
      · rename_i hx
        rw [hx, hbefore]
        rfl
      · rfl
    rw [noted_replaced_of_unavailable ((hnow m.id).trans hbefore)]
    exact .of_pending hs hwired rfl (fun _ => rfl) rfl (fun _ => False.elim) fun x _ => hnow x
  | some before =>
    have hnow : ((s.1.setHost h host).host h).available? m.id = some m := by
      rw [havailable, if_pos rfl, hbefore]
      rfl
    have hreport : (s.2.report m.id).after (((s.1.setHost h host).host h).available? m.id)
        (.replaced h m) =
        ⟨(s.2.report m.id).taken, ((s.1.setHost h host).host h).available? m.id⟩ := by
      rw [hnow]
      rfl
    have hsubject : (Notice.replaced h m).subject? h n = some m.id := if_pos rfl
    refine (Progress.of_noted hs hsubject hwired rfl rfl rfl (fun _ => rfl)
      (fun y hy => ⟨?_, rfl, rfl⟩) (.inl rfl) hreport (fun hrun => hs.stored hrun m.id)
      fun hx => ?_).1
    · rw [havailable, if_neg hy]
    · cases hbefore.symm.trans (hmay hx)

/-- An event is being delivered, and some listeners have yet to hear of it. If the follower is one
of them then what the event announces is pending, and otherwise it has been handled. -/
structure Delivering (h n : Nat) (own : Option ModuleId) (e : Event) (s : World × Chronicle)
    (rest : List Listener) (t : World × Chronicle) : Prop where
  heard : rest.filter (· = .follower n) = [.follower n] ∧ Progress h n own (Concerns e) s t ∨
    rest.filter (· = .follower n) = [] ∧ Handled h n own s t
  busy : t.2.busy e.module.id = true
  stands : Stands h e t

/-- Throughout a delivery, what the follower has stored is as reported. -/
theorem Delivering.chronicled {e : Event} {rest : List Listener}
    (hs : Delivering h n own e s rest t) : Chronicled h n t :=
  hs.heard.elim (·.2.toChronicled) (·.2.toChronicled)

/-- An event that has been recorded is to be delivered to the audience of the bus. -/
theorem delivering_record {e : Event} (hs : Progress h n own (Concerns e) s u)
    (hbusy : u.2.busy e.module.id = true) (hstands : Stands h e u) :
    Delivering h n own e s (record h e u.1).1 ((record h e u.1).2, u.2) := by
  have havailable (x : ModuleId) :
      ((record h e u.1).2.host h).available? x = (u.1.host h).available? x := by
    unfold Host.available? Host.hosted?
    rw [host_record, if_pos rfl]
  have hrecorded : Progress h n own (Concerns e) s ((record h e u.1).2, u.2) :=
    hs.trans (.of_pending hs.toChronicled (hs.wired.record e) rfl (fun _ => rfl) rfl
      (fun _ => False.elim) fun x _ => havailable x)
  refine ⟨?_, hbusy, fun he hx => (havailable _).trans (hstands.arrival he hx),
    fun he hx => (havailable _).trans (hstands.departure he hx)⟩
  have haudience := (u.1.host h).bus.filter_audience n
  -- A follower that does not run is not among those who hear of the event.
  cases hrun : (u.1.follower n).running with
  | true =>
    obtain ⟨id, -, hfollowings⟩ := (hs.wired.attached hrun).subscription
    rw [hfollowings] at haudience
    exact .inl ⟨haudience, hrecorded⟩
  | false =>
    rw [(hs.wired.detached hrun).unfollowed] at haudience
    refine .inr ⟨haudience, { hrecorded with modules := fun hrun' => ?_ }⟩
    rw [follower_record, hrun] at hrun'
    cases hrun'

section Orderly

variable {outside : Signal → World × Chronicle → World × Chronicle → Prop} {m : Module} {e : Event}

variable (ho : Orderly h n outside)
include ho

/-- A scan takes place while acts follow one another. -/
theorem handled_scan {c : Contribution} (hs : Chronicled h n s)
    (hscan : (scan (s.1.follower n).rule m).Ends outside s c t) :
    Handled h n none s t ∧ ∃ serial, c = t.1.scanFor n m serial := by
  obtain ⟨u, v, serial, ⟨hu, hu'⟩, hout, ⟨ht, ht'⟩, hc⟩ := ends_scan h n hscan
  have hbefore : Handled h n none s u := .of_akin hs hu.toAkin hu'
  have hacts := ho.handled _ _ _ (fun _ hi => by cases hi) hbefore.toChronicled hout
  have hall := (hbefore.trans hacts).trans (.of_akin hacts.toChronicled ht.toAkin ht')
  refine ⟨hall, serial, hc.trans ?_⟩
  rw [World.scanFor, hall.rule, hall.view]

/-- A change of what a follower tracks is reported. -/
theorem handled_reported {f : Follower → Table → Follower × Table} {notice : Notice}
    {o : Option Module} (hs : Chronicled h n s) (hf : Tracks f)
    (hsubject : notice.subject? h n = some x)
    (hreport : ∀ finding available, Finding.after finding available notice = ⟨o, available⟩)
    (hout : outside (.reported notice) (s.1.onFollower n f, s.2) t)
    (hstopped : (s.1.follower n).running = false →
      (f (s.1.follower n) (s.1.tableOf (s.1.follower n))).1.groups = .empty)
    (hothers : ∀ g t y, y ≠ x → (f g t).1.groups.get? y = g.groups.get? y ∧
      (f g t).1.isMarked y = g.isMarked y)
    (hstored : (s.1.onFollower n f).HasStored n x o)
    (hstands : s.2.crossed x = false → o = (s.1.host h).available? x) :
    Handled h n none s t ∧ BorneOut h n t x := by
  rw [ho.reported _ _ _ hout]
  have hfollower : (s.1.onFollower n f).follower n =
      (f (s.1.follower n) (s.1.tableOf (s.1.follower n))).1 := by
    rw [follower_onFollower, if_pos rfl]
    rfl
  refine Progress.of_noted hs hsubject (hs.wired.onFollower hf hstopped) ?_ ?_ ?_ (fun _ => rfl)
    (fun y hy => ?_) (.inr rfl) (hreport _ _) (fun _ => hstored) hstands
  · rw [hfollower, hf.frame]
  · rw [hfollower, hf.frame]
  · rw [hfollower, hf.frame]
  · obtain ⟨hgroup, hmark⟩ := hothers (s.1.follower n) (s.1.tableOf (s.1.follower n)) y hy
    exact ⟨rfl, by rw [hfollower, hgroup], by rw [hfollower, hmark]⟩

/-- What a running follower takes up is stored and reported. -/
theorem handled_takeUp {f : Follower → Table → Follower × Table} {c : Contribution} {serial : Nat}
    (hs : Chronicled h n s) (hrun : (s.1.follower n).running = true)
    (hc : c = s.1.scanFor n m serial) (hf : Tracks f)
    (hgroups : ∀ g t, (f g t).1.groups = g.groups.insert c.module c)
    (hmarks : ∀ g t y, y ≠ m.id → (f g t).1.isMarked y = g.isMarked y)
    (htake : (takeUp n m f).Ends outside s () t)
    (hstands : s.2.crossed m.id = false → (s.1.host h).available? m.id = some m) :
    Handled h n none s t ∧ BorneOut h n t m.id := by
  have hmodule : c.module = m.id := by
    rw [hc]
    rfl
  have hfollower : (s.1.onFollower n f).follower n =
      (f (s.1.follower n) (s.1.tableOf (s.1.follower n))).1 := by
    rw [follower_onFollower, if_pos rfl]
    rfl
  have hstored : (s.1.onFollower n f).HasStored n m.id (some m) := by
    refine ⟨serial, ?_⟩
    rw [World.scanFor, hfollower, hf.frame, hgroups, hmodule, hc]
    exact (Dict.get?_insert _ _ _ _).trans (if_pos rfl)
  have hsubject : (Notice.tookUp n m).subject? h n = some m.id := if_pos rfl
  refine handled_reported ho hs hf hsubject (fun _ _ => rfl) (ends_takeUp_iff.1 htake)
    (fun hstopped => ?_) (fun g t y hy => ⟨?_, hmarks g t y hy⟩) hstored
    fun hx => (hstands hx).symm
  · rw [hrun] at hstopped
    cases hstopped
  · rw [hgroups, hmodule]
    exact (Dict.get?_insert _ _ _ _).trans (if_neg hy)

/-- A module that has arrived is taken up, unless the follower has stopped meanwhile. -/
theorem handled_hearArrival (hs : Chronicled h n s) (hbusy : s.2.busy m.id = true)
    (hstands : s.2.crossed m.id = false → (s.1.host h).available? m.id = some m)
    (hhear : (hearArrival n m).Ends outside s () t) :
    Handled h n none s t ∧ ((t.1.follower n).running = true → BorneOut h n t m.id) := by
  obtain ⟨c, u, hscan, hhear⟩ := ends_hearArrival hhear
  obtain ⟨hu, serial, hc⟩ := handled_scan ho hs hscan
  obtain ⟨hrun, htake⟩ | ⟨hstopped, rfl⟩ := hhear
  · have hstill (hx : u.2.crossed m.id = false) : (u.1.host h).available? m.id = some m :=
      (hu.quiet _ hbusy nofun hx).trans (hstands (hu.crossed _ hx))
    obtain ⟨ht, hborne⟩ := handled_takeUp ho hu.toChronicled hrun hc (tracks_arrive c)
      (fun g t => by rw [Follower.fst_arrive]) (fun g t y hy => by
        rw [Follower.fst_arrive, hc]
        exact Follower.isMarked_mark_of_ne _ _ _ hy) htake hstill
    exact ⟨hu.trans ht, fun _ => hborne⟩
  · refine ⟨hu, fun hrun => ?_⟩
    rw [hstopped] at hrun
    cases hrun

/-- A follower that lets go of a module reports it. -/
theorem handled_departed {id : ModuleId} (hs : Chronicled h n s)
    (hstands : s.2.crossed id = false → (s.1.host h).available? id = none)
    (hhear : (departed n id).Ends outside s () t) :
    Handled h n none s t ∧ BorneOut h n t id := by
  have hsubject : (Notice.letGo n id).subject? h n = some id := if_pos rfl
  have hstored : (s.1.onFollower n fun f t => f.depart t id).HasStored n id none := by
    unfold HasStored
    rw [follower_onFollower, if_pos rfl, Follower.fst_depart]
    exact (Dict.get?_erase _ _ _).trans (if_pos rfl)
  refine handled_reported ho hs (tracks_depart id) hsubject (fun _ _ => rfl)
    (ends_departed_iff.1 hhear) (fun hstopped => ?_) (fun g t y hy => ?_) hstored
    fun hx => (hstands hx).symm
  · rw [Follower.fst_depart, (hs.wired.detached hstopped).groups]
    rfl
  · rw [Follower.fst_depart]
    exact ⟨(Dict.get?_erase _ _ _).trans (if_neg hy), Follower.isMarked_mark_of_ne _ _ _ hy⟩

end Orderly

/-- Who holds a follower does not matter to what it tracks. -/
theorem untouched_setHolders (w : World) (k : Nat) (x : ModuleId) :
    Untouched h n w (w.setFollower n { w.follower n with holders := k }) x := by
  refine ⟨rfl, ?_, ?_⟩ <;> rw [follower_setFollower, if_pos rfl]
  rfl

/-- How many hold a follower does not matter as long as somebody does. -/
theorem World.Wired.setHolders {w : World} {k : Nat} (hw : w.Wired h n) (hk : k ≠ 0) :
    (w.setFollower n { w.follower n with holders := k }).Wired h n := by
  refine ⟨hw.distinct, ?_, hw.linked.imp (fun ha => ?_) fun hd => ?_⟩
  · rw [follower_setFollower, if_pos rfl]
    exact hw.states
  · exact ha.setFollower rfl ha.running hk
  · exact hd.setFollower rfl hd.stopped hk hd.groups

/-- A follower that is held by more or fewer is as it was otherwise. -/
theorem Chronicled.setHolders {k : Nat} (hs : Chronicled h n s) (hk : k ≠ 0) :
    Chronicled h n (s.1.setFollower n { s.1.follower n with holders := k }, s.2) := by
  refine ⟨hs.wired.setHolders hk, fun hrun x => ?_⟩
  rw [follower_setFollower, if_pos rfl] at hrun
  refine (hs.stored hrun x).congr (untouched_setHolders (h := h) s.1 k x).group ?_ fun _ => rfl
  rw [follower_setFollower, if_pos rfl]

section Orderly

variable {outside : Signal → World × Chronicle → World × Chronicle → Prop} {m : Module} {e : Event}

variable (ho : Orderly h n outside)
include ho

/-- Holding a follower at work makes no difference to what it hears. -/
theorem handled_holding_hearArrival (hs : Chronicled h n s) (hbusy : s.2.busy m.id = true)
    (hstands : s.2.crossed m.id = false → (s.1.host h).available? m.id = some m)
    (hhear : (holding n (hearArrival n m)).Ends outside s () t) :
    Handled h n none s t ∧ ((t.1.follower n).running = true → BorneOut h n t m.id) := by
  obtain ⟨v, hheard, rfl⟩ := ends_holding hhear
  have hheld : Chronicled h n (s.1.hold n, s.2) := hs.setHolders (Nat.succ_ne_zero _)
  obtain ⟨hv, hborne⟩ := handled_hearArrival ho hheld hbusy hstands hheard
  have hholders : (v.1.follower n).holders = (s.1.follower n).holders + 1 := by
    rw [hv.holders, follower_hold, if_pos rfl]
  have hrule : (v.1.follower n).rule = (s.1.follower n).rule := by
    rw [hv.rule, follower_hold, if_pos rfl]
  have hnonzero := hs.wired.held
  rw [release_of_held v.1 n (by omega), hholders, Nat.add_sub_cancel]
  have hgrip (x : ModuleId) : Kept h n v
      (v.1.setFollower n { v.1.follower n with holders := (s.1.follower n).holders }, v.2) x :=
    ⟨untouched_setHolders v.1 _ x, rfl⟩
  refine ⟨{ hv.toChronicled.setHolders hnonzero with
    rule := ?_
    holders := ?_
    view := hv.view
    busy := hv.busy
    crossed := hv.crossed
    quiet := hv.quiet
    modules := fun hrun x => ?_ }, fun hrun => ?_⟩
  · rw [follower_setFollower, if_pos rfl]
    exact hrule
  · rw [follower_setFollower, if_pos rfl]
  · rw [follower_setFollower, if_pos rfl] at hrun
    obtain hx | ⟨hs, hkept | hfalse⟩ := hv.modules hrun x
    · exact .inl (hx.of_kept (hgrip x) id)
    · rw [follower_hold, if_pos rfl] at hs
      have hhold : Kept h n s (s.1.hold n, s.2) x := ⟨untouched_setHolders s.1 _ x, rfl⟩
      exact .inr ⟨hs, .inl ((hhold.trans hkept).trans (hgrip x))⟩
    · exact hfalse.elim
  · rw [follower_setFollower, if_pos rfl] at hrun
    exact (hborne hrun).of_kept (hgrip m.id) id

/-- What a follower hears, it handles. -/
theorem handled_hear (hs : Chronicled h n s) (hbusy : s.2.busy e.module.id = true)
    (hstands : Stands h e s) (hhear : (hear n e).Ends outside s () t) :
    Handled h n none s t ∧
      ((t.1.follower n).running = true → ∀ x, Concerns e x → BorneOut h n t x) := by
  obtain ⟨harrival, hhear⟩ | ⟨hdeparture, hhear⟩ | ⟨rfl, hother⟩ := ends_hear_cases hhear
  · obtain ⟨ht, hborne⟩ :=
      handled_holding_hearArrival ho hs hbusy (hstands.arrival harrival) hhear
    exact ⟨ht, fun hrun x hx => hx.1 ▸ hborne hrun⟩
  · obtain ⟨ht, hborne⟩ := handled_departed ho hs (hstands.departure hdeparture) hhear
    exact ⟨ht, fun _ x hx => hx.1 ▸ hborne⟩
  · obtain ⟨harrival, hdeparture⟩ := hother hs.wired.held
    refine ⟨.refl hs, fun _ x hx => ?_⟩
    rw [Concerns, harrival, hdeparture] at hx
    exact (hx.2.elim Bool.noConfusion Bool.noConfusion)

/-- What another follower hears leads to acts only. -/
theorem handled_hear_other {k : Nat} (hk : k ≠ n) (hs : Chronicled h n s)
    (hhear : (hear k e).Ends outside s () t) : Handled h n none s t := by
  have hunreported {notice : Notice} {s t : World × Chronicle}
      (hnone : notice.subject? h n = none) (hout : outside (.reported notice) s t)
      (hs : Chronicled h n s) : Handled h n none s t := by
    rw [ho.reported _ _ _ hout, noted_of_subject?_eq_none hnone]
    exact .refl hs
  have hall : Chronicled h n s → Handled h n none s t := by
    refine ends_hear_other hk (R := fun s t => Chronicled h n s → Handled h n none s t)
      (fun a b hs => (a hs).trans (b (a hs).toChronicled))
      (fun a ht hs => .of_akin hs (a hs.wired.enrolled) ht)
      (fun hout hs => ho.handled _ _ _ (fun _ hi => by cases hi) hs hout)
      (hunreported (if_neg hk)) (hunreported (if_neg hk)) hhear
  exact hall hs

/-- What others make of an event. -/
theorem handled_deliver_other {l : Listener} (hl : l ≠ .follower n) (hs : Chronicled h n s)
    (hdeliver : (deliver e l).Ends outside s () t) : Handled h n none s t := by
  cases l with
  | recorder r =>
    exact ho.handled _ _ _ (fun _ hi => by cases hi) hs ((ends_interrupt _ _).1 hdeliver)
  | follower k => exact handled_hear_other ho (fun hk => hl (by rw [hk])) hs hdeliver

/-- One listener more has heard of an event. -/
theorem Delivering.step {l : Listener} {rest : List Listener}
    (hs : Delivering h n own e s (l :: rest) t) (hdeliver : (deliver e l).Ends outside t () u) :
    Delivering h n own e s rest u := by
  have hheard := hs.heard
  by_cases hl : l = .follower n
  · subst hl
    rw [List.filter_cons_of_pos (by simp)] at hheard
    obtain ⟨hrest, ht⟩ | ⟨hrest, -⟩ := hheard
    · obtain ⟨hu, hborne⟩ := handled_hear ho ht.toChronicled hs.busy hs.stands hdeliver
      exact ⟨.inr ⟨(List.cons.inj hrest).2, ht.settle hu.widen hborne⟩, hu.busy ▸ hs.busy,
        hs.stands.handled hs.busy hu⟩
    · cases hrest
  · rw [List.filter_cons_of_neg (by simpa using hl)] at hheard
    have hu := handled_deliver_other ho hl hs.chronicled hdeliver
    exact ⟨hheard.imp (fun ht => ⟨ht.1, ht.2.trans hu.widen⟩)
        fun ht => ⟨ht.1, ht.2.trans hu.widen⟩,
      hu.busy ▸ hs.busy, hs.stands.handled hs.busy hu⟩

/-- An event passes by all listeners. What it announces has been handled then, and stands. -/
theorem Progress.publish (hs : Progress h n own (Concerns e) s u)
    (hbusy : u.2.busy e.module.id = true) (hstands : Stands h e u)
    (hpublish : (publish h e).Ends outside u () t) : Handled h n own s t ∧ Stands h e t := by
  unfold World.publish at hpublish
  simp only [ends_bind, ends_act] at hpublish
  obtain ⟨audience, v, ⟨rfl, rfl⟩, hpublish⟩ := hpublish
  have hdone := Ends.each_induction (motive := Delivering h n own e s) hpublish
    (delivering_record hs hbusy hstands) fun _ _ _ _ hdeliver hv => hv.step ho hdeliver
  obtain ⟨hc, -⟩ | ⟨-, hhandled⟩ := hdone.heard
  · cases hc
  · exact ⟨hhandled, hdone.stands⟩

/-- What a host announces in a call about the module is handled, and stands. -/
theorem handled_announces (hs : Chronicled h n s) (hbusy : s.2.busy e.module.id = true)
    (ha : Announces outside h e s t) :
    Handled h n (some e.module.id) s t ∧ Stands h e t := by
  obtain ⟨host, hc, hpublish⟩ := ha
  have hwired : (s.1.setHost h host).Wired h n :=
    hs.wired.setHost hc.bus (hc.distinct hs.wired.distinct)
  have havailable (x : ModuleId) : ((s.1.setHost h host).host h).available? x =
      if x = e.module.id ∧ e.kind.isArrival = true then some e.module
      else if x = e.module.id ∧ e.kind.isDeparture = true then none
      else (s.1.host h).available? x := by
    rw [host_setHost, if_pos rfl, hc.available? hs.wired.distinct]
  have hchanged :
      Progress h n (some e.module.id) (Concerns e) s (s.1.setHost h host, s.2) := by
    refine .of_pending hs hwired rfl (fun _ => rfl) rfl (fun x hx => congrArg some hx.1.symm)
      fun x hx => ?_
    rw [havailable, if_neg fun hx' => hx ⟨hx'.1, .inl hx'.2⟩,
      if_neg fun hx' => hx ⟨hx'.1, .inr hx'.2⟩]
  have hstands : Stands h e (s.1.setHost h host, s.2) := by
    refine ⟨fun he _ => ?_, fun he _ => ?_⟩
    · rw [havailable, if_pos ⟨rfl, he⟩]
    · have harrival : e.kind.isArrival = false := EventKind.isArrival_of_isDeparture he
      rw [havailable, if_neg (by simp [harrival]), if_pos ⟨rfl, he⟩]
  exact hchanged.publish ho hbusy hstands hpublish

/-- A replacement is reported before it is announced. -/
theorem handled_replaces (hs : Chronicled h n s) (hbusy : s.2.busy m.id = true)
    (hmay : s.2.crossed m.id = false → (s.1.host h).available? m.id = none)
    (hr : Replaces outside h m s t) : Handled h n (some m.id) s t := by
  obtain ⟨host, u, hc, hout, hpublish⟩ := hr
  obtain rfl := ho.reported _ _ _ hout
  have hstands : Stands h ⟨.updated, m⟩ (noted h n (.replaced h m) (s.1.setHost h host, s.2)) :=
    ⟨nofun, nofun⟩
  have hpending : Progress h n (some m.id) (Concerns ⟨.updated, m⟩) s
      (noted h n (.replaced h m) (s.1.setHost h host, s.2)) := (handled_replaced hs hmay hc).pend
  exact (hpending.publish ho hbusy hstands hpublish).1

/-- A call on the host is handled. -/
theorem handled_call {call : HostCall} (hs : Chronicled h n s)
    (hbusy : s.2.busy call.subject = true) (hcall : (call.work h).Ends outside s () t) :
    Handled h n (some call.subject) s t := by
  have hsteps : HostSteps outside h
      (fun u id => u.2.crossed id = false → (u.1.host h).available? id = none) call s t := by
    refine HostCall.steps hcall (fun id hnone _ => hnone) fun d u hid hu => ?_
    exact (handled_announces ho hs (hid ▸ hbusy) hu).2.departure rfl
  clear hcall
  induction hsteps with
  | refl => exact .refl hs
  | @tail u v _ hstep ih =>
    apply ih.trans
    have hbusy' : u.2.busy call.subject = true := ih.busy ▸ hbusy
    cases hstep with
    | idle ht =>
      subst ht
      refine .of_pending ih.toChronicled (ih.wired.setHost rfl ih.wired.distinct) rfl
        (fun _ => rfl) rfl (fun _ => False.elim) fun x _ => ?_
      rw [host_setHost, if_pos rfl]
    | announces hsubject _ ha =>
      exact hsubject ▸ (handled_announces ho ih.toChronicled (hsubject ▸ hbusy') ha).1
    | replaces hcall hmay hr =>
      subst hcall
      exact handled_replaces ho ih.toChronicled hbusy' hmay hr

end Orderly

/-! ## Starts and stops -/

/-- A start has gone through the list up to a rest. -/
structure Underway (h n : Nat) (s : World × Chronicle) (rest : List Hosted)
    (t : World × Chronicle) : Prop where
  handled : Handled h n none s t
  done : (t.1.follower n).running = true → ∀ x, x ∉ rest.map (·.module.id) → BorneOut h n t x

/-- A follower has just subscribed to its host. -/
structure Opening (h n : Nat) (s : World × Chronicle) : Prop extends Chronicled h n s where
  unmarked : ∀ x, (s.1.follower n).isMarked x = false
  report : ∀ x, s.2.report x = {}
  busy : ∀ x, s.2.busy x = true

/-- At the opening, what is reported of the modules that are unavailable is borne out. -/
theorem Opening.borneOut (hs : Opening h n s) (hx : (s.1.host h).available? x = none) :
    BorneOut h n s x :=
  ⟨by rw [hx, hs.report], fun _ => by rw [hs.report]⟩

variable {rest : List Hosted} {hosted : Hosted}

/-- At the opening, the whole list is still to be gone through. -/
theorem Opening.underway (hs : Opening h n s) : Underway h n s (s.1.host h).modules s := by
  refine ⟨.refl hs.toChronicled, fun _ x hx => hs.borneOut ?_⟩
  have hunlisted : (s.1.host h).hosted? x = none := by
    unfold Host.hosted?
    rw [List.find?_eq_none]
    exact fun e he hid => hx (List.mem_map.2 ⟨e, he, of_decide_eq_true hid⟩)
  unfold Host.available?
  rw [hunlisted]
  rfl

/-- What has been gone through remains so, whatever is handled meanwhile. -/
theorem Underway.trans (ht : Underway h n s rest t) (hu : Handled h n none t u) :
    Underway h n s rest u :=
  ⟨ht.handled.trans hu, fun hrun x hx => hu.borneOut hrun fun hrun => ht.done hrun x hx⟩

/-- One listed module more has been gone through. -/
theorem Underway.next (ht : Underway h n s (hosted :: rest) t)
    (hx : (t.1.follower n).running = true → BorneOut h n t hosted.module.id) :
    Underway h n s rest t := by
  refine ⟨ht.handled, fun hrun x hmem => ?_⟩
  by_cases hid : x = hosted.module.id
  · exact hid ▸ hx hrun
  · exact ht.done hrun x (List.not_mem_cons_of_ne_of_not_mem hid hmem)

section Orderly

variable {outside : Signal → World × Chronicle → World × Chronicle → Prop} {v : World × Chronicle}

variable (ho : Orderly h n outside)
include ho

/-- One listed module is taken up or passed over. -/
theorem Underway.step (hs : Opening h n s) (ht : Underway h n s (hosted :: rest) t)
    (hhosted : (s.1.host h).hosted? hosted.module.id = some hosted)
    (hreplay : (replayHosted n hosted).Ends outside t () u) : Underway h n s rest u := by
  obtain ⟨hresolved, rfl⟩ | ⟨hresolved, c, v, hscan, hreplay⟩ :=
    ends_replayHosted ht.handled.wired.states hreplay
  · refine ht.next fun hrun => ht.handled.borneOut hrun fun _ => hs.borneOut ?_
    simp [Host.available?, hhosted, hresolved]
  · obtain ⟨hv, serial, hc⟩ := handled_scan ho ht.handled.toChronicled hscan
    have htv := ht.trans hv
    obtain ⟨hrun, -, hreplay⟩ | ⟨hmarked, rfl⟩ := hreplay
    · have hstands (hx : v.2.crossed hosted.module.id = false) :
          (v.1.host h).available? hosted.module.id = some hosted.module := by
        rw [htv.handled.quiet _ (hs.busy _) (Option.some_ne_none _).symm hx]
        simp [Host.available?, hhosted, hresolved]
      obtain ⟨hu, hborne⟩ := handled_takeUp ho hv.toChronicled hrun hc (tracks_adopt c)
        (fun g t => by rw [Follower.fst_adopt])
        (fun g t y _ => by rw [Follower.fst_adopt]; rfl) hreplay hstands
      exact (htv.trans hu).next fun _ => hborne
    · apply htv.next
      intro hrun
      obtain hx | ⟨-, hkept | hfalse⟩ := htv.handled.modules hrun hosted.module.id
      · exact hx
      · -- Nothing has been heard of the module, so it is wanted.
        have hunmarked := hkept.mark.trans (hs.unmarked hosted.module.id)
        rw [hmarked hrun] at hunmarked
        cases hunmarked
      · exact hfalse.elim

/-- All listed modules are taken up or passed over. -/
theorem Underway.each (hs : Opening h n s) (ht : Underway h n s (s.1.host h).modules t)
    (heach : (each (replayHosted n) (s.1.host h).modules).Ends outside t () u) :
    Underway h n s [] u := by
  refine (Ends.each_induction
    (motive := fun rest v => Underway h n s rest v ∧ rest.Sublist (s.1.host h).modules)
    heach ⟨ht, .refl _⟩ ?_).1
  intro hosted rest v v' hstep ⟨hv, hrest⟩
  have hhosted := hs.wired.distinct.hosted?_of_mem (hrest.subset List.mem_cons_self)
  exact ⟨hv.step ho hs hhosted hstep, (List.sublist_cons_self hosted rest).trans hrest⟩

end Orderly

/-- A follower that has just subscribed has heard of nothing, and nothing is reported. -/
theorem opening_subscribeFollower (hs : s.1.Wired h n)
    (hrun : (s.1.follower n).running = false) :
    Opening h n (s.1.subscribeFollower n h, s.2.atStart false) := by
  have hd := hs.detached hrun
  have hbegun := follower_subscribeFollower_self s.1 n h
  refine ⟨⟨⟨?_, ?_, .inl (attached_subscribeFollower hd)⟩, fun _ x => ?_⟩, fun x => ?_,
    fun _ => rfl, fun _ => rfl⟩
  · unfold Host.Distinct
    rw [host_subscribeFollower, if_pos rfl]
    exact hs.distinct
  · rw [hbegun]
    exact hs.states
  · change ((s.1.subscribeFollower n h).follower n).groups.get? x = none
    rw [hbegun]
    exact congrArg (Dict.get? · x) hd.groups
  · rw [hbegun]
    rfl

/-- A start that has gone through the list settles. If it was made while another operation on a
module was in progress, the two have crossed. -/
theorem Underway.settle (hu : Underway h n (s.1.subscribeFollower n h, s.2.atStart false) [] u) :
    Handled h n none s (u.1.setFollower n (u.1.follower n).settle, u.2.ended s.2) := by
  have hbegun := follower_subscribeFollower_self s.1 n h
  have hsettled : (u.1.setFollower n (u.1.follower n).settle).follower n =
      (u.1.follower n).settle := by
    rw [follower_setFollower, if_pos rfl]
  have hw := hu.handled.wired
  have huncrossed (x : ModuleId) (hx : u.2.crossed x = false) :
      s.2.crossed x = false ∧ s.2.busy x = false := by
    simpa [Chronicle.atStart, Chronicle.begun] using hu.handled.crossed x hx
  refine ⟨⟨⟨hw.distinct, ?_, hw.linked.imp attached_settle fun hd =>
    hd.setFollower rfl hd.stopped hd.held hd.groups⟩, fun hrun x => ?_⟩, ?_, ?_,
    hu.handled.view, rfl, fun x hx => (huncrossed x hx).1, fun x hbusy _ hx => ?_,
    fun hrun x => .inl ?_⟩
  · rw [hsettled]
    exact hw.states
  · rw [hsettled] at hrun
    exact (hu.handled.stored hrun x).congr (by rw [hsettled]; rfl) (by rw [hsettled]; rfl)
      fun _ => rfl
  · rw [hsettled]
    exact hu.handled.rule.trans (by rw [hbegun]; rfl)
  · rw [hsettled]
    exact hu.handled.holders.trans (by rw [hbegun]; rfl)
  · cases hbusy.symm.trans (huncrossed x hx).2
  · rw [hsettled] at hrun
    have hx := hu.done hrun x List.not_mem_nil
    exact ⟨hx.held, hx.taken⟩

/-- A follower that stops is no longer concerned. -/
theorem handled_stop (hs : Chronicled h n s) :
    Handled h n none s (s.1.stopFollower n, s.2) := by
  have hfollower := follower_stopFollower s.1 n n
  rw [if_pos rfl] at hfollower
  have hmodules : ((s.1.stopFollower n).host h).modules = (s.1.host h).modules := by
    rw [host_stopFollower, modules_endSubscription]
  refine ⟨⟨⟨?_, ?_, .inr (detached_stopFollower hs.wired.linked)⟩, fun hrun => ?_⟩, ?_, ?_,
    fun m => ?_, rfl, fun _ => id, fun x _ _ _ => ?_, fun hrun => ?_⟩
  · unfold Host.Distinct
    rw [hmodules]
    exact hs.wired.distinct
  · rw [hfollower]
    exact hs.wired.states
  · rw [hfollower] at hrun
    cases hrun
  · rw [hfollower]
  · rw [hfollower]
  · rw [stock_stopFollower]
  · unfold Host.available? Host.hosted?
    rw [hmodules]
  · rw [hfollower] at hrun
    cases hrun

/-- A call that has been handled is over. If it was made while another operation on its module was
in progress, the two have crossed. -/
theorem Progress.ended {id : ModuleId}
    (hu : Handled h n (some id) (s.1, s.2.begun (· = id)) u) :
    Handled h n none s (u.1, u.2.ended s.2) := by
  have hcrossed (x : ModuleId) (hx : u.2.crossed x = false) :
      s.2.crossed x = false ∧ (x = id → s.2.busy x = false) := by
    simpa [Chronicle.begun] using hu.crossed x hx
  refine ⟨⟨hu.wired, hu.stored⟩, hu.rule, hu.holders, hu.view, rfl,
    fun x hx => (hcrossed x hx).1, fun x hbusy _ hx => ?_, fun hrun x => ?_⟩
  · refine hu.quiet x (by simp [Chronicle.begun, hbusy]) (fun hid => ?_) hx
    cases hbusy.symm.trans ((hcrossed x hx).2 (Option.some.inj hid).symm)
  · exact (hu.modules hrun x).imp (fun hx => ⟨hx.held, hx.taken⟩) fun ⟨hs, hx⟩ =>
      ⟨hs, hx.imp_left fun hkept => ⟨hkept.toUntouched, hkept.report⟩⟩

section Orderly

variable {outside : Signal → World × Chronicle → World × Chronicle → Prop}

variable (ho : Orderly h n outside)
include ho

/-- A follower that starts takes up what is listed and hears of what changes meanwhile; one that
runs refuses. -/
theorem handled_start (hs : Chronicled h n s) {watch : Option Nat} {answer : Except Error Unit}
    (hstart : (startFollower n ⟨h, watch⟩).Ends outside
      (s.1, s.2.atStart (s.1.follower n).running) answer u) :
    Handled h n none s (u.1, u.2.ended s.2) := by
  cases hrun : (s.1.follower n).running with
  | true =>
    rw [hrun] at hstart
    obtain ⟨id, hsub, -⟩ := (hs.wired.attached hrun).subscription
    obtain ⟨-, rfl⟩ :=
      ends_startFollower_of_subscribed (s := (s.1, s.2.atStart true)) hsub hstart
    exact .of_akin hs (.refl _) rfl
  | false =>
    rw [hrun] at hstart
    obtain ⟨-, u, v, hbetween, heach, rfl⟩ := ends_startFollower (s := (s.1, s.2.atStart false))
      (hs.wired.detached hrun).unsubscribed hstart
    have hopening := opening_subscribeFollower hs.wired hrun
    have hmodules := modules_subscribeFollower s.1 n h h
    have hlisted : Underway h n (s.1.subscribeFollower n h, s.2.atStart false)
        ((s.1.subscribeFollower n h).host h).modules u := by
      rcases hbetween with rfl | ⟨watch, hbetween⟩
      · exact hopening.underway
      · exact hopening.underway.trans
          (ho.handled _ _ _ (fun _ hi => by cases hi) hopening.toChronicled hbetween)
    exact (hlisted.each ho hopening (hmodules ▸ heach)).settle

/-- Whatever is done is handled. -/
theorem Act.handled (hs : Chronicled h n s) (hact : Act h n outside s t) :
    Handled h n none s t := by
  cases hact with
  | call call hcall ht =>
    have hbegun : Chronicled h n (s.1, s.2.begun (· = call.subject)) := ⟨hs.wired, hs.stored⟩
    subst ht
    exact (handled_call ho hbegun (by simp [Chronicle.begun]) hcall).ended
  | start hstart ht =>
    subst ht
    exact handled_start ho hs hstart
  | stop ht =>
    subst ht
    exact handled_stop hs
  | elsewhere hw ht => exact .of_akin hs hw ht

/-- Acts that follow one another are handled. -/
theorem handled_of_acts (hs : Chronicled h n s)
    (hacts : Relation.ReflTransGen (Act h n outside) s t) : Handled h n none s t := by
  induction hacts with
  | refl => exact .refl hs
  | tail _ hact ih => exact ih.trans (hact.handled ho ih.toChronicled)

end Orderly

/-- If acts are handled, then what happens at signals is orderly. -/
theorem orderly_atSignal {acts : World × Chronicle → World × Chronicle → Prop}
    (hacts : ∀ s t, Chronicled h n s → Relation.ReflTransGen acts s t → Handled h n none s t) :
    Orderly h n (AtSignal h n acts) where
  reported _ _ _ ht := ht
  handled i s t hi hs ht := by
    cases i with
    | listed | heard | surveyed => exact hacts s t hs ht
    | reported notice => exact absurd rfl (hi notice)

/-- To every depth, acts that interrupt each other are handled. -/
theorem orderly_nested (h n d : Nat) : Orderly h n (Nested h n d) := by
  induction d with
  | zero =>
    apply orderly_atSignal
    intro s t hs hacts
    obtain rfl | ⟨_, hfalse⟩ := Relation.ReflTransGen.cases_head hacts
    · exact .refl hs
    · exact hfalse.1.elim
  | succ d ih => exact orderly_atSignal fun s t hs hacts => handled_of_acts ih hs hacts

/-- A follower is up to date if it is in step about every module. -/
theorem World.upToDate_iff {w : World} : w.UpToDate h n ↔ ∀ x, w.InStep h n x := by
  refine ⟨fun hw x => ?_, upToDate_of_inStep⟩
  have huntracked (hx : x ∉ (w.follower n).tracked) : (w.follower n).groups.get? x = none := by
    rw [Follower.tracked, Dict.mem_keys_iff] at hx
    exact Option.eq_none_iff_forall_ne_some.2 fun c hc => hx ⟨c, hc⟩
  unfold InStep Host.available?
  cases he : (w.host h).hosted? x with
  | none => exact huntracked fun hx => by simpa [he] using (hw.tracked x).1 hx
  | some e =>
    by_cases hs : e.state.isResolved = true
    · simpa [hs] using hw.scanned x e he hs
    · simpa [hs] using huntracked fun hx => by simpa [he, hs] using (hw.tracked x).1 hx

/-- After acts that interrupt each other to any depth, a follower that runs is up to date if and
only if the two objects of each report look the same: the one that the follower has taken up, and
the one that the host had then. It is in step in any case about a module of which no call was made
inside another one or inside a start, and no start inside a call. -/
theorem upToDate_iff_of_acts {d : Nat} (hs : s.1.Wired h n)
    (hborne : (s.1.follower n).running = true → ∀ x,
      s.1.HasStored n x (s.2.report x).taken ∧ BorneOut h n s x)
    (hacts : Relation.ReflTransGen (Act h n (Nested h n d)) s t)
    (hrun : (t.1.follower n).running = true) :
    (t.1.UpToDate h n ↔
      ∀ x, t.1.ScanAlike n (t.2.report x).taken (t.2.report x).held) ∧
    ∀ x, t.2.crossed x = false → t.1.InStep h n x := by
  have hchronicled : Chronicled h n s := ⟨hs, fun hrun x => (hborne hrun x).1⟩
  have hhandled := handled_of_acts (orderly_nested h n d) hchronicled hacts
  have hborne' (x : ModuleId) : BorneOut h n t x :=
    hhandled.borneOut hrun fun hrun => (hborne hrun x).2
  have hinStep (x : ModuleId) :
      t.1.InStep h n x ↔ t.1.ScanAlike n (t.2.report x).taken (t.2.report x).held := by
    rw [inStep_iff_hasStored, (hborne' x).held]
    exact (hhandled.stored hrun x).iff_scanAlike
  refine ⟨upToDate_iff.trans (forall_congr' hinStep), fun x hx => (hinStep x).2 ?_⟩
  rw [(hborne' x).taken hx]
  rfl

/-! A module that is asked for its listing, because it has arrived, departs before it answers. -/

section Example

/-- The module that departs while it is scanned. -/
def departing : Module := ⟨0, ⟨1⟩, "module-1"⟩

/-- The module that stays. -/
def staying : Module := ⟨1, ⟨2⟩, "module-2"⟩

/-- A world in which both are installed. -/
def departingWorld : World where
  hosts := ⟨[{ modules := [⟨departing, .installed⟩, ⟨staying, .installed⟩] }]⟩

/-- Notes reports and does nothing else. -/
def noteReports : Signal → World × Chronicle → World × Chronicle
  | .reported notice, s => noted 0 0 notice s
  | _, s => s

/-- Performs a call, with reports noted. -/
def callOnHost (call : HostCall) (atSignals : Signal → World × Chronicle → World × Chronicle)
    (s : World × Chronicle) : World × Chronicle :=
  let u := (((call.work 0 s.1).beside (s.2.begun (· = call.subject))).finish atSignals).2
  (u.1, u.2.ended s.2)

/-- Makes a module unavailable at the moment that it is asked for its listing. -/
def unresolveWhenListed : Signal → World × Chronicle → World × Chronicle
  | .listed _, s => callOnHost (.unresolve ⟨1⟩) noteReports s
  | i, s => noteReports i s

/-- To do nothing but note reports is one thing that can happen at signals. -/
theorem atSignal_noteReports (acts : World × Chronicle → World × Chronicle → Prop) (i : Signal)
    (s : World × Chronicle) : AtSignal 0 0 acts i s (noteReports i s) := by
  cases i with
  | listed | heard | surveyed => exact .refl
  | reported notice => rfl

/-- A call on the host, made whatever happens at its signals, is an act. -/
theorem act_callOnHost {outside : Signal → World × Chronicle → World × Chronicle → Prop}
    {atSignals : Signal → World × Chronicle → World × Chronicle}
    (hout : ∀ i s, outside i s (atSignals i s)) (call : HostCall) (s : World × Chronicle) :
    Act 0 0 outside s (callOnHost call atSignals s) :=
  .call call (Run.ends_finish hout _ _) rfl

/-- To make a module unavailable while it is listed is an act within another. -/
theorem nested_unresolveWhenListed (i : Signal) (s : World × Chronicle) :
    Nested 0 0 1 i s (unresolveWhenListed i s) := by
  cases i with
  | listed m => exact .single (act_callOnHost (atSignal_noteReports _) _ s)
  | heard | surveyed | reported => exact atSignal_noteReports _ _ _

/-- The follower has been started. -/
def departingStarted : World × Chronicle :=
  let u := (((startFollower 0 ⟨0, none⟩ departingWorld).beside
    (Chronicle.atStart {} false)).finish noteReports).2
  (u.1, u.2.ended {})

/-- The second module has been resolved, and then the first, which departs meanwhile. -/
def departingResolved : World × Chronicle :=
  callOnHost (.resolve ⟨1⟩) unresolveWhenListed
    (callOnHost (.resolve ⟨2⟩) noteReports departingStarted)

/-- The module that has departed is still tracked, for it was taken up after its departure was
reported. About the other module the follower is in step. -/
theorem upToDate_iff_of_acts_departing : ∃ t,
    Relation.ReflTransGen (Act 0 0 (Nested 0 0 1)) (departingWorld, {}) t ∧
    (t.1.follower 0).running = true ∧ (t.1.follower 0).tracked = [⟨1⟩, ⟨2⟩] ∧
    t.2.report ⟨1⟩ = ⟨some departing, none⟩ ∧ ¬t.1.UpToDate 0 0 ∧ t.1.InStep 0 0 ⟨2⟩ := by
  have hstarted : Act 0 0 (Nested 0 0 1) (departingWorld, {}) departingStarted :=
    .start (Run.ends_finish (atSignal_noteReports _) _ _) rfl
  have hacts : Relation.ReflTransGen (Act 0 0 (Nested 0 0 1)) (departingWorld, {})
      departingResolved :=
    .head hstarted (.head (act_callOnHost (atSignal_noteReports _) _ _)
      (.single (act_callOnHost nested_unresolveWhenListed _ _)))
  have hwired : departingWorld.Wired 0 0 :=
    ⟨by unfold Host.Distinct; decide, rfl,
      .inr ⟨⟨⟨nofun, nofun, nofun⟩, rfl⟩, rfl, rfl, by decide, rfl⟩⟩
  have hrun : (departingResolved.1.follower 0).running = true := by decide +kernel
  have htracked : (departingResolved.1.follower 0).tracked = [⟨1⟩, ⟨2⟩] := by decide +kernel
  have hreport : departingResolved.2.report ⟨1⟩ = ⟨some departing, none⟩ := by decide +kernel
  have huncrossed : departingResolved.2.crossed ⟨2⟩ = false := by decide +kernel
  obtain ⟨hiff, hinStep⟩ :=
    upToDate_iff_of_acts hwired (fun hrun => by cases hrun) hacts hrun
  refine ⟨departingResolved, hacts, hrun, htracked, hreport, fun huptodate => ?_,
    hinStep ⟨2⟩ huncrossed⟩
  have halike := hiff.1 huptodate ⟨1⟩
  rw [hreport] at halike
  cases halike

end Example

end ServiceRegistry
