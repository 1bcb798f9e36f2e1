import Mathlib.Algebra.GroupWithZero.Nat
import ServiceRegistry.Proofs.Refusals
import ServiceRegistry.Proofs.Stage

/-!
# Numbers that are given out

A host is asked for numbers, and modules are installed under numbers that it has given out or that
the caller has chosen. Whatever the order, and also if listeners ask and call while others wait, the
host gives out a number that was never in use (`World.fresh_of_reached`): neither given out before
nor that of a module that was ever installed, be it gone since. A number is taken to be in use from
the moment at which the host accepts a module under it; a refused module leaves no mark.

The number that comes next is the one after the largest that was in use, or else 1
(`ModuleId.NextAfter`). So this is true as long as the last of all numbers was not in use, after
which there is none.
-/

namespace ServiceRegistry

open Relation (ReflTransGen)
open World Interruptible

/-! ## Counting on -/

/-- A number is above some others, and no higher than the one after the largest of them, or than 1
if that is higher. -/
structure ModuleId.NextAfter (used : List ModuleId) (next : ModuleId) : Prop where
  above : ∀ id ∈ used, id.word < next.word
  least : next = ⟨1⟩ ∨ ∃ id ∈ used, next = id.next

namespace ModuleId

variable {used : List ModuleId} {id next : ModuleId}

/-- Only after the last number does the count begin again. -/
theorem lt_next (h : id.word.toNat < 2 ^ 64 - 1) : id.word < id.next.word := by
  have hsum : (id.word + 1).toNat = id.word.toNat + 1 := by
    rw [UInt64.toNat_add, UInt64.toNat_one]
    exact Nat.mod_eq_of_lt (by omega)
  rw [UInt64.lt_iff_toNat_lt, next, hsum]
  exact Nat.lt_succ_self _

/-- While no number was in use, the first one comes next. -/
theorem nextAfter_nil : NextAfter [] ⟨1⟩ := ⟨nofun, .inl rfl⟩

/-- The number that comes next was not in use. -/
theorem NextAfter.not_mem (h : NextAfter used next) : next ∉ used :=
  fun hmem => absurd (h.above next hmem) (UInt64.lt_irrefl _)

/-- The number that comes next is given out. -/
theorem NextAfter.take (h : NextAfter used next) (hlast : next.word.toNat < 2 ^ 64 - 1) :
    NextAfter (next :: used) next.next where
  above id hid := by
    rcases List.mem_cons.1 hid with rfl | hid
    · exact lt_next hlast
    · exact UInt64.lt_trans (h.above id hid) (lt_next hlast)
  least := .inr ⟨next, List.mem_cons_self, rfl⟩

/-- Any number is put to use. -/
theorem NextAfter.install (h : NextAfter used next) (hlast : id.word.toNat < 2 ^ 64 - 1) :
    NextAfter (id :: used) (.max next id.next) := by
  unfold ModuleId.max
  split
  · rename_i hle
    refine ⟨fun x hx => ?_, .inr ⟨id, List.mem_cons_self, rfl⟩⟩
    rcases List.mem_cons.1 hx with rfl | hx
    · exact lt_next hlast
    · exact UInt64.lt_of_lt_of_le (h.above x hx) hle
  · rename_i hlt
    have hbelow : id.next.word < next.word := UInt64.not_le.1 hlt
    refine ⟨fun x hx => ?_, h.least.imp_right fun ⟨x, hx, hnext⟩ =>
      ⟨x, List.mem_cons_of_mem id hx, hnext⟩⟩
    rcases List.mem_cons.1 hx with rfl | hx
    · exact UInt64.lt_trans (lt_next hlast) hbelow
    · exact h.above x hx

end ModuleId

/-! ## The host's count -/

namespace Host

variable {h h' : Host} {m : Module} {id : ModuleId}

/-- An installation puts the next number after that of the module, if it is not beyond it already.
-/
theorem nextId_of_install (hm : h.install m = .ok h') : h'.nextId = .max h.nextId m.id.next := by
  unfold install at hm
  split at hm
  · cases hm
  · cases hm
    rfl

/-- A change of state leaves the number that comes next. -/
theorem nextId_of_transition {rule : ModuleState → Except HostError (Option ModuleState)}
    {changed : Option Module} (ht : h.transition id rule = .ok (changed, h')) :
    h'.nextId = h.nextId := by
  unfold transition at ht
  split at ht
  · cases ht
  · split at ht <;> cases ht <;> rfl

/-- A replacement leaves the number that comes next. -/
theorem nextId_of_replace (hm : h.replace m = .ok h') : h'.nextId = h.nextId := by
  rw [replace_eq_ok hm]
  rfl

/-- A removal leaves the number that comes next: it is not given out again. -/
theorem nextId_of_remove (hm : h.remove id = .ok (m, h')) : h'.nextId = h.nextId := by
  unfold remove at hm
  split at hm
  · cases hm
  · cases hm
    rfl

end Host

/-! ## Numbers in use -/

/-- The number that a call puts to use: that of a module that it brings, if the host installs it. -/
def HostCall.installs? (h : Host) : HostCall → Option ModuleId
  | install m =>
    match h.install m with
    | .ok _ => some m.id
    | .error _ => none
  | _ => none

/-- A module that the host accepts puts its number to use. -/
theorem HostCall.installs?_of_accepted {h h' : Host} {m : Module} (hm : h.install m = .ok h') :
    (install m).installs? h = some m.id := by
  simp only [installs?, hm]

/-- A module that the host refuses puts no number to use. -/
theorem HostCall.installs?_of_refused {h : Host} {m : Module} {refusal : HostError}
    (hm : h.install m = .error refusal) : (install m).installs? h = none := by
  simp only [installs?, hm]

namespace World

variable {n : Nat} {w : World} {m : Module}

/-- What can be done at one go, with the numbers that were in use, newest first. -/
inductive Asks (n : Nat) (s : World × List ModuleId) : World × List ModuleId → Prop where
  /-- The host gives out a number. -/
  | takeId : Asks n s (s.1.setHost n (s.1.host n).takeId.2, (s.1.host n).takeId.1 :: s.2)
  /-- Something happens that leaves the host's list, and the number that it gives out next. -/
  | besides {w : World} (hmodules : (w.host n).modules = (s.1.host n).modules)
      (hnext : (w.host n).nextId = (s.1.host n).nextId) : Asks n s (w, s.2)

/-- What can happen next on a host. -/
inductive Numbering (n : Nat) (g : Stage World Signal (List ModuleId)) :
    Stage World Signal (List ModuleId) → Prop where
  /-- A call begins, which may put a number to use. -/
  | call (call : HostCall) : Numbering n g (Stage.perform (call.work n)
      (g.state.1, (call.installs? (g.state.1.host n)).toList ++ g.state.2) g.waiting)
  /-- A call goes on, or something is done at one go. -/
  | other {g'} (h : Stage.Step (fun _ => False) (Asks n) g g') : Numbering n g g'

/-- A host that accepts a module goes on to announce it. -/
theorem install_of_accepted {h : Host} (hm : (w.host n).install m = .ok h) :
    install n m w =
      (publish n ⟨.installed, m⟩ >>= fun _ => pure (.ok m.id)) (w.setHost n h) := by
  unfold install
  change Run.bind (.done _ _) _ = _
  rw [tryHost_of_ok (x := ()) (h := h) (by rw [hm]; rfl)]
  rfl

/-! ## Operations that leave the next number alone -/

/-- Two worlds in which a host gives out the same number next. -/
def SameNext (n : Nat) (w w' : World) : Prop := (w'.host n).nextId = (w.host n).nextId

/-- Whatever is done at its signals, an operation leaves the number that a host gives out next. -/
abbrev KeepsNext (n : Nat) {α : Type} (p : Work α) : Prop := p.MadeOf (SameNext n)

/-- A host that is written back with the same next number gives out the same. -/
theorem sameNext_setHost {host : Host} (h : host.nextId = (w.host n).nextId) :
    SameNext n w (w.setHost n host) := by
  unfold SameNext
  rw [host_setHost, if_pos rfl, h]

/-- To publish an event leaves the number that comes next. -/
theorem keepsNext_publish (k : Nat) (e : Event) : KeepsNext n (publish k e) := by
  refine (madeOf_publish k e).mono fun w w' h => ?_
  obtain ⟨bus, hbus⟩ := h n
  unfold SameNext
  rw [hbus]

/-- A change of a host that can be refused. -/
theorem keepsNext_tryHost {α : Type} {f : Host → Except HostError (α × Host)}
    (hf : ∀ host a host', f host = .ok (a, host') → host'.nextId = host.nextId) :
    KeepsNext n (act (tryHost n f)) := by
  refine madeOf_act fun w => .single ?_
  unfold tryHost
  cases hr : f (w.host n) with
  | error refusal => exact rfl
  | ok answer => exact sameNext_setHost (hf _ answer.1 answer.2 hr)

/-- To change a module's state and announce it leaves the number that comes next. -/
theorem keepsNext_changeState (id : ModuleId)
    (rule : ModuleState → Except HostError (Option ModuleState)) (kind : EventKind) :
    KeepsNext n (changeState n id rule kind) := by
  refine (keepsNext_tryHost fun _ _ _ => Host.nextId_of_transition).bind fun r => ?_
  cases r with
  | error refusal => exact madeOf_pure _
  | ok changed =>
    refine MadeOf.bind ?_ fun _ => madeOf_pure _
    cases changed with
    | none => exact madeOf_pure ()
    | some m => exact keepsNext_publish n _

/-- To exchange a module's object leaves the number that comes next. -/
theorem keepsNext_exchange (m : Module) (andResolve : Bool) :
    KeepsNext n (exchange n m andResolve) := by
  refine (keepsNext_tryHost fun host _ host' hr => ?_).bind fun r => ?_
  · cases hm : host.replace m with
    | error refusal =>
      rw [hm] at hr
      cases hr
    | ok replaced =>
      rw [hm] at hr
      cases hr
      exact Host.nextId_of_replace hm
  · cases r with
    | error refusal => exact madeOf_pure _
    | ok _ =>
      exact (madeOf_interrupt _).bind fun _ => (keepsNext_publish n _).bind fun _ =>
        .ite (keepsNext_changeState _ _ _) (madeOf_pure _)

/-- An update leaves the number that comes next. -/
theorem keepsNext_update (m : Module) : KeepsNext n (update n m) := by
  refine (madeOf_ask _).bind fun state => ?_
  cases state with
  | none => exact madeOf_pure _
  | some state =>
    refine .ite ((keepsNext_changeState _ _ _).bind fun r => ?_) (keepsNext_exchange m false)
    cases r with
    | error refusal => exact madeOf_pure _
    | ok _ => exact keepsNext_exchange m true

/-- A start leaves the number that comes next. -/
theorem keepsNext_start (id : ModuleId) : KeepsNext n (World.start n id) := by
  refine (keepsNext_changeState _ _ _).bind fun r => ?_
  cases r with
  | error refusal => exact madeOf_pure _
  | ok _ => exact keepsNext_changeState _ _ _

/-- An uninstallation leaves the number that comes next. -/
theorem keepsNext_uninstall (id : ModuleId) : KeepsNext n (uninstall n id) := by
  refine (keepsNext_changeState _ _ _).bind fun r => ?_
  cases r with
  | error refusal => exact madeOf_pure _
  | ok _ =>
    refine (keepsNext_tryHost fun _ _ _ => Host.nextId_of_remove).bind fun r => ?_
    cases r with
    | error refusal => exact madeOf_pure _
    | ok m => exact (keepsNext_publish n _).bind fun _ => madeOf_pure _

/-! ## Runs -/

/-- What holds at every moment: unless the last number was in use, the host gives out next the one
after the largest that was, and no call that waits will change that when it goes on. -/
structure Counted (n : Nat) (g : Stage World Signal (List ModuleId)) : Prop where
  next : (∀ id ∈ g.state.2, id.word.toNat < 2 ^ 64 - 1) →
    ModuleId.NextAfter g.state.2 (g.state.1.host n).nextId
  waiting : ∀ p ∈ g.waiting, KeepsNext n p

/-- Several steps that leave the number leave it together. -/
theorem nextId_eq_of_steps {w w' : World} (h : ReflTransGen (SameNext n) w w') :
    (w'.host n).nextId = (w.host n).nextId := by
  induction h with
  | refl => rfl
  | tail _ hstep ih => exact Eq.trans hstep ih

/-- An operation that leaves the next number alone goes up to its next signal. -/
theorem counted_perform {p : Work Unit} {s : World × List ModuleId} {waiting : List (Work Unit)}
    (hp : KeepsNext n p) (hs : Counted n ⟨s, waiting⟩) : Counted n (Stage.perform p s waiting) := by
  have hcourse := hp (s.1, ())
  unfold Interruptible.Safe at hcourse
  unfold Stage.perform
  cases hr : p s.1 with
  | done t a =>
    rw [hr] at hcourse
    exact ⟨nextId_eq_of_steps hcourse.1 ▸ hs.next, hs.waiting⟩
  | pause t i k =>
    rw [hr] at hcourse
    refine ⟨nextId_eq_of_steps hcourse.1 ▸ hs.next, fun q hq => ?_⟩
    rcases List.mem_cons.1 hq with rfl | hq
    · exact fun u => hcourse.2.2 u trivial
    · exact hs.waiting q hq

/-- A host that accepts a module counts on from there. -/
theorem Counted.accept {g : Stage World Signal (List ModuleId)} (hg : Counted n g) {host : Host}
    (hm : (g.state.1.host n).install m = .ok host) :
    Counted n ⟨(g.state.1.setHost n host, m.id :: g.state.2), g.waiting⟩ := by
  refine ⟨fun hlast => ?_, hg.waiting⟩
  have hnext := hg.next fun id hid => hlast id (List.mem_cons_of_mem _ hid)
  rw [host_setHost, if_pos rfl, Host.nextId_of_install hm]
  exact hnext.install (hlast _ List.mem_cons_self)

/-- To begin an installation keeps the count, whether the host accepts the module or refuses it. -/
theorem Counted.install {g : Stage World Signal (List ModuleId)} (hg : Counted n g) (m : Module) :
    Counted n (Stage.perform ((HostCall.install m).work n)
      (g.state.1, ((HostCall.install m).installs? (g.state.1.host n)).toList ++ g.state.2)
      g.waiting) := by
  cases hm : (g.state.1.host n).install m with
  | error refusal =>
    have hwork : (HostCall.install m).work n g.state.1 = .done g.state.1 () :=
      bind_of_done (install_of_refused hm)
    rw [HostCall.installs?_of_refused hm, Stage.perform, hwork]
    exact hg
  | ok host =>
    -- The number is counted before anyone can act, and the rest of the call only announces it.
    have hwork : (HostCall.install m).work n g.state.1 =
        (publish n ⟨.installed, m⟩ >>= fun _ => pure (.ok m.id) :
          Work (Except HostError ModuleId)).forget (g.state.1.setHost n host) := by
      change (World.install n m g.state.1).bind _ = _
      rw [install_of_accepted hm]
      rfl
    rw [HostCall.installs?_of_accepted hm, Stage.perform, hwork]
    refine counted_perform ?_ (hg.accept hm)
    exact ((keepsNext_publish n _).bind fun _ => madeOf_pure _).bind fun _ => madeOf_pure ()

/-- Of the calls only an installation touches the count. -/
theorem Counted.call {g : Stage World Signal (List ModuleId)} (hg : Counted n g)
    (call : HostCall) : Counted n (Stage.perform (call.work n)
      (g.state.1, (call.installs? (g.state.1.host n)).toList ++ g.state.2) g.waiting) := by
  have hforget {α : Type} {p : Work α} (hp : KeepsNext n p) : KeepsNext n p.forget :=
    hp.bind fun _ => madeOf_pure ()
  cases call with
  | install m => exact hg.install m
  | update m => exact counted_perform (hforget (keepsNext_update m)) hg
  | resolve id => exact counted_perform (hforget (keepsNext_changeState _ _ _)) hg
  | start id => exact counted_perform (hforget (keepsNext_start id)) hg
  | stop id => exact counted_perform (hforget (keepsNext_changeState _ _ _)) hg
  | unresolve id => exact counted_perform (hforget (keepsNext_changeState _ _ _)) hg
  | uninstall id => exact counted_perform (hforget (keepsNext_uninstall id)) hg

/-- To ask for a number keeps the count. -/
theorem Counted.asks {s t : World × List ModuleId} {waiting : List (Work Unit)}
    (hs : Counted n ⟨s, waiting⟩) (h : Asks n s t) : Counted n ⟨t, waiting⟩ := by
  refine ⟨fun hlast => ?_, hs.waiting⟩
  cases h with
  | takeId =>
    have hnext := hs.next fun id hid => hlast id (List.mem_cons_of_mem _ hid)
    rw [host_setHost, if_pos rfl]
    exact hnext.take (hlast _ List.mem_cons_self)
  | besides hmodules hnext =>
    rw [hnext]
    exact hs.next hlast

/-- Whatever happens next, the count is kept. -/
theorem Counted.step {g g' : Stage World Signal (List ModuleId)} (hg : Counted n g)
    (h : Numbering n g g') : Counted n g' := by
  cases h with
  | call call => exact hg.call call
  | other h =>
    cases h with
    | begin hbegins => exact hbegins.elim
    | @resume p s before after =>
      refine counted_perform (hg.waiting p (by simp)) ⟨hg.next, fun q hq => hg.waiting q ?_⟩
      rcases List.mem_append.1 hq with hq | hq
      · exact List.mem_append_left _ hq
      · exact List.mem_append_right _ (List.mem_cons_of_mem p hq)
    | act h => exact hg.asks h

/-- As long as the last of all numbers was not in use, a host whose count was at its beginning gives
out a number that was never in use, and in fact the one after the largest that was. -/
theorem fresh_of_reached (hfresh : (w.host n).nextId = ⟨1⟩)
    {g : Stage World Signal (List ModuleId)}
    (hg : ReflTransGen (Numbering n) ⟨(w, []), []⟩ g)
    (hlast : ∀ id ∈ g.state.2, id.word.toNat < 2 ^ 64 - 1) :
    (g.state.1.host n).takeId.1 ∉ g.state.2 ∧
      ModuleId.NextAfter g.state.2 (g.state.1.host n).takeId.1 := by
  have hcounted : Counted n g := by
    clear hlast
    induction hg with
    | refl => exact ⟨fun _ => hfresh ▸ ModuleId.nextAfter_nil, nofun⟩
    | tail _ hstep ih => exact ih.step hstep
  have hnext := hcounted.next hlast
  exact ⟨hnext.not_mem, hnext⟩

/-- After the last number there is none: with the last two in use, the last one comes again. -/
example : ∃ h h', Host.install {} ⟨0, ⟨0xFFFFFFFFFFFFFFFE⟩, "module-1"⟩ = .ok h ∧
    h.install ⟨1, ⟨0xFFFFFFFFFFFFFFFF⟩, "module-2"⟩ = .ok h' ∧
    h'.takeId.1 = ⟨0xFFFFFFFFFFFFFFFF⟩ :=
  ⟨_, _, rfl, rfl, by decide⟩

/-! A recorder that hears of a module's installation asks for a number. Another module is refused
under the number of the first, which is then uninstalled. -/

section Example

/-- A world in which a recorder listens to a host. -/
def numberingWorld : World where
  hosts := ⟨[{ bus := { listeners := [(⟨0⟩, .recorder 0)], nextListener := 1 } }]⟩

/-- The module that is installed. -/
def seventh : Module := ⟨0, ⟨7⟩, "module-7"⟩

/-- Another object of its number. -/
def twinSeventh : Module := ⟨1, ⟨7⟩, "module-7"⟩

/-- Number 7 is not given out although no module has it any more. -/
theorem fresh_of_reached_uninstalled : ∃ g : Stage World Signal (List ModuleId),
    (numberingWorld.host 0).nextId = ⟨1⟩ ∧
    ReflTransGen (Numbering 0) ⟨(numberingWorld, []), []⟩ g ∧
    g.state.2 = [⟨8⟩, ⟨7⟩] ∧ (∀ id ∈ g.state.2, id.word.toNat < 2 ^ 64 - 1) ∧
    (g.state.1.host 0).modules = [] ∧ (g.state.1.host 0).takeId.1 ∉ g.state.2 ∧
    ModuleId.NextAfter g.state.2 (g.state.1.host 0).takeId.1 := by
  obtain ⟨g, hg, hused, hmodules⟩ : ∃ g : Stage World Signal (List ModuleId),
      ReflTransGen (Numbering 0) ⟨(numberingWorld, []), []⟩ g ∧ g.state.2 = [⟨8⟩, ⟨7⟩] ∧
      (g.state.1.host 0).modules = [] := by
    exact ⟨_, .tail (.tail (.tail (.tail (.tail (.single
      (.call (.install seventh)))
      (.other (.act .takeId))) (.other (.resume [] [])))
      (.call (.install twinSeventh)))
      (.call (.uninstall ⟨7⟩))) (.other (.resume [] [])), rfl, rfl⟩
  have hlast : ∀ id ∈ g.state.2, id.word.toNat < 2 ^ 64 - 1 := by
    rw [hused]
    decide
  exact ⟨g, rfl, hg, hused, hlast, hmodules, fresh_of_reached rfl hg hlast⟩

end Example

end World

end ServiceRegistry
