import ServiceRegistry.Proofs.Delivery

/-!
# Operations that nothing disturbs

If nobody acts at the signals of an operation, the operation is a function of the state
(`Interruptible.calm`), and so is each of its parts. A host whose only listener is a follower then
calls the follower and nobody else: an arrival is scanned and taken up (`World.TakenUp`), and an
event that is neither an arrival nor a departure leaves the follower alone.
-/

namespace ServiceRegistry

namespace Interruptible

variable {σ ι α β : Type} (s : σ)

/-- What an operation answers and leaves if nothing happens at its interruptions. -/
def calm (p : Interruptible σ ι α) (s : σ) : α × σ := (p s).finish fun _ s => s

/-- Doing nothing gives its answer and leaves the state. -/
@[simp] theorem calm_pure (a : α) : (pure a : Interruptible σ ι α).calm s = (a, s) := rfl

/-- The second operation begins where the first one ends. -/
@[simp] theorem calm_bind (p : Interruptible σ ι α) (q : α → Interruptible σ ι β) :
    (p >>= q).calm s = (q (p.calm s).1).calm (p.calm s).2 :=
  Run.finish_bind _ (p s) q

/-- A single act is not disturbed. -/
@[simp] theorem calm_act (f : σ → α × σ) : (act f : Interruptible σ ι α).calm s = f s := rfl

/-- A question leaves the state. -/
@[simp] theorem calm_ask (f : σ → α) : (ask f : Interruptible σ ι α).calm s = (f s, s) := rfl

/-- A change is not disturbed. -/
@[simp] theorem calm_change (f : σ → σ) :
    (change f : Interruptible σ ι Unit).calm s = ((), f s) := rfl

end Interruptible

/-! ## Numbered objects -/

namespace Store

variable {α : Type} [Inhabited α]

/-- The next number is behind all that were used. -/
theorem next_set (s : Store α) (n : Nat) (a : α) : (s.set n a).next = max s.next (n + 1) := by
  unfold set next
  split
  · simp
    omega
  · simp
    omega

end Store

/-- Asking for a listing leaves what module objects contain. -/
theorem Stock.content_list (s : Stock) (m : Module) (folder : String) (k : Nat) :
    ((s.list m folder).2.objects.get k).content = (s.objects.get k).content := by
  unfold list update Store.modify
  rw [Store.get_set]
  split
  · rename_i h
    rw [h]
  · rfl

/-- Asking for a listing uses up no numbers. -/
theorem Stock.next_list (s : Stock) (m : Module) (folder : String) :
    s.objects.next ≤ (s.list m folder).2.objects.next := by
  unfold list update Store.modify
  rw [Store.next_set]
  exact Nat.le_max_left _ _

/-! ## What a follower hears -/

namespace World

open Interruptible

variable {w : World} {h n : Nat} {e : Event} {m : Module}

/-- A follower has taken up a module, and nothing else has come of it. -/
structure TakenUp (n : Nat) (m : Module) (w w' : World) : Prop where
  environment : w'.environment = w.environment
  files : w'.stock.files = w.stock.files
  memo : ∀ p, w'.stock.memo p = w.stock.memo p
  content : ∀ k, (w'.stock.objects.get k).content = (w.stock.objects.get k).content
  objects : w.stock.objects.next ≤ w'.stock.objects.next
  host : ∀ k, w'.host k = w.host k
  pins : ∀ k, (w'.catalog k).pins = (w.catalog k).pins
  nextSerial : w'.nextSerial = w.nextSerial + (w.scanFor n m w.nextSerial).providers.length
  follower : w'.follower n =
    ((w.follower n).arrive (w.tableOf (w.follower n)) (w.scanFor n m w.nextSerial)).1
  table : w'.tableOf (w.follower n) =
    ((w.follower n).arrive (w.tableOf (w.follower n)) (w.scanFor n m w.nextSerial)).2

/-- An event that nobody but a follower listens to is recorded and heard. -/
theorem calm_publish (haudience : (w.host h).bus.audience = [.follower n]) :
    (publish h e).calm w = (hear n e).calm (record h e w).2 := by
  unfold publish
  rw [calm_bind, calm_act, fst_record, haudience]
  exact calm_bind _ _ _

/-- An event that is neither an arrival nor a departure does not concern a follower. -/
theorem calm_hear_other (harrival : e.kind.isArrival = false)
    (hdeparture : e.kind.isDeparture = false) : (hear n e).calm w = ((), w) := by
  unfold hear
  rw [calm_bind, calm_ask]
  dsimp only
  by_cases hheld : (w.follower n).holders = 0
  · rw [if_pos hheld, calm_pure]
  · rw [if_neg hheld, harrival, hdeparture]
    rfl

/-- A follower is held while an operation runs, and let go of afterwards. -/
theorem calm_holding {α : Type} (p : Work α) : (holding n p).calm w =
    ((p.calm (w.hold n)).1, (p.calm (w.hold n)).2.release n) := by
  simp only [holding, calm_bind, calm_change, calm_pure]

/-- A running follower that hears of an arrival scans the module and takes it up. -/
theorem calm_hearArrival (hrun : (w.follower n).running = true) : (hearArrival n m).calm w =
    ((), { w with
        stock := (w.stock.list m (w.follower n).rule.folder).2
        nextSerial := w.nextSerial + (w.scanFor n m w.nextSerial).providers.length }.onFollower n
      fun f t => f.arrive t (w.scanFor n m w.nextSerial)) := by
  have hscan : (scan (w.follower n).rule m).calm w = (w.scanFor n m w.nextSerial, { w with
      stock := (w.stock.list m (w.follower n).rule.folder).2
      nextSerial := w.nextSerial + (w.scanFor n m w.nextSerial).providers.length }) := rfl
  unfold hearArrival
  rw [calm_bind, calm_ask, calm_bind, hscan, calm_bind, calm_ask]
  exact (congrArg (fun p : Work Unit => p.calm _) (if_pos hrun)).trans rfl

/-- A follower that is held takes up a module of whose arrival it hears. -/
theorem takenUp_hear (hheld : (w.follower n).holders ≠ 0) (hrun : (w.follower n).running = true)
    (harrival : e.kind.isArrival = true) : TakenUp n e.module w ((hear n e).calm w).2 := by
  have hcalm : (hear n e).calm w = (holding n (hearArrival n e.module)).calm w := by
    unfold hear
    rw [calm_bind, calm_ask]
    dsimp only
    rw [if_neg hheld, if_pos harrival]
  have hrun' : ((w.hold n).follower n).running = true := by simpa using hrun
  have hscan : (w.hold n).scanFor n e.module (w.hold n).nextSerial =
      w.scanFor n e.module w.nextSerial := by simp [scanFor]
  rw [hcalm, calm_holding, calm_hearArrival hrun', hscan]
  generalize hc : w.scanFor n e.module w.nextSerial = c
  generalize hv : ({ w.hold n with
    stock := ((w.hold n).stock.list e.module ((w.hold n).follower n).rule.folder).2
    nextSerial := (w.hold n).nextSerial + c.providers.length } : World) = v
  have hfollower : v.follower n =
      { w.follower n with holders := (w.follower n).holders + 1 } := by
    rw [← hv]
    exact (follower_hold w n n).trans (if_pos rfl)
  have htable : v.tableOf (v.follower n) = w.tableOf (w.follower n) := by
    rw [hfollower, ← hv]
    rfl
  have hafter : (v.onFollower n fun f t => f.arrive t c).follower n =
      { ((w.follower n).arrive (w.tableOf (w.follower n)) c).1 with
        holders := (w.follower n).holders + 1 } := by
    rw [follower_onFollower, if_pos rfl]
    change ((v.follower n).arrive (v.tableOf (v.follower n)) c).1 = _
    rw [htable, hfollower, Follower.arrive_holders]
  rw [release_of_held _ _ (by rw [hafter]; simpa using hheld)]
  constructor
  case follower =>
    rw [follower_setFollower, if_pos rfl, hafter, hc, Follower.fst_arrive]
    rfl
  case table =>
    unfold tableOf
    rw [catalog_setFollower, catalog_onFollower, hfollower, if_pos rfl, hc]
    change (_ : Follower × Table).2 = _
    rw [Follower.arrive_holders, ← hv]
    rfl
  all_goals subst hv
  case pins =>
    intro k
    rw [catalog_setFollower, catalog_onFollower]
    split <;> rfl
  case content => exact w.stock.content_list e.module (w.follower n).rule.folder
  case objects => exact w.stock.next_list e.module (w.follower n).rule.folder
  case nextSerial => rw [hc]; rfl
  case environment | files => rfl
  case memo | host => exact fun _ => rfl

end World

end ServiceRegistry
