import ServiceRegistry.Proofs.Stage
import ServiceRegistry.World.Delivery

/-!
# What delivering leaves of hosts

A follower that hears of an event changes hosts only by ending its subscription: it may be that
nobody has held it but the operation that it was about. So whatever a host's list, its record of
events and its count of numbers say is the same after an event has been delivered, unless others
have changed it at the signals (`World.madeOf_delivery`). Publishing changes a bus besides.
-/

namespace ServiceRegistry.World

open Interruptible

/-- Two worlds whose hosts differ in nothing but who listens to them. -/
def SameButListeners (w w' : World) : Prop :=
  ∀ h, ∃ listeners, w'.host h = { w.host h with bus := { (w.host h).bus with listeners } }

/-- Two worlds whose hosts differ in nothing but their buses. -/
def SameButBuses (w w' : World) : Prop := ∀ h, ∃ bus, w'.host h = { w.host h with bus }

variable {w w' : World}

/-- Worlds with the same hosts differ in no more than who listens. -/
theorem SameButListeners.of_host (h : ∀ k, w'.host k = w.host k) : SameButListeners w w' :=
  fun k => ⟨_, h k⟩

/-- Worlds that differ in who listens have the same lists. -/
theorem SameButListeners.buses (h : SameButListeners w w') : SameButBuses w w' := fun k =>
  (h k).imp' (fun listeners => { (w.host k).bus with listeners }) fun _ hk => hk

/-- A follower that stops changes of the hosts only who listens. -/
theorem sameButListeners_stopFollower (w : World) (k : Nat) :
    SameButListeners w (w.stopFollower k) := by
  intro h
  rw [host_stopFollower, host_endSubscription]
  split
  · exact ⟨_, rfl⟩
  · split <;> exact ⟨_, rfl⟩

/-- To let go of a follower may be to stop it. -/
theorem sameButListeners_release (w : World) (k : Nat) : SameButListeners w (w.release k) := by
  unfold release
  dsimp only
  split
  · exact sameButListeners_stopFollower (w.setFollower k _) k
  · exact .of_host fun _ => rfl

/-- An event that is recorded changes no more of the hosts than their buses. -/
theorem sameButBuses_record (k : Nat) (e : Event) (w : World) :
    SameButBuses w (record k e w).2 := by
  intro h
  rw [host_record]
  split
  · rename_i hk
    exact hk ▸ ⟨_, rfl⟩
  · exact ⟨_, rfl⟩

/-- A scan changes nothing of the hosts. -/
theorem madeOf_scan (rule : ScanRule) (m : Module) : (scan rule m).MadeOf SameButListeners := by
  have hasked : (act (onStock (·.list m rule.folder)) : Work _).MadeOf SameButListeners :=
    madeOf_act fun _ => .single (.of_host fun _ => rfl)
  have hlist : (World.list m rule.folder).MadeOf SameButListeners :=
    hasked.bind fun listing => (madeOf_interrupt _).bind fun _ => madeOf_pure listing
  exact hlist.bind fun _ => madeOf_act fun _ => .single (.of_host fun _ => rfl)

/-- What a follower tracks and reports changes nothing of the hosts. -/
theorem madeOf_onFollower (k : Nat) (f : Follower → Table → Follower × Table) (i : Signal) :
    (change (·.onFollower k f) >>= fun _ => interrupt i).MadeOf SameButListeners :=
  (madeOf_change fun _ => .single (.of_host fun _ => rfl)).bind fun _ => madeOf_interrupt i

/-- What a follower hears changes of the hosts no more than who listens, for it may stop when it is
let go of. -/
theorem madeOf_hear (k : Nat) (e : Event) : (hear k e).MadeOf SameButListeners := by
  have harrival : (hearArrival k e.module).MadeOf SameButListeners := by
    refine (madeOf_ask _).bind fun rule => (madeOf_scan rule _).bind fun c => ?_
    exact (madeOf_ask _).bind fun running => .ite (madeOf_onFollower k _ _) (madeOf_pure ())
  have hheld : (holding k (hearArrival k e.module)).MadeOf SameButListeners := by
    refine (madeOf_change fun _ => .single (.of_host fun _ => rfl)).bind fun _ =>
      harrival.bind fun _ => ?_
    exact (madeOf_change fun w => .single (sameButListeners_release w k)).bind fun _ =>
      madeOf_pure ()
  refine (madeOf_ask _).bind fun holders => .ite (madeOf_pure ()) (.ite hheld ?_)
  exact .ite (madeOf_onFollower k _ _) (madeOf_pure ())

/-- Delivering an event changes hosts at most in who listens to them. -/
theorem madeOf_delivery (e : Event) (audience : List Listener) :
    (each (deliver e) audience).MadeOf SameButListeners := by
  refine madeOf_each (fun l => ?_) audience
  cases l with
  | recorder r => exact madeOf_interrupt _
  | follower k => exact madeOf_hear k e

/-- Publishing an event changes hosts at most in their buses. -/
theorem madeOf_publish (k : Nat) (e : Event) : (publish k e).MadeOf SameButBuses :=
  (madeOf_act fun w => .single (sameButBuses_record k e w)).bind fun audience =>
    (madeOf_delivery e audience).mono fun _ _ h => h.buses

end ServiceRegistry.World
