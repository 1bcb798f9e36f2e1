import ServiceRegistry.World.Scanning

/-!
# Following a host

A follower subscribes to a host first and takes up the listed modules then, so that no module is
missed in between. Listed modules of which it has heard by event meanwhile are left alone: the
event says more than the list. A module is scanned before anything is registered for it; after the
scan the follower looks again whether it is still running.

A follower exists as long as someone holds it. Operations in progress hold it too, so letting go of
one that is at work stops it when the work is done.
-/

namespace ServiceRegistry

/-- A host, and who watches when its list is taken. -/
structure HostHandle where
  host : Nat
  watch : Option Nat := none
deriving DecidableEq

namespace World

/-- The modules of a host, in its order. -/
def modules (handle : HostHandle) : Work (List Hosted) := do
  let hosted ← Interruptible.ask fun w => (w.host handle.host).modules
  match handle.watch with
  | some watch => Interruptible.interrupt (.surveyed watch)
  | none => pure ()
  return hosted

/-- Ends a follower's subscription. -/
def endSubscription (w : World) (n : Nat) : World :=
  match (w.follower n).subscription with
  | none => w
  | some s =>
    let w := w.setBus s.host ((w.host s.host).bus.unsubscribe s.listener)
    w.setFollower n { w.follower n with subscription := none }

/-- Stops a follower: it hears no further events, and what it has registered is removed. -/
def stopFollower (w : World) (n : Nat) : World := (w.endSubscription n).onFollower n Follower.halt

/-- Holds a follower once more. -/
def hold (w : World) (n : Nat) : World :=
  let f := w.follower n
  w.setFollower n { f with holders := f.holders + 1 }

/-- Holds a follower once less; a follower that nobody holds is stopped. -/
def release (w : World) (n : Nat) : World :=
  let f := w.follower n
  let w := w.setFollower n { f with holders := f.holders - 1 }
  if f.holders = 1 then w.stopFollower n else w

/-- Performs an operation while holding a follower. -/
def holding {α : Type} (n : Nat) (work : Work α) : Work α := do
  Interruptible.change (·.hold n)
  let a ← work
  Interruptible.change (·.release n)
  return a

/-- Registers what a module contributes, in a way that the follower has for it, and reports it. -/
def takeUp (n : Nat) (m : Module) (f : Follower → Table → Follower × Table) : Work Unit := do
  Interruptible.change (·.onFollower n f)
  Interruptible.interrupt (.reported (.tookUp n m))

/-- Takes up a module that has arrived, by a direct request. -/
def arrived (n : Nat) (m : Module) : Work Unit := do
  let rule ← Interruptible.ask fun w => (w.follower n).rule
  let c ← scan rule m
  takeUp n m fun f t => f.arrive t c

/-- Takes up a module that has arrived, by an event: not if the follower has stopped meanwhile. -/
def hearArrival (n : Nat) (m : Module) : Work Unit := do
  let rule ← Interruptible.ask fun w => (w.follower n).rule
  let c ← scan rule m
  let running ← Interruptible.ask fun w => (w.follower n).running
  if running then takeUp n m fun f t => f.arrive t c else pure ()

/-- Lets go of a module that has departed. -/
def departed (n : Nat) (id : ModuleId) : Work Unit := do
  Interruptible.change (·.onFollower n fun f t => f.depart t id)
  Interruptible.interrupt (.reported (.letGo n id))

/-- Acts on an event, if the follower still exists. -/
def hear (n : Nat) (e : Event) : Work Unit := do
  let holders ← Interruptible.ask fun w => (w.follower n).holders
  if holders = 0 then pure ()
  else if e.kind.isArrival then holding n (hearArrival n e.module)
  else if e.kind.isDeparture then departed n e.module.id
  else pure ()

/-- Takes up a module from the list of a host, unless the follower has stopped or has heard of the
module meanwhile. -/
def replay (n : Nat) (m : Module) : Work Unit := do
  let rule ← Interruptible.ask fun w => (w.follower n).rule
  let c ← scan rule m
  let wanted ← Interruptible.ask fun w => (w.follower n).running && !(w.follower n).isMarked m.id
  if wanted then takeUp n m fun f t => f.adopt t c else pure ()

/-- Takes up a module from the list of a host if it is in one of the states for that. -/
def replayHosted (n : Nat) (hosted : Hosted) : Work Unit := do
  let states ← Interruptible.ask fun w => (w.follower n).startupStates
  if hosted.state ∈ states then replay n hosted.module else pure ()

/-- Begins to run and subscribes to a host. -/
def subscribeFollower (n host : Nat) (w : World) : World :=
  let w := w.setFollower n (w.follower n).begin
  let (listener, bus) := (w.host host).bus.subscribe (.follower n)
  let w := w.setBus host bus
  w.setFollower n { w.follower n with subscription := some ⟨host, listener⟩ }

/-- The error of a follower that is asked to start while it runs. -/
def alreadyRunning : Error := .invalidInput "module tracker is already running"

/-- Starts a follower on a host. -/
def startFollower (n : Nat) (handle : HostHandle) : Work (Except Error Unit) := do
  let subscription ← Interruptible.ask fun w => (w.follower n).subscription
  if subscription.isSome then return .error alreadyRunning
  else
    Interruptible.change (subscribeFollower n handle.host)
    let hosted ← modules handle
    Interruptible.each (replayHosted n) hosted
    Interruptible.change fun w => w.setFollower n (w.follower n).settle
    return .ok ()

/-! What each change of who follows leaves to be read. -/

section Reading

variable (w : World) (n k : Nat)

/-- Taking hold of a follower leaves hosts alone. -/
@[simp] theorem host_hold : (w.hold n).host k = w.host k := rfl

/-- A follower that is held has one more who holds it. -/
@[simp] theorem follower_hold : (w.hold n).follower k =
    if k = n then { w.follower n with holders := (w.follower n).holders + 1 }
    else w.follower k :=
  follower_setFollower w n k _

/-- Taking hold of a follower leaves catalogs alone. -/
@[simp] theorem catalog_hold : (w.hold n).catalog k = w.catalog k := rfl

/-- Taking hold of a follower leaves the stock alone. -/
@[simp] theorem stock_hold : (w.hold n).stock = w.stock := rfl

/-- Taking hold of a follower uses up no numbers. -/
@[simp] theorem nextSerial_hold : (w.hold n).nextSerial = w.nextSerial := rfl

/-- Ending a subscription takes the listener off the bus where it was. -/
theorem host_endSubscription : (w.endSubscription n).host k =
    match (w.follower n).subscription with
    | none => w.host k
    | some s =>
      if k = s.host then { w.host k with bus := (w.host k).bus.unsubscribe s.listener }
      else w.host k := by
  unfold endSubscription
  split
  · rfl
  · rw [host_setFollower, host_setBus]
    split
    · rename_i hk
      rw [hk]
    · rfl

/-- Ending a subscription leaves lists of modules alone. -/
@[simp] theorem modules_endSubscription :
    ((w.endSubscription n).host k).modules = (w.host k).modules := by
  rw [host_endSubscription]
  split
  · rfl
  · split <;> rfl

/-- A follower whose subscription has ended has none. -/
@[simp] theorem follower_endSubscription : (w.endSubscription n).follower k =
    if k = n then { w.follower n with subscription := none } else w.follower k := by
  unfold endSubscription
  split
  · rename_i hnone
    split
    · rename_i hk
      rw [hk, ← hnone]
    · rfl
  · exact follower_setFollower _ n k _

/-- Ending a subscription leaves catalogs alone. -/
@[simp] theorem catalog_endSubscription : (w.endSubscription n).catalog k = w.catalog k := by
  unfold endSubscription
  split <;> rfl

/-- Ending a subscription leaves the stock alone. -/
@[simp] theorem stock_endSubscription : (w.endSubscription n).stock = w.stock := by
  unfold endSubscription
  split <;> rfl

/-- Ending a subscription uses up no numbers. -/
@[simp] theorem nextSerial_endSubscription :
    (w.endSubscription n).nextSerial = w.nextSerial := by
  unfold endSubscription
  split <;> rfl

/-- Unless the last one lets go, a follower has one less who holds it, and nothing else happens. -/
theorem release_of_held (h : (w.follower n).holders ≠ 1) : w.release n =
    w.setFollower n { w.follower n with holders := (w.follower n).holders - 1 } := by
  unfold release
  exact if_neg h

/-- A subscription puts a follower on the bus of one host. -/
@[simp] theorem host_subscribeFollower (h : Nat) : (w.subscribeFollower n h).host k =
    if k = h then { w.host h with bus := ((w.host h).bus.subscribe (.follower n)).2 }
    else w.host k := by
  simp [subscribeFollower]

/-- A follower that subscribes begins to run and keeps the number of its listener. -/
@[simp] theorem follower_subscribeFollower (h : Nat) : (w.subscribeFollower n h).follower k =
    if k = n then
      { (w.follower n).begin with subscription := some ⟨h, ⟨(w.host h).bus.nextListener⟩⟩ }
    else w.follower k := by
  simp only [subscribeFollower, follower_setFollower, follower_setBus, if_pos]
  split
  · rfl
  · rfl

/-- A subscription leaves lists of modules alone. -/
@[simp] theorem modules_subscribeFollower (h : Nat) :
    ((w.subscribeFollower n h).host k).modules = (w.host k).modules := by
  rw [host_subscribeFollower]
  split
  · rename_i hk
    rw [hk]
  · rfl

/-- After its subscription a follower runs and has the number of its listener. -/
theorem follower_subscribeFollower_self (h : Nat) : (w.subscribeFollower n h).follower n =
    { (w.follower n).begin with subscription := some ⟨h, ⟨(w.host h).bus.nextListener⟩⟩ } := by
  rw [follower_subscribeFollower, if_pos rfl]

/-- A subscription leaves catalogs alone. -/
@[simp] theorem catalog_subscribeFollower (h : Nat) :
    (w.subscribeFollower n h).catalog k = w.catalog k := rfl

/-- A subscription leaves the stock alone. -/
@[simp] theorem stock_subscribeFollower (h : Nat) :
    (w.subscribeFollower n h).stock = w.stock := rfl

/-- Stopping a follower does to hosts what ending its subscription does. -/
@[simp] theorem host_stopFollower :
    (w.stopFollower n).host k = (w.endSubscription n).host k := rfl

/-- A follower that was stopped does not run and has stored nothing. -/
@[simp] theorem follower_stopFollower : (w.stopFollower n).follower k =
    if k = n then
      { w.follower n with running := false, marks := none, groups := .empty, subscription := none }
    else w.follower k := by
  simp only [stopFollower, follower_onFollower, follower_endSubscription, if_pos]
  split <;> rfl

/-- Stopping a follower takes what it has stored out of its catalog. -/
@[simp] theorem catalog_stopFollower : (w.stopFollower n).catalog k =
    if k = (w.follower n).catalog then
      { w.catalog k with
        table := ((w.follower n).halt (w.catalog k).table).2 }
    else w.catalog k := by
  simp only [stopFollower, catalog_onFollower, follower_endSubscription, catalog_endSubscription,
    if_pos]
  split
  · rename_i hk
    rw [hk]
    rfl
  · rfl

/-- Stopping a follower leaves the stock alone. -/
@[simp] theorem stock_stopFollower : (w.stopFollower n).stock = w.stock := by
  simp [stopFollower]

/-- Stopping a follower uses up no numbers. -/
@[simp] theorem nextSerial_stopFollower : (w.stopFollower n).nextSerial = w.nextSerial := by
  simp [stopFollower]

end Reading

end World

end ServiceRegistry
