import ServiceRegistry.World.Following

/-!
# Delivering events

Publishing records the event and then delivers it to the listeners of that moment, one after
another. Each may act, and what it publishes is delivered in full before the next one hears of the
first event.
-/

namespace ServiceRegistry.World

/-- Delivers an event to one listener. -/
def deliver (e : Event) : Listener → Work Unit
  | .recorder n => Interruptible.interrupt (.heard n e)
  | .follower n => hear n e

/-- Records an event; answers who is to hear of it. -/
def record (host : Nat) (e : Event) (w : World) : List Listener × World :=
  let bus := (w.host host).bus.record e
  (bus.audience, w.setBus host bus)

section Record

variable (h k : Nat) (e : Event) (w : World)

/-- Recording an event answers with those who are to hear it. -/
@[simp] theorem fst_record : (record h e w).1 = (w.host h).bus.audience := rfl

/-- Recording an event changes the bus of one host. -/
@[simp] theorem host_record : (record h e w).2.host k =
    if k = h then { w.host h with bus := (w.host h).bus.record e } else w.host k :=
  host_setBus w h k _

/-- Recording an event leaves followers alone. -/
@[simp] theorem follower_record : (record h e w).2.follower k = w.follower k := rfl

/-- Recording an event leaves catalogs alone. -/
@[simp] theorem catalog_record : (record h e w).2.catalog k = w.catalog k := rfl

/-- Recording an event leaves the stock alone. -/
@[simp] theorem stock_record : (record h e w).2.stock = w.stock := rfl

/-- Recording an event uses up no numbers. -/
@[simp] theorem nextSerial_record : (record h e w).2.nextSerial = w.nextSerial := rfl

end Record

/-- Publishes an event on a host's bus. -/
def publish (host : Nat) (e : Event) : Work Unit := do
  let audience ← Interruptible.act (record host e)
  Interruptible.each (deliver e) audience

end ServiceRegistry.World
