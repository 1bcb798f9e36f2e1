import ServiceRegistry.World.Basic

/-!
# Listing and scanning modules

A module that is asked for a listing first prepares its answer; what is done at the signal can no
longer change it. A scan makes a new contribution of the listing, with providers that nobody has
resolved yet.
-/

namespace ServiceRegistry.World

/-- Asks a module for the entries directly in a folder. -/
def list (m : Module) (folder : String) : Work (Except Fault (List Location)) := do
  let listing ← Interruptible.act (onStock (·.list m folder))
  Interruptible.interrupt (.listed m)
  return listing

/-- Numbers the providers of a contribution. -/
def contribute (rule : ScanRule) (m : Module) (listing : Except Fault (List Location))
    (w : World) : Contribution × World :=
  let c := rule.contribution m w.nextSerial listing
  (c, { w with nextSerial := w.nextSerial + c.providers.length })

section Contribute

variable (rule : ScanRule) (m : Module) (listing : Except Fault (List Location)) (w : World)
  (k : Nat)

/-- A contribution is what the rule makes of the listing, numbered from the next number on. -/
@[simp] theorem fst_contribute :
    (contribute rule m listing w).1 = rule.contribution m w.nextSerial listing := rfl

/-- Making a contribution leaves hosts alone. -/
@[simp] theorem host_contribute :
    (contribute rule m listing w).2.host k = w.host k := rfl

/-- Making a contribution leaves followers alone. -/
@[simp] theorem follower_contribute :
    (contribute rule m listing w).2.follower k = w.follower k := rfl

/-- Making a contribution leaves catalogs alone. -/
@[simp] theorem catalog_contribute :
    (contribute rule m listing w).2.catalog k = w.catalog k := rfl

/-- Making a contribution leaves the stock alone. -/
@[simp] theorem stock_contribute :
    (contribute rule m listing w).2.stock = w.stock := rfl

/-- Making a contribution uses up a number for each provider. -/
@[simp] theorem nextSerial_contribute :
    (contribute rule m listing w).2.nextSerial =
      w.nextSerial + (rule.contribution m w.nextSerial listing).providers.length := rfl

end Contribute

/-- Makes a provider. -/
def makeProvider (make : Nat → Provider) (w : World) : Provider × World :=
  (make w.nextSerial, { w with nextSerial := w.nextSerial + 1 })

/-- What a module contributes now. -/
def scan (rule : ScanRule) (m : Module) : Work Contribution := do
  let listing ← list m rule.folder
  Interruptible.act (contribute rule m listing)

end ServiceRegistry.World
