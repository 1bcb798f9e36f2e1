import ServiceRegistry.Text.Decimal

/-!
# Module identifiers

A module is known by a 64-bit number that its host gives out. Numbers may be used again once their
module is gone, so an identifier alone does not single out a module object.
-/

namespace ServiceRegistry

/-- The number by which a module is known. -/
structure ModuleId where
  word : UInt64
deriving DecidableEq, Inhabited

namespace ModuleId

instance : Ord ModuleId := ⟨fun a b => compare a.word b.word⟩

instance : Std.TransOrd ModuleId where
  eq_swap := fun {a b} => by
    change compare a.word b.word = (compare b.word a.word).swap
    exact Std.OrientedCmp.eq_swap
  isLE_trans := fun {a b c} (h : (compare a.word b.word).isLE)
      (h' : (compare b.word c.word).isLE) => by
    change (compare a.word c.word).isLE
    exact Std.TransCmp.isLE_trans h h'

instance : Std.LawfulEqOrd ModuleId where
  compare_self := fun {a} => by
    change compare a.word a.word = .eq
    exact Std.ReflCmp.compare_self
  eq_of_compare := fun {a b} (h : compare a.word b.word = .eq) => by
    cases a; cases b; cases Std.LawfulEqCmp.eq_of_compare h; rfl

/-- The decimal text of the number. -/
def text (id : ModuleId) : String := Decimal.text id.word.toNat

/-- The next number; after the largest comes zero. -/
def next (id : ModuleId) : ModuleId := ⟨id.word + 1⟩

/-- The larger of two numbers. -/
def max (a b : ModuleId) : ModuleId := if a.word ≤ b.word then b else a

end ModuleId

end ServiceRegistry
