/-!
# Numbered objects

A `Store` holds the present state of objects that are told apart by consecutive numbers. A number
that was never given out has the default state, so that reading is total; `get_set` is all that
there is to know about writing.
-/

namespace ServiceRegistry

/-- The states of numbered objects. -/
structure Store (α : Type) where
  items : List α := []

namespace Store

variable {α : Type} [Inhabited α]

instance : Inhabited (Store α) := ⟨{}⟩

/-- The state of an object. -/
def get (s : Store α) (n : Nat) : α := s.items.getD n default

/-- Changes the state of an object. -/
def set (s : Store α) (n : Nat) (a : α) : Store α :=
  if n < s.items.length then ⟨s.items.set n a⟩
  else ⟨s.items ++ List.replicate (n - s.items.length) default ++ [a]⟩

/-- Changes the state of an object by a function. -/
def modify (s : Store α) (n : Nat) (f : α → α) : Store α := s.set n (f (s.get n))

/-- The number for the next object. -/
def next (s : Store α) : Nat := s.items.length

/-- Reading an object that was just written gives what was written, and others are as before. -/
theorem get_set (s : Store α) (n m : Nat) (a : α) :
    (s.set n a).get m = if m = n then a else s.get m := by
  simp only [get, set, List.getD_eq_getElem?_getD]
  split
  · rename_i h
    rw [List.getElem?_set]
    by_cases hm : m = n
    · subst hm; simp [h]
    · simp [hm, Ne.symm hm]
  · rename_i h
    by_cases hm : m = n
    · subst hm
      have : (s.items ++ List.replicate (m - s.items.length) default).length = m := by
        simp only [List.length_append, List.length_replicate]; omega
      rw [if_pos rfl, List.getElem?_append_right (by omega), this]
      simp
    · rw [if_neg hm]
      by_cases hlt : m < s.items.length
      · rw [List.append_assoc, List.getElem?_append_left hlt]
      · have : s.items[m]? = none := List.getElem?_eq_none (by omega)
        rw [this]
        by_cases hmn : m < n
        · rw [List.getElem?_append_left (by simp; omega),
            List.getElem?_append_right (by omega)]
          simp [List.getElem?_replicate]
          split <;> simp
        · rw [List.getElem?_eq_none]
          simp; omega

/-- What has just been stored is there. -/
@[simp] theorem get_set_self (s : Store α) (n : Nat) (a : α) : (s.set n a).get n = a := by
  simp [get_set]

end Store

end ServiceRegistry
