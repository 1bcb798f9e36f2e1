/-!
# Cutting text at a character

`splitFirst` cuts a text at the first place where a character stands; the character itself goes with
neither part.
-/

namespace ServiceRegistry.Text

/-- The parts before and after the first place where a character stands, if it stands anywhere. -/
def splitFirst (sep : Char) : List Char → Option (List Char × List Char)
  | [] => none
  | c :: rest =>
    if c = sep then some ([], rest)
    else (splitFirst sep rest).map fun p => (c :: p.1, p.2)

/-- The character separates the two parts and does not stand in the first. -/
theorem splitFirst_eq_some_iff {sep : Char} {cs a b : List Char} :
    splitFirst sep cs = some (a, b) ↔ cs = a ++ sep :: b ∧ sep ∉ a := by
  induction cs generalizing a with
  | nil => simp [splitFirst]
  | cons c rest ih =>
    unfold splitFirst
    split
    · subst_vars
      cases a <;> simp_all [eq_comm]
    · rename_i h
      cases a with
      | nil => simp [h]
      | cons d a =>
        simp only [Option.map_eq_some_iff, Prod.exists, Prod.mk.injEq, List.cons.injEq]
        constructor
        · rintro ⟨a', b', hs, ⟨rfl, rfl⟩, rfl⟩
          obtain ⟨rfl, hn⟩ := ih.1 hs
          exact ⟨by simp, by simp [hn, Ne.symm h]⟩
        · rintro ⟨heq, hn⟩
          simp only [List.cons_append, List.cons.injEq] at heq
          exact ⟨a, b, ih.2 ⟨heq.2, by simp_all⟩, ⟨heq.1, rfl⟩, rfl⟩

/-- A text in which the character does not stand is not cut. -/
theorem splitFirst_eq_none_iff {sep : Char} {cs : List Char} :
    splitFirst sep cs = none ↔ sep ∉ cs := by
  induction cs with
  | nil => simp [splitFirst]
  | cons c rest ih =>
    unfold splitFirst
    split
    · subst_vars; simp
    · rename_i h; simp [ih, Ne.symm h]

end ServiceRegistry.Text
