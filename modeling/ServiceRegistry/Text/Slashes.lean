/-!
# Text with slashes

Names inside a module are texts whose parts are separated by `/`. This module cuts such texts after
the last slash (`afterLast`) and before the first character that is no slash (`dropLeading`).
`asFolder` brings the name of a folder into its one written form: no leading slash and, unless it is
empty, one at the end (`Folder`). `folder_asFolder` says that it always does, and
`asFolder_of_folder` that it leaves a written form alone.
-/

namespace ServiceRegistry.Slashes

/-- The text from its first character on that is no slash. -/
def dropLeading (cs : List Char) : List Char := cs.dropWhile (· == '/')

/-- What follows the last slash; all of the text if it has none. -/
def afterLast (cs : List Char) : List Char := (cs.reverse.takeWhile (· != '/')).reverse

/-- Whether the last character is a slash. -/
def endsInSlash (cs : List Char) : Bool := cs.getLast? == some '/'

/-- The written form of a folder: no leading slash and, unless empty, a slash at the end. -/
def asFolder (cs : List Char) : List Char :=
  let rest := dropLeading cs
  if rest.isEmpty || endsInSlash rest then rest else rest ++ ['/']

/-- A text is the written form of a folder. -/
def Folder (cs : List Char) : Prop :=
  cs.head? ≠ some '/' ∧ (cs = [] ∨ endsInSlash cs = true)

instance (cs : List Char) : Decidable (Folder cs) := inferInstanceAs (Decidable (_ ∧ _))

/-- Without its leading slashes a text does not start with one. -/
theorem head?_dropLeading (cs : List Char) : (dropLeading cs).head? ≠ some '/' := by
  intro h
  have := List.head?_dropWhile_not (· == '/') cs
  simp only [dropLeading] at h
  rw [h] at this
  simp at this

/-- A text that does not start with a slash has none to drop. -/
theorem dropLeading_eq_self {cs : List Char} (h : cs.head? ≠ some '/') : dropLeading cs = cs := by
  cases cs with
  | nil => rfl
  | cons c rest =>
    have : c ≠ '/' := fun hc => h (by simp [hc])
    simp [dropLeading, this]

/-- What `asFolder` answers is a written form of a folder. -/
theorem folder_asFolder (cs : List Char) : Folder (asFolder cs) := by
  have hd := head?_dropLeading cs
  unfold asFolder
  simp only
  split
  · rename_i h
    exact ⟨hd, by simpa using h⟩
  · rename_i h
    refine ⟨?_, .inr (by simp [endsInSlash])⟩
    cases hr : dropLeading cs with
    | nil => simp [hr] at h
    | cons c rest => simpa [hr] using hd

/-- A written form of a folder stands for itself. -/
theorem asFolder_of_folder {cs : List Char} (h : Folder cs) : asFolder cs = cs := by
  simp only [asFolder, dropLeading_eq_self h.1]
  rcases h.2 with rfl | h2
  · rfl
  · simp [h2]

/-- What follows a slash and has none itself follows the last slash. -/
theorem afterLast_append {b : List Char} (hb : '/' ∉ b) (a : List Char) :
    afterLast (a ++ '/' :: b) = b := by
  have htake : (b.reverse ++ '/' :: a.reverse).takeWhile (· != '/') = b.reverse := by
    rw [List.takeWhile_append_of_pos fun c hc => ?_]
    · simp
    · have : c ≠ '/' := fun h => hb (h ▸ List.mem_reverse.1 hc)
      simpa using this
  simp [afterLast, htake]

/-- A text that is not empty decides whether it ends in a slash, whatever stands before it. -/
theorem endsInSlash_append {b : List Char} (hb : b ≠ []) (a : List Char) :
    endsInSlash (a ++ b) = endsInSlash b := by
  unfold endsInSlash
  rw [List.getLast?_append, List.getLast?_eq_some_getLast hb, Option.some_or]

/-- A text without slashes does not end in one. -/
theorem endsInSlash_eq_false {b : List Char} (hb : '/' ∉ b) : endsInSlash b = false := by
  unfold endsInSlash
  rw [beq_eq_false_iff_ne]
  exact fun h => hb (List.mem_of_getLast? h)

end ServiceRegistry.Slashes
