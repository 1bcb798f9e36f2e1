import ServiceRegistry.Json.Printer
import ServiceRegistry.Json.Reader
import ServiceRegistry.Proofs.Decimals

/-!
# Reading what was written as JSON

The text of a document says the document (`Json.read?_compact`). This is for documents that are
`Plain`: their numbers are whole, and no string in them spells half of a character. It needs that
each part of a text is read up to where it ends, whatever follows: a string ends at the first quote
that is not escaped (`readString_append`), a number at the first character that cannot continue it
(`readNumber_append`), and an array or object at its bracket or brace. The fuel that the reader
starts with is twice what it needs for one character.
-/

namespace ServiceRegistry.Json

variable {j : Json} {items : List Json} {members : List (String × Json)} {rest cs : List Char}
  {c : Char} {fuel n : Nat} {negative : Bool}

/-- A document whose text says all of it: nothing in it is malformed, and its numbers are whole. -/
inductive Plain : Json → Prop where
  | null : Plain .null
  | bool (b : Bool) : Plain (.bool b)
  | whole (negative : Bool) (magnitude : Nat) : Plain (.number (.whole negative magnitude))
  | string (s : String) : Plain (.string s)
  | array {items : List Json} (h : ∀ item ∈ items, Plain item) : Plain (.array items)
  | object {members : List (String × Json)} (h : ∀ m ∈ members, Plain m.2) :
    Plain (.object members)

/-- A character that is no blank is not skipped. -/
theorem skipBlank_cons (hc : isBlank c = false) : skipBlank (c :: cs) = c :: cs := by
  simp [skipBlank, hc]

/-! ## Strings -/

/-- A hexadecimal digit is read as the number for which it was written. -/
theorem hexDigit?_hexChar : ∀ n < 16, hexDigit? (hexChar n) = some n := by decide

/-- The four digits of a control character are read as its number. -/
theorem hexWord?_of_lt (hn : n < 0x20) :
    hexWord? '0' '0' (hexChar (n / 16)) (hexChar (n % 16)) = some n := by
  have hzero : hexDigit? '0' = some 0 := by decide
  have hvalue : n / 16 * 16 + n % 16 = n := by omega
  simp [hexWord?, hzero, hexDigit?_hexChar (n / 16) (by omega),
    hexDigit?_hexChar (n % 16) (by omega), hvalue]

/-- The number of a control character stands for that character and is no half of a pair. -/
theorem Piece.ofCode_of_lt (hn : n < 0x20) : Piece.ofCode n = .char (Char.ofNat n) :=
  if_neg (by omega)

/-- A piece is put in front of those that are read behind it. -/
def before (piece : Piece) (p : List Piece × List Char) : List Piece × List Char :=
  (piece :: p.1, p.2)

/-- A short escape is read as the character for which it stands. -/
theorem readPieces_escaped {e : Char} (he : escaped? e = some c) :
    readPieces ('\\' :: e :: rest) = (readPieces rest).map (before (.char c)) := by
  -- behind a backslash, this letter alone announces four digits
  have hu : e ≠ 'u' := by
    rintro rfl
    cases he
  cases h : readPieces rest <;> simp [readPieces, he, h, hu, before]

/-- A long escape of a control character is read as that character. -/
theorem readPieces_hex (rest : List Char) (hn : n < 0x20) :
    readPieces ('\\' :: 'u' :: '0' :: '0' :: hexChar (n / 16) :: hexChar (n % 16) :: rest) =
      (readPieces rest).map (before (.char (Char.ofNat n))) := by
  cases h : readPieces rest <;>
    simp [readPieces, hexWord?_of_lt hn, Piece.ofCode_of_lt hn, h, before]

/-- A character that needs no escape is read as itself. -/
theorem readPieces_cons (hquote : c ≠ '"') (hbackslash : c ≠ '\\') (hc : ¬ c.toNat < 0x20) :
    readPieces (c :: rest) = (readPieces rest).map (before (.char c)) := by
  rw [readPieces.eq_def]
  cases h : readPieces rest <;> simp [hbackslash, hc, h, before]

/-- A character is read from the way in which it stands in a string. -/
theorem readPieces_escapeChar (c : Char) (rest : List Char) :
    readPieces (escapeChar c ++ rest) = (readPieces rest).map (before (.char c)) := by
  unfold escapeChar
  split
  case h_8 hquote hbackslash _ _ _ _ _ =>
    split
    · rename_i hc
      have hread := readPieces_hex rest hc
      rwa [Char.ofNat_toNat] at hread
    · rename_i hc
      exact readPieces_cons hquote hbackslash hc
  all_goals exact readPieces_escaped rfl

/-- An escaped text is read back up to its closing quote. -/
theorem readPieces_append (text rest : List Char) :
    readPieces (text.flatMap escapeChar ++ '"' :: rest) = some (text.map .char, rest) := by
  induction text with
  | nil => simp [readPieces]
  | cons c text ih =>
    rw [List.flatMap_cons, List.append_assoc, readPieces_escapeChar, ih]
    rfl

/-- Characters without halves of pairs are joined to their text. -/
theorem joinPieces_map_char (text : List Char) : joinPieces (text.map .char) = some text := by
  induction text with
  | nil => rfl
  | cons c text ih => simp [joinPieces, ih]

/-- A string is read up to the quote that ends it. -/
theorem readString_append (s : String) (rest : List Char) :
    readString (s.toList.flatMap escapeChar ++ '"' :: rest) = some (some s, rest) := by
  rw [readString, readPieces_append]
  simp [joinPieces_map_char]

/-! ## Numbers -/

/-- A text does not continue a number that stands before it. -/
def EndsNumber (rest : List Char) : Prop :=
  ∀ c ∈ rest.head?, c.isDigit = false ∧ c ≠ '.' ∧ c ≠ 'e' ∧ c ≠ 'E'

/-- A number may stand at the end of the text. -/
theorem endsNumber_nil : EndsNumber [] := nofun

/-- No fraction is read where a number ends. -/
theorem EndsNumber.readFraction (h : EndsNumber rest) : readFraction rest = some (none, rest) := by
  cases rest with
  | nil => rfl
  | cons c rest =>
    obtain ⟨-, hpoint, -⟩ := h c rfl
    simp [Json.readFraction, hpoint]

/-- No exponent is read where a number ends. -/
theorem EndsNumber.readExponent (h : EndsNumber rest) : readExponent rest = some (none, rest) := by
  cases rest with
  | nil => rfl
  | cons c rest =>
    obtain ⟨-, -, he, hE⟩ := h c rfl
    simp [Json.readExponent, he, hE]

/-- No digit stands where a number ends. -/
theorem EndsNumber.takeWhile (h : EndsNumber rest) : rest.takeWhile Char.isDigit = [] := by
  cases rest with
  | nil => rfl
  | cons c rest => simp [(h c rfl).1]

/-- Nothing is dropped with the digits where a number ends. -/
theorem EndsNumber.dropWhile (h : EndsNumber rest) : rest.dropWhile Char.isDigit = rest := by
  cases rest with
  | nil => rfl
  | cons c rest => simp [(h c rfl).1]

/-- A whole number is read back from its digits, up to where it ends. -/
theorem readUnsigned_append (negative : Bool) (n : Nat) (h : EndsNumber rest) :
    readUnsigned negative (Decimal.print n ++ rest) = some (.whole negative n, rest) := by
  have hdigits := fun c => Decimal.isDigit_of_mem_print (n := n) (c := c)
  have htake : (Decimal.print n ++ rest).takeWhile Char.isDigit = Decimal.print n := by
    rw [List.takeWhile_append_of_pos hdigits, h.takeWhile, List.append_nil]
  have hdrop : (Decimal.print n ++ rest).dropWhile Char.isDigit = rest := by
    rw [List.dropWhile_append_of_pos hdigits, h.dropWhile]
  have hvalue : Decimal.value (Decimal.print n) = n := by
    rw [Decimal.value_eq]
    exact Nat.ofDigitChars_ten_toDigits
  have hcanonical := Decimal.canonical_print n
  unfold readUnsigned
  rw [htake, hdrop]
  split
  · rename_i hnil
    exact absurd hnil hcanonical.ne_nil
  · rename_i hzero
    rw [hzero] at hcanonical
    cases hcanonical.no_leading_zero rfl
  · simp [h.readFraction, h.readExponent, hvalue]

/-- The text of a whole number starts with a digit or a minus sign. -/
theorem printNumber_eq_cons (negative : Bool) (n : Nat) :
    ∃ c cs, printNumber (.whole negative n) = c :: cs ∧ (c.isDigit = true ∨ c = '-') := by
  cases negative with
  | true => exact ⟨'-', Decimal.print n, rfl, .inr rfl⟩
  | false =>
    obtain ⟨c, cs, hcons⟩ := List.exists_cons_of_ne_nil (Decimal.print_ne_nil n)
    refine ⟨c, cs, hcons, .inl (Decimal.isDigit_of_mem_print (n := n) ?_)⟩
    rw [hcons]
    exact List.mem_cons_self

/-- A whole number is read up to its last digit. -/
theorem readNumber_append (negative : Bool) (n : Nat) (h : EndsNumber rest) :
    readNumber (printNumber (.whole negative n) ++ rest) = some (.whole negative n, rest) := by
  have hread := readUnsigned_append negative n h
  cases negative with
  | true => exact hread
  | false =>
    change readNumber (Decimal.print n ++ rest) = _
    unfold readNumber
    split
    · rename_i hminus
      obtain ⟨c, cs, hcons⟩ := List.exists_cons_of_ne_nil (Decimal.print_ne_nil n)
      have hdigit : c.isDigit = true :=
        Decimal.isDigit_of_mem_print (n := n) (hcons ▸ List.mem_cons_self)
      rw [hcons] at hminus
      rw [(List.cons.inj hminus).1] at hdigit
      exact absurd hdigit (by decide)
    · exact hread

/-- A character with which a number starts is neither of those with which other values do. -/
theorem ne_of_starts (hc : c.isDigit = true ∨ c = '-') {d : Char}
    (hd : d.isDigit = false ∧ d ≠ '-') : c ≠ d := by
  rintro rfl
  rcases hc with hc | hc
  · exact absurd hc (by simp [hd.1])
  · exact hd.2 hc

/-- A number does not start with a blank. -/
theorem isBlank_of_starts (hc : c.isDigit = true ∨ c = '-') : isBlank c = false := by
  simp [isBlank, ne_of_starts hc (d := ' ') (by decide), ne_of_starts hc (d := '\t') (by decide),
    ne_of_starts hc (d := '\n') (by decide), ne_of_starts hc (d := '\r') (by decide)]

/-- A value that starts like a number is read as one. -/
theorem readValue_of_starts (hc : c.isDigit = true ∨ c = '-') :
    readValue (fuel + 1) (c :: cs) = (readNumber (c :: cs)).map fun p => (.number p.1, p.2) := by
  rw [readValue, skipBlank_cons (isBlank_of_starts hc)]
  split
  case h_7 => rfl
  all_goals exact absurd (List.cons.inj ‹_›).1 (ne_of_starts hc (by decide))

/-! ## Documents -/

/-- The text of a document is read back, wherever a document can stand. -/
def ReadsBack (j : Json) : Prop :=
  ∀ fuel rest, 2 * (compact j).length ≤ fuel → EndsNumber rest →
    readValue fuel (compact j ++ rest) = some (j, rest)

/-- A written value starts with a character that is no blank and closes no list. -/
theorem Plain.compact_eq_cons (h : Plain j) :
    ∃ c cs, compact j = c :: cs ∧ isBlank c = false ∧ c ≠ ']' := by
  cases h with
  | null => exact ⟨_, _, rfl, by decide⟩
  | bool b => cases b <;> exact ⟨_, _, rfl, by decide⟩
  | whole negative n =>
    obtain ⟨c, cs, hcons, hc⟩ := printNumber_eq_cons negative n
    exact ⟨c, cs, by rw [compact, hcons], isBlank_of_starts hc, ne_of_starts hc (by decide)⟩
  | string s => exact ⟨_, _, rfl, by decide⟩
  | array h => exact ⟨_, _, rfl, by decide⟩
  | object h => exact ⟨_, _, rfl, by decide⟩

/-- Items of a list are written with commas between them. -/
theorem compactItems_cons_cons (item next : Json) (more : List Json) :
    compactItems (item :: next :: more) = compact item ++ ',' :: compactItems (next :: more) := by
  rw [compactItems]
  simp

/-- Members of an object are written with commas between them. -/
theorem compactMembers_cons_cons (key : String) (value : Json) (next : String × Json)
    (more : List (String × Json)) : compactMembers ((key, value) :: next :: more) =
      quote key ++ ':' :: (compact value ++ ',' :: compactMembers (next :: more)) := by
  rw [compactMembers]
  · simp
  · simp

/-- The items of an array are read up to the closing bracket. -/
theorem readItems_append (fuel : Nat) (rest : List Char) (hitems : ∀ item ∈ items, ReadsBack item)
    (hne : items ≠ []) (hfuel : 2 * (compactItems items).length < fuel) :
    readItems fuel (compactItems items ++ ']' :: rest) = some (items, rest) := by
  -- what is left of the fuel after a step is enough for the item, and for those behind its comma
  induction items generalizing fuel with
  | nil => exact absurd rfl hne
  | cons item more ih =>
    obtain ⟨fuel, rfl⟩ : ∃ f, fuel = f + 1 := ⟨fuel - 1, by omega⟩
    have hitem := hitems item List.mem_cons_self
    cases more with
    | nil =>
      have hread := hitem fuel (']' :: rest) (by simp only [compactItems] at hfuel; omega)
        (by simp [EndsNumber])
      simp [compactItems, readItems, hread, skipBlank, isBlank]
    | cons next more =>
      rw [compactItems_cons_cons] at hfuel ⊢
      rw [List.length_append, List.length_cons] at hfuel
      have hread := hitem fuel (',' :: (compactItems (next :: more) ++ ']' :: rest)) (by omega)
        (by simp [EndsNumber])
      have hmore := ih fuel (fun i hi => hitems i (List.mem_cons_of_mem _ hi))
        (List.cons_ne_nil _ _) (by omega)
      rw [List.append_assoc, List.cons_append, readItems, hread]
      simp [skipBlank, isBlank, hmore]

/-- The members of an object are read up to the closing brace. -/
theorem readMembers_append (fuel : Nat) (rest : List Char)
    (hmembers : ∀ m ∈ members, ReadsBack m.2) (hne : members ≠ [])
    (hfuel : 2 * (compactMembers members).length < fuel) :
    readMembers fuel (compactMembers members ++ '}' :: rest) =
      some (members.map fun m => (some m.1, m.2), rest) := by
  induction members generalizing fuel with
  | nil => exact absurd rfl hne
  | cons m more ih =>
    obtain ⟨key, value⟩ := m
    obtain ⟨fuel, rfl⟩ : ∃ f, fuel = f + 1 := ⟨fuel - 1, by omega⟩
    have hvalue : ReadsBack value := hmembers (key, value) List.mem_cons_self
    cases more with
    | nil =>
      have hread := hvalue fuel ('}' :: rest)
        (by simp only [compactMembers, List.length_append, List.length_cons] at hfuel; omega)
        (by simp [EndsNumber])
      simp [compactMembers, readMembers, quote, skipBlank, isBlank, readString_append, hread]
    | cons next more =>
      rw [compactMembers_cons_cons] at hfuel ⊢
      simp only [List.length_append, List.length_cons] at hfuel
      have hread := hvalue fuel (',' :: (compactMembers (next :: more) ++ '}' :: rest)) (by omega)
        (by simp [EndsNumber])
      have hmore := ih fuel (fun m hm => hmembers m (List.mem_cons_of_mem _ hm))
        (List.cons_ne_nil _ _) (by omega)
      simp [readMembers, quote, skipBlank, isBlank, readString_append, hread, hmore]

/-- An object whose keys are all texts consists of all its members. -/
theorem ofMembers_map_some (members : List (String × Json)) :
    ofMembers (members.map fun m => (some m.1, m.2)) = .object members := by
  have hmembers : (members.map fun m => (some m.1, m.2)).mapM
      (fun m : Option String × Json => m.1.map fun key => (key, m.2)) = some members := by
    induction members with
    | nil => rfl
    | cons m more ih => simp [ih]
  rw [ofMembers, hmembers]

/-- The text of a document is not empty, so there is fuel for a first step. -/
theorem Plain.readsBack_of_succ (h : Plain j) (hread : ∀ fuel rest,
    2 * (compact j).length ≤ fuel + 1 → EndsNumber rest →
      readValue (fuel + 1) (compact j ++ rest) = some (j, rest)) : ReadsBack j := by
  intro fuel rest hfuel hrest
  obtain ⟨c, cs, hcons, -⟩ := h.compact_eq_cons
  have hlength : 0 < (compact j).length := by simp [hcons]
  obtain ⟨fuel, rfl⟩ : ∃ f, fuel = f + 1 := ⟨fuel - 1, by omega⟩
  exact hread fuel rest hfuel hrest

/-- A list is read back if its items are. -/
theorem readsBack_array (h : ∀ item ∈ items, Plain item) (hitems : ∀ item ∈ items, ReadsBack item) :
    ReadsBack (.array items) := by
  refine (Plain.array h).readsBack_of_succ fun fuel rest hfuel _ => ?_
  have htext : compact (.array items) ++ rest = '[' :: (compactItems items ++ ']' :: rest) := by
    simp [compact]
  rw [htext, readValue, skipBlank_cons (c := '[') rfl]
  cases items with
  | nil => simp [compactItems, skipBlank, isBlank]
  | cons item more =>
    obtain ⟨c, cs, hcons, hblank, hclose⟩ := (h item List.mem_cons_self).compact_eq_cons
    obtain ⟨cs', hitem⟩ : ∃ cs', compactItems (item :: more) = c :: cs' := by
      cases more with
      | nil => exact ⟨cs, hcons⟩
      | cons next more => exact ⟨_, by rw [compactItems_cons_cons, hcons, List.cons_append]⟩
    have hread := readItems_append fuel rest hitems (List.cons_ne_nil _ _)
      (by simp only [compact, List.length_cons, List.length_append] at hfuel; omega)
    rw [hitem, List.cons_append] at hread ⊢
    simp [skipBlank_cons hblank, hclose, hread]

/-- An object is read back if the values of its members are. -/
theorem readsBack_object (h : ∀ m ∈ members, Plain m.2) (hmembers : ∀ m ∈ members, ReadsBack m.2) :
    ReadsBack (.object members) := by
  refine (Plain.object h).readsBack_of_succ fun fuel rest hfuel _ => ?_
  have htext :
      compact (.object members) ++ rest = '{' :: (compactMembers members ++ '}' :: rest) := by
    simp [compact]
  rw [htext, readValue, skipBlank_cons (c := '{') rfl]
  cases members with
  | nil => simp [compactMembers, skipBlank, isBlank]
  | cons m more =>
    obtain ⟨cs, hkey⟩ : ∃ cs, compactMembers (m :: more) = '"' :: cs := by
      obtain ⟨key, value⟩ := m
      cases more with
      | nil => exact ⟨_, rfl⟩
      | cons next more =>
        rw [compactMembers_cons_cons]
        exact ⟨_, rfl⟩
    have hread := readMembers_append fuel rest hmembers (List.cons_ne_nil _ _)
      (by simp only [compact, List.length_cons, List.length_append] at hfuel; omega)
    rw [hkey, List.cons_append] at hread ⊢
    simp only [skipBlank_cons (c := '"') rfl, hread, Option.map_some, ofMembers_map_some]
    rfl

/-- Every plain value is read back. -/
theorem Plain.readsBack (h : Plain j) : ReadsBack j := by
  induction h with
  | null =>
    refine Plain.null.readsBack_of_succ fun fuel rest _ _ => ?_
    simp [compact, readValue, skipBlank, isBlank]
  | bool b =>
    refine (Plain.bool b).readsBack_of_succ fun fuel rest _ _ => ?_
    cases b <;> simp [compact, readValue, skipBlank, isBlank]
  | whole negative n =>
    refine (Plain.whole negative n).readsBack_of_succ fun fuel rest _ hrest => ?_
    have hread := readNumber_append negative n hrest
    obtain ⟨c, cs, hcons, hc⟩ := printNumber_eq_cons negative n
    rw [compact, hcons, List.cons_append, readValue_of_starts hc, ← List.cons_append, ← hcons,
      hread]
    rfl
  | string s =>
    refine (Plain.string s).readsBack_of_succ fun fuel rest _ _ => ?_
    simp [compact, quote, readValue, skipBlank, isBlank, readString_append]
  | array h ih => exact readsBack_array h ih
  | object h ih => exact readsBack_object h ih

/-- The text of a document says the document. -/
theorem read?_compact (h : Plain j) : read? (String.ofList (compact j)) = some j := by
  have hread := h.readsBack (2 * (compact j).length + 2) [] (by omega) endsNumber_nil
  rw [List.append_nil] at hread
  rw [read?, String.toList_ofList]
  simp [hread, skipBlank]

end ServiceRegistry.Json
