/-!
# Dictionaries with ascending keys

A `Dict κ ν` holds finitely many pairs in ascending order of their keys, each key once. The order
is part of the type, so two dictionaries that answer every look-up alike are equal (`Dict.ext_get?`)
and whatever is printed from one comes out sorted. Sets are dictionaries to `Unit`.

`get?_insert` and `get?_erase` say what the two updates do to look-ups; `get?_eq_some_iff` ties
look-ups to the listed pairs.
-/

namespace ServiceRegistry

/-- A finite map whose pairs stand in ascending order of their keys. -/
structure Dict (κ ν : Type) [Ord κ] where
  /-- The pairs, smallest key first. -/
  entries : List (κ × ν)
  /-- Each key is smaller than all the keys after it. -/
  sorted : entries.Pairwise (fun a b => compare a.1 b.1 = .lt)

namespace Dict

variable {κ ν : Type} [Ord κ]

/-- The dictionary without pairs. -/
def empty : Dict κ ν := ⟨[], .nil⟩

instance : EmptyCollection (Dict κ ν) := ⟨empty⟩
instance : Inhabited (Dict κ ν) := ⟨empty⟩

/-- Removes a key; without effect if the key is not bound. -/
def erase (d : Dict κ ν) (k : κ) : Dict κ ν :=
  ⟨d.entries.filter (fun e => compare k e.1 != .eq), d.sorted.filter _⟩

/-- What a key is bound to. -/
def get? (d : Dict κ ν) (k : κ) : Option ν :=
  (d.entries.find? (fun e => compare k e.1 == .eq)).map (·.2)

/-- Whether a key is bound. -/
def contains (d : Dict κ ν) (k : κ) : Bool := (d.get? k).isSome

/-- The keys in ascending order. -/
def keys (d : Dict κ ν) : List κ := d.entries.map (·.1)

/-- The values in ascending order of their keys. -/
def values (d : Dict κ ν) : List ν := d.entries.map (·.2)

/-- The number of keys. -/
def size (d : Dict κ ν) : Nat := d.entries.length

/-- Whether no key is bound. -/
def isEmpty (d : Dict κ ν) : Bool := d.entries.isEmpty

/-- Dictionaries are equal if they have the same entries; that these are sorted is no further data.
-/
theorem ext {d e : Dict κ ν} (h : d.entries = e.entries) : d = e := by
  cases d; cases e; cases h; rfl

instance [DecidableEq κ] [DecidableEq ν] : DecidableEq (Dict κ ν) := fun d e =>
  if h : d.entries = e.entries then .isTrue (ext h) else .isFalse (fun hde => h (hde ▸ rfl))

/-- The empty dictionary has no value for any key. -/
@[simp] theorem get?_empty (k : κ) : (empty : Dict κ ν).get? k = none := rfl

/-- Puts a pair where its key belongs and replaces a pair of an equal key. -/
def insertEntry (k : κ) (v : ν) : List (κ × ν) → List (κ × ν)
  | [] => [(k, v)]
  | e :: rest =>
    match compare k e.1 with
    | .lt => (k, v) :: e :: rest
    | .eq => (k, v) :: rest
    | .gt => e :: insertEntry k v rest

/-- Inserting brings in no entry but the new one. -/
theorem mem_insertEntry {k : κ} {v : ν} {l : List (κ × ν)} {e : κ × ν}
    (h : e ∈ insertEntry k v l) : e = (k, v) ∨ e ∈ l := by
  induction l with
  | nil => simpa [insertEntry] using h
  | cons d rest ih =>
    unfold insertEntry at h
    split at h <;> grind

variable [Std.TransOrd κ] [Std.LawfulEqOrd κ]

/-- Inserting keeps a list of entries sorted. -/
theorem sorted_insertEntry (k : κ) (v : ν) {l : List (κ × ν)}
    (h : l.Pairwise (fun a b => compare a.1 b.1 = .lt)) :
    (insertEntry k v l).Pairwise (fun a b => compare a.1 b.1 = .lt) := by
  induction l with
  | nil => simp [insertEntry]
  | cons d rest ih =>
    rw [List.pairwise_cons] at h
    unfold insertEntry
    split
    · rename_i hlt
      refine List.pairwise_cons.2 ⟨fun e he => ?_, List.pairwise_cons.2 h⟩
      rcases List.mem_cons.1 he with rfl | he
      · exact hlt
      · exact Std.TransCmp.lt_trans hlt (h.1 e he)
    · rename_i heq
      have hk : k = d.1 := Std.LawfulEqCmp.eq_of_compare heq
      exact List.pairwise_cons.2 ⟨fun e he => hk ▸ h.1 e he, h.2⟩
    · rename_i hgt
      refine List.pairwise_cons.2 ⟨fun e he => ?_, ih h.2⟩
      rcases mem_insertEntry he with rfl | he
      · exact Std.OrientedCmp.lt_of_gt hgt
      · exact h.1 e he

/-- Binds a key, in place of what it was bound to before. -/
def insert (d : Dict κ ν) (k : κ) (v : ν) : Dict κ ν :=
  ⟨insertEntry k v d.entries, sorted_insertEntry k v d.sorted⟩

/-- Binds the pairs of a list one after another, so that the last pair of a key wins. -/
def insertAll (d : Dict κ ν) (l : List (κ × ν)) : Dict κ ν :=
  l.foldl (fun d e => d.insert e.1 e.2) d

/-- The dictionary of a list of pairs; the last pair of a key wins. -/
def ofList (l : List (κ × ν)) : Dict κ ν := empty.insertAll l

/-- Adds all pairs of a second dictionary, which wins on common keys. -/
def extend (d e : Dict κ ν) : Dict κ ν := d.insertAll e.entries

omit [Std.TransOrd κ] in
/-- A key has a value if and only if the two are an entry, as no key stands twice. -/
theorem get?_eq_some_iff {d : Dict κ ν} {k : κ} {v : ν} :
    d.get? k = some v ↔ (k, v) ∈ d.entries := by
  obtain ⟨l, hl⟩ := d
  simp only [get?, Option.map_eq_some_iff]
  constructor
  · rintro ⟨e, he, rfl⟩
    have hm := List.mem_of_find?_eq_some he
    have hk : compare k e.1 = .eq := by simpa using List.find?_some he
    have : k = e.1 := Std.LawfulEqCmp.eq_of_compare hk
    subst this
    exact hm
  · intro hm
    induction l with
    | nil => simp at hm
    | cons a rest ih =>
      rw [List.pairwise_cons] at hl
      rcases List.mem_cons.1 hm with rfl | hm'
      · exact ⟨(k, v), by simp [Std.ReflCmp.compare_self], rfl⟩
      · have hne : compare k a.1 ≠ .eq := by
          intro h
          have : k = a.1 := Std.LawfulEqCmp.eq_of_compare h
          have hlt := hl.1 _ hm'
          simp only [← this, Std.ReflCmp.compare_self] at hlt
          cases hlt
        obtain ⟨e, he, hv⟩ := ih hl.2 hm'
        exact ⟨e, by simp [hne, he], hv⟩

/-- Inserting replaces the entry of its key and keeps all others. -/
theorem mem_entries_insert {d : Dict κ ν} {k : κ} {v : ν} {e : κ × ν} :
    e ∈ (d.insert k v).entries ↔ e = (k, v) ∨ (e ∈ d.entries ∧ e.1 ≠ k) := by
  obtain ⟨l, hl⟩ := d
  simp only [insert]
  induction l with
  | nil => simp [insertEntry]
  | cons a rest ih =>
    rw [List.pairwise_cons] at hl
    unfold insertEntry
    split
    · rename_i hlt
      have hne : ∀ e ∈ a :: rest, e.1 ≠ k := by
        intro e he hk
        have hl' : compare k e.1 = .lt := by
          rcases List.mem_cons.1 he with rfl | he
          · exact hlt
          · exact Std.TransCmp.lt_trans hlt (hl.1 e he)
        simp only [hk, Std.ReflCmp.compare_self] at hl'
        cases hl'
      grind
    · rename_i heq
      have hk : k = a.1 := Std.LawfulEqCmp.eq_of_compare heq
      have hne : ∀ e ∈ rest, e.1 ≠ k := by
        intro e he hk'
        have := hl.1 e he
        simp only [hk', hk, Std.ReflCmp.compare_self] at this
        cases this
      grind
    · rename_i hgt
      have hk : a.1 ≠ k := by
        intro h
        simp only [h, Std.ReflCmp.compare_self] at hgt
        cases hgt
      have := ih hl.2
      grind

/-- After binding `k`, look-ups of `k` answer the new value and all others what they did. -/
theorem get?_insert (d : Dict κ ν) (k k' : κ) (v : ν) [DecidableEq κ] :
    (d.insert k v).get? k' = if k' = k then some v else d.get? k' := by
  apply Option.ext
  intro w
  rw [get?_eq_some_iff, mem_entries_insert]
  split
  · subst_vars; simp [eq_comm]
  · rename_i h; simp [get?_eq_some_iff, h]

omit [Std.TransOrd κ] in
/-- After removing `k`, look-ups of `k` answer nothing and all others what they did. -/
theorem get?_erase (d : Dict κ ν) (k k' : κ) [DecidableEq κ] :
    (d.erase k).get? k' = if k' = k then none else d.get? k' := by
  apply Option.ext
  intro w
  rw [get?_eq_some_iff]
  by_cases h : k' = k
  · subst h; simp [erase, Std.ReflCmp.compare_self]
  · have : compare k k' ≠ .eq := fun hc => h (Std.LawfulEqCmp.eq_of_compare hc).symm
    simp [erase, get?_eq_some_iff, h, this]

omit [Std.TransOrd κ] in
/-- The keys are those that have a value. -/
theorem mem_keys_iff {d : Dict κ ν} {k : κ} : k ∈ d.keys ↔ ∃ v, d.get? k = some v := by
  simp only [keys, List.mem_map, Prod.exists, exists_and_right, exists_eq_right,
    get?_eq_some_iff]

omit [Std.TransOrd κ] in
/-- The values are those that a key has. -/
theorem mem_values_iff {d : Dict κ ν} {v : ν} : v ∈ d.values ↔ ∃ k, d.get? k = some v := by
  simp only [values, List.mem_map, Prod.exists, exists_eq_right, get?_eq_some_iff]

/-- Inserting adds its key to those that are contained. -/
theorem contains_insert (d : Dict κ ν) (k k' : κ) (v : ν) [DecidableEq κ] :
    (d.insert k v).contains k' = (decide (k' = k) || d.contains k') := by
  rw [contains, get?_insert]
  split <;> simp_all [contains]

omit [Std.TransOrd κ] in
/-- Erasing takes its key from those that are contained. -/
theorem contains_erase (d : Dict κ ν) (k k' : κ) [DecidableEq κ] :
    (d.erase k).contains k' = (decide (k' ≠ k) && d.contains k') := by
  rw [contains, get?_erase]
  split <;> simp_all [contains]

/-- Two dictionaries that answer every look-up alike are equal. -/
theorem ext_get? {d e : Dict κ ν} (h : ∀ k, d.get? k = e.get? k) : d = e := by
  have hmem : ∀ x : κ × ν, x ∈ d.entries ↔ x ∈ e.entries := fun x => by
    rw [← get?_eq_some_iff (k := x.1) (v := x.2), h, get?_eq_some_iff]
  obtain ⟨l, hl⟩ := d
  obtain ⟨m, hm⟩ := e
  apply ext
  simp only at hmem ⊢
  clear h
  induction l generalizing m with
  | nil => cases m with
    | nil => rfl
    | cons b m => simpa using hmem b
  | cons a l ih =>
    cases m with
    | nil => simpa using hmem a
    | cons b m =>
      rw [List.pairwise_cons] at hl hm
      have irrefl : ∀ x y : κ × ν, x = y → compare x.1 y.1 ≠ .lt := by
        rintro x _ rfl hx
        simp [Std.ReflCmp.compare_self] at hx
      have hab : a = b := by
        rcases List.mem_cons.1 ((hmem a).1 (List.mem_cons_self ..)) with h | ha
        · exact h
        · rcases List.mem_cons.1 ((hmem b).2 (List.mem_cons_self ..)) with h | hb
          · exact h.symm
          · exact absurd (Std.TransCmp.lt_trans (hl.1 b hb) (hm.1 a ha)) (irrefl a a rfl)
      subst hab
      congr 1
      refine ih hl.2 m hm.2 fun x => ?_
      constructor
      · intro hx
        rcases List.mem_cons.1 ((hmem x).1 (List.mem_cons_of_mem _ hx)) with h | h
        · exact absurd (hl.1 x hx) (irrefl a x h.symm)
        · exact h
      · intro hx
        rcases List.mem_cons.1 ((hmem x).2 (List.mem_cons_of_mem _ hx)) with h | h
        · exact absurd (hm.1 x hx) (irrefl a x h.symm)
        · exact h

omit [Std.TransOrd κ] in
/-- Erasing a key that is not there changes nothing. -/
theorem erase_eq_self {d : Dict κ ν} {k : κ} (h : d.get? k = none) : d.erase k = d := by
  apply ext
  refine List.filter_eq_self.2 fun e he => ?_
  simp only [get?, Option.map_eq_none_iff, List.find?_eq_none] at h
  simpa using h e he

/-- Binding a key anew makes no use of what it was bound to before. -/
theorem insert_erase (d : Dict κ ν) (k : κ) (v : ν) [DecidableEq κ] :
    (d.erase k).insert k v = d.insert k v := by
  refine ext_get? fun k' => ?_
  rw [get?_insert, get?_insert, get?_erase]
  split <;> simp_all

/-- In a list of bindings the last of a key counts. -/
theorem get?_insertAll (d : Dict κ ν) (l : List (κ × ν)) (k : κ) [DecidableEq κ] :
    (d.insertAll l).get? k = (l.reverse.lookup k).or (d.get? k) := by
  induction l generalizing d with
  | nil => rfl
  | cons e rest ih =>
    obtain ⟨key, v⟩ := e
    rw [List.reverse_cons, List.lookup_append]
    change ((d.insert key v).insertAll rest).get? k = _
    rw [ih, get?_insert, Option.or_assoc]
    by_cases hk : k = key
    · simp [hk]
    · have hbeq : (k == key) = false := beq_eq_false_iff_ne.2 hk
      simp [List.lookup_cons, hk, hbeq]

/-- In the dictionary of a list the last pair of a key counts. -/
theorem get?_ofList (l : List (κ × ν)) (k : κ) [DecidableEq κ] :
    (ofList l).get? k = l.reverse.lookup k := by
  rw [ofList, get?_insertAll, get?_empty, Option.or_none]

/-- After entries are inserted, a key has a value if it had one or if an entry is for it. -/
theorem get?_insertAll_isSome [DecidableEq κ] (d : Dict κ ν) (l : List (κ × ν)) (k : κ) :
    ((d.insertAll l).get? k).isSome ↔ k ∈ l.map (·.1) ∨ (d.get? k).isSome := by
  rw [get?_insertAll, Option.isSome_or, Bool.or_eq_true, List.lookup_isSome_iff]
  simp

omit [Std.TransOrd κ] in
/-- Looking a key up from the end of the entries finds the same value. -/
theorem lookup_entries (d : Dict κ ν) (k : κ) [DecidableEq κ] :
    d.entries.reverse.lookup k = d.get? k := by
  cases hfound : d.entries.reverse.lookup k with
  | none =>
    symm
    rw [Option.eq_none_iff_forall_ne_some]
    intro v hv
    have hmem := List.mem_reverse.2 (get?_eq_some_iff.1 hv)
    simpa using List.lookup_eq_none_iff.1 hfound _ hmem
  | some v =>
    obtain ⟨front, rest, hentries, -⟩ := List.lookup_eq_some_iff.1 hfound
    have hmem : (k, v) ∈ d.entries.reverse := hentries ▸ by simp
    exact (get?_eq_some_iff.2 (List.mem_reverse.1 hmem)).symm

/-- What the second dictionary binds wins; other look-ups answer what they did. -/
theorem get?_extend (d e : Dict κ ν) (k : κ) [DecidableEq κ] :
    (d.extend e).get? k = (e.get? k).or (d.get? k) := by
  rw [extend, get?_insertAll, lookup_entries]

end Dict

/-- A set that lists its members in ascending order. -/
abbrev SortedSet (κ : Type) [Ord κ] := Dict κ Unit

/-- The set of the members of a list. -/
def SortedSet.ofList {κ : Type} [Ord κ] [Std.TransOrd κ] [Std.LawfulEqOrd κ] (l : List κ) :
    SortedSet κ :=
  Dict.ofList (l.map (·, ()))

/-- The set of the members of a list has just these members. -/
theorem SortedSet.mem_keys_ofList {κ : Type} [Ord κ] [Std.TransOrd κ] [Std.LawfulEqOrd κ]
    [DecidableEq κ] {l : List κ} {k : κ} : k ∈ (SortedSet.ofList l).keys ↔ k ∈ l := by
  rw [Dict.mem_keys_iff, ← Option.isSome_iff_exists]
  unfold SortedSet.ofList Dict.ofList
  rw [Dict.get?_insertAll_isSome]
  simp

end ServiceRegistry
