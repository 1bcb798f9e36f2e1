import ServiceRegistry.Location
import ServiceRegistry.Proofs.Decimals

/-!
# Locations and the entries they name

A location is written from the number of a module and the path of an entry, and read back by cutting
it at the first slash behind the scheme. Reading undoes writing up to slashes in front of the path,
so two entries share a location only if they share the module and the path without such slashes.

Reading takes more than writing gives: the number may have a plus sign and leading zeros
(`Decimal.Spells`), and the path may start with slashes. Such a location is not the one that is
written for what it names; all others are (`Location.ofEntry_eq_iff`). Providers are told apart by
their locations as texts, so an entry can be known under several.
-/

namespace ServiceRegistry

namespace Location

variable {l : Location} {id other : ModuleId} {number rest p q last : List Char}

/-- Locations are the same if their characters are. -/
theorem eq_iff_toList {l' : Location} : l = l' ↔ l.text.toList = l'.text.toList := by
  obtain ⟨text⟩ := l
  obtain ⟨text'⟩ := l'
  rw [mk.injEq, String.toList_inj]

/-- What a location names stands behind the scheme: a number, a slash and the path. -/
theorem split?_eq_some_iff : l.split? = some (id, q) ↔ ∃ number,
    l.text.toList = scheme ++ number ++ '/' :: q ∧ Decimal.Spells number id.word.toNat := by
  unfold split?
  dsimp only
  constructor
  · intro h
    obtain ⟨_, hscheme, h⟩ := Option.bind_eq_some_iff.1 h
    obtain ⟨⟨number, path⟩, hcut, h⟩ := Option.bind_eq_some_iff.1 h
    obtain ⟨word, hword, h⟩ := Option.bind_eq_some_iff.1 h
    cases h
    have hstarts : scheme.isPrefixOf l.text.toList = true := by
      by_contra hno
      simp [guard, hno] at hscheme
    obtain ⟨behind, hbehind⟩ := List.isPrefixOf_iff_prefix.1 hstarts
    rw [← hbehind, List.drop_left] at hcut
    obtain ⟨hparts, -⟩ := Text.splitFirst_eq_some_iff.1 hcut
    refine ⟨number, ?_, Decimal.readWord?_eq_some_iff.1 hword⟩
    rw [← hbehind, hparts, List.append_assoc]
  · rintro ⟨number, htext, hnumber⟩
    have hstarts : scheme.isPrefixOf l.text.toList = true := by
      rw [htext, List.append_assoc]
      exact List.isPrefixOf_iff_prefix.2 (List.prefix_append _ _)
    have hcut : Text.splitFirst '/' (l.text.toList.drop scheme.length) = some (number, q) := by
      rw [htext, List.append_assoc, List.drop_left]
      exact Text.splitFirst_eq_some_iff.2 ⟨rfl, hnumber.slash_not_mem⟩
    rw [hstarts, hcut]
    change (Decimal.readWord? number).bind _ = _
    rw [Decimal.readWord?_eq_some_iff.2 hnumber]
    rfl

/-- A location names something if its number fits into 64 bits, whatever the path. -/
theorem isSome_split?_iff : l.split?.isSome = true ↔ ∃ number rest n,
    l.text.toList = scheme ++ number ++ '/' :: rest ∧ Decimal.Spells number n ∧ n < UInt64.size := by
  rw [Option.isSome_iff_exists]
  constructor
  · rintro ⟨⟨id, q⟩, h⟩
    obtain ⟨number, htext, hnumber⟩ := split?_eq_some_iff.1 h
    exact ⟨number, q, _, htext, hnumber, id.word.toNat_lt_size⟩
  · rintro ⟨number, rest, n, htext, hnumber, hn⟩
    refine ⟨(⟨UInt64.ofNat n⟩, rest), split?_eq_some_iff.2 ⟨number, htext, ?_⟩⟩
    rwa [UInt64.toNat_ofNat_of_lt' hn]

/-- Entries share a location only if they are the same but for slashes in front. -/
theorem ofEntry_inj : ofEntry id p = ofEntry other q ↔
    id = other ∧ Slashes.dropLeading p = Slashes.dropLeading q := by
  constructor
  · intro h
    have hsplit := congrArg split? h
    rw [split?_ofEntry, split?_ofEntry] at hsplit
    exact Prod.mk.inj (Option.some.inj hsplit)
  · rintro ⟨rfl, hpath⟩
    rw [eq_iff_toList, toList_ofEntry, toList_ofEntry, hpath]

/-- The location of an entry is a folder if the entry ends in a slash, or is empty behind its
leading slashes. -/
theorem isFolder_ofEntry : (ofEntry id p).isFolder = true ↔
    Slashes.dropLeading p = [] ∨ (Slashes.dropLeading p).getLast? = some '/' := by
  unfold isFolder
  rw [toList_ofEntry, ← List.append_assoc, Slashes.endsInSlash_append (List.cons_ne_nil _ _)]
  cases hpath : Slashes.dropLeading p with
  | nil => simp [Slashes.endsInSlash]
  | cons c rest =>
    rw [← List.singleton_append, Slashes.endsInSlash_append (List.cons_ne_nil _ _)]
    simp [Slashes.endsInSlash]

/-- The base name of an entry is what follows its last slash. -/
theorem baseName_ofEntry (hlast : '/' ∉ last)
    (hpath : Slashes.dropLeading p = last ∨ ∃ front, Slashes.dropLeading p = front ++ '/' :: last) :
    (ofEntry id p).baseName = String.ofList last := by
  unfold baseName
  rw [toList_ofEntry]
  rcases hpath with hpath | ⟨front, hpath⟩
  · rw [hpath, ← List.append_assoc, Slashes.afterLast_append hlast]
  · rw [hpath, ← List.cons_append, ← List.append_assoc, ← List.append_assoc,
      Slashes.afterLast_append hlast]

/-- The location that is written for what a location names is that location, if its number is
written in the usual way and its path starts with no slash. -/
theorem ofEntry_eq_iff (h : l.split? = some (id, q))
    (htext : l.text.toList = scheme ++ number ++ '/' :: q) :
    ofEntry id q = l ↔ Decimal.Canonical number ∧ q.head? ≠ some '/' := by
  obtain ⟨same, hsame, hnumber⟩ := split?_eq_some_iff.1 h
  rw [htext] at hsame
  obtain rfl : number = same :=
    List.append_cancel_left (List.append_cancel_right hsame)
  have hprint : '/' ∉ Decimal.print id.word.toNat :=
    fun hslash => absurd (Decimal.isDigit_of_mem_print hslash) (by decide)
  rw [eq_iff_toList, toList_ofEntry, htext, List.append_assoc, List.append_cancel_left_eq]
  constructor
  · -- both texts are cut at their first slash, so the numbers agree and the paths do
    intro heq
    have hcut := Text.splitFirst_eq_some_iff.2 ⟨heq, hnumber.slash_not_mem⟩
    rw [Text.splitFirst_eq_some_iff.2 ⟨rfl, hprint⟩] at hcut
    obtain ⟨rfl, hpath⟩ := Prod.mk.inj (Option.some.inj hcut)
    exact ⟨Decimal.canonical_print _, hpath ▸ Slashes.head?_dropLeading q⟩
  · rintro ⟨hcanonical, hhead⟩
    obtain ⟨digits, rfl | rfl, -, -, hvalue⟩ := hnumber
    · rw [← hvalue, hcanonical.print_eq, Slashes.dropLeading_eq_self hhead]
    · exact absurd (hcanonical.isDigit '+' List.mem_cons_self) (by decide)

/-- Reading a location undoes writing it, up to slashes in front of the path; so locations are told
apart by what they name. Writing undoes reading where the location is written in the usual way. What
can be read is a scheme, a number of at most 64 bits and anything behind a slash. -/
theorem split?_inverse_ofEntry :
    (∀ (id : ModuleId) (p : List Char), (ofEntry id p).owner? = some id ∧
      (ofEntry id p).path? = some (Slashes.dropLeading p)) ∧
    (∀ (id other : ModuleId) (p q : List Char), ofEntry id p = ofEntry other q ↔
      id = other ∧ Slashes.dropLeading p = Slashes.dropLeading q) ∧
    (∀ (id : ModuleId) (p : List Char), (ofEntry id p).isFolder = true ↔
      Slashes.dropLeading p = [] ∨ (Slashes.dropLeading p).getLast? = some '/') ∧
    (∀ (id : ModuleId) (p last : List Char), '/' ∉ last →
      (Slashes.dropLeading p = last ∨ ∃ front, Slashes.dropLeading p = front ++ '/' :: last) →
        (ofEntry id p).baseName = String.ofList last) ∧
    (∀ (l : Location) (id : ModuleId) (q number : List Char), l.split? = some (id, q) →
      l.text.toList = "module://".toList ++ number ++ '/' :: q →
        (ofEntry id q = l ↔ Decimal.Canonical number ∧ q.head? ≠ some '/')) ∧
    (∀ (l : Location) (id : ModuleId) (q : List Char), l.split? = some (id, q) ↔ ∃ number,
      l.text.toList = "module://".toList ++ number ++ '/' :: q ∧
        Decimal.Spells number id.word.toNat) ∧
    (∀ l : Location, l.split?.isSome = true ↔ ∃ number rest n,
      l.text.toList = "module://".toList ++ number ++ '/' :: rest ∧
        Decimal.Spells number n ∧ n < UInt64.size) := by
  refine ⟨fun id p => ⟨owner?_ofEntry id p, ?_⟩, fun _ _ _ _ => ofEntry_inj,
    fun _ _ => isFolder_ofEntry, fun _ _ _ hlast hpath => baseName_ofEntry hlast hpath,
    fun _ _ _ _ h htext => ofEntry_eq_iff h htext, fun _ _ _ => split?_eq_some_iff,
    fun _ => isSome_split?_iff⟩
  rw [path?, split?_ofEntry]
  rfl

/-- A number with a plus sign and leading zeros is read, but never written; and a base name is what
stands behind the last slash. -/
theorem split?_inverse_ofEntry_plus_seven :
    (⟨"module://+007//a"⟩ : Location).split? = some (⟨7⟩, "/a".toList) ∧
    ofEntry ⟨7⟩ "/a".toList ≠ ⟨"module://+007//a"⟩ ∧
    '/' ∉ "a".toList ∧ (ofEntry ⟨7⟩ "//b/a".toList).baseName = "a" := by
  obtain ⟨-, -, -, hbase, hwritten, -⟩ := split?_inverse_ofEntry
  have hread : (⟨"module://+007//a"⟩ : Location).split? = some (⟨7⟩, "/a".toList) := by decide
  have hlast : '/' ∉ "a".toList := by decide
  refine ⟨hread, fun heq => ?_, hlast,
    hbase ⟨7⟩ "//b/a".toList "a".toList hlast (.inr ⟨"b".toList, by decide⟩)⟩
  exact absurd ((hwritten _ _ _ "+007".toList hread (by decide)).1 heq).2 (by decide)

end Location

end ServiceRegistry
