import ServiceRegistry.Module.InMemory
import ServiceRegistry.Proofs.Contributions

/-!
# Descriptors of modules in memory

A module in memory shows at most one descriptor for a service: the entry of the service's name
directly in the descriptor folder (`InMemory.descriptor?`). Modules of other kinds may show several
locations that end in one name, or none.
-/

namespace ServiceRegistry

/-- The descriptor of a service: the entry of that name directly in a folder. -/
def InMemory.descriptor? (m : InMemory) (folder : List Char) (service : String) :
    Option Location :=
  let path := Slashes.asFolder folder ++ service.toList
  if service.toList ≠ [] ∧ '/' ∉ service.toList ∧
      (m.entries.get? (String.ofList path)).isSome = true then
    some (.ofEntry m.id path)
  else none

variable {folder path name : List Char} {m : InMemory} {l : Location} {service : String}

/-- What stands in a folder begins like the folder, or else as its own name does. -/
theorem Slashes.Folder.head?_append (hf : Slashes.Folder folder) (hname : '/' ∉ name) :
    (folder ++ name).head? ≠ some '/' := by
  cases folder with
  | nil => exact fun h => hname (List.mem_of_head? h)
  | cons c rest => exact hf.1

/-- An entry directly in a folder is found under its own path. -/
theorem dropLeading_append (hf : Slashes.Folder folder) (hname : '/' ∉ name) :
    Slashes.dropLeading (folder ++ name) = folder ++ name :=
  Slashes.dropLeading_eq_self (hf.head?_append hname)

/-- The location of an entry directly in a folder ends in a slash and the entry's name. -/
theorem toList_ofEntry_append (id : ModuleId) (hf : Slashes.Folder folder) (hname : '/' ∉ name) :
    ∃ front, (Location.ofEntry id (folder ++ name)).text.toList = front ++ '/' :: name := by
  rw [Location.toList_ofEntry, dropLeading_append hf hname]
  rcases hf.2 with rfl | hslash
  · exact ⟨Location.scheme ++ Decimal.print id.word.toNat, by simp⟩
  · obtain ⟨front, rfl⟩ : ∃ front, folder = front ++ ['/'] :=
      List.getLast?_eq_some_iff.1 (by simpa [Slashes.endsInSlash] using hslash)
    exact ⟨Location.scheme ++ (Decimal.print id.word.toNat ++ '/' :: front), by simp⟩

/-- The last part of an entry directly in a folder is the entry's name. -/
theorem baseName_ofEntry_append (id : ModuleId) (hf : Slashes.Folder folder)
    (hname : '/' ∉ name) :
    (Location.ofEntry id (folder ++ name)).baseName = String.ofList name := by
  obtain ⟨front, htext⟩ := toList_ofEntry_append id hf hname
  rw [Location.baseName, htext, Slashes.afterLast_append hname]

/-- An entry directly in a folder that has a name is a descriptor. -/
theorem isDescriptor_ofEntry_append (id : ModuleId) (hf : Slashes.Folder folder)
    (hname : '/' ∉ name) (hne : name ≠ []) :
    ScanRule.isDescriptor (Location.ofEntry id (folder ++ name)) = true := by
  obtain ⟨front, htext⟩ := toList_ofEntry_append id hf hname
  have hfolder : (Location.ofEntry id (folder ++ name)).isFolder = false := by
    rw [Location.isFolder, htext, ← List.singleton_append, ← List.append_assoc,
      Slashes.endsInSlash_append hne, Slashes.endsInSlash_eq_false hname]
  simp [ScanRule.isDescriptor, hfolder, baseName_ofEntry_append id hf hname, hne]

/-- A subfolder is no descriptor. -/
theorem isDescriptor_subfolder (id : ModuleId) (hpath : path ≠ []) (hhead : path.head? ≠ some '/') :
    ScanRule.isDescriptor (Location.ofEntry id (path ++ ['/'])) = false := by
  have hdrop : Slashes.dropLeading (path ++ ['/']) = path ++ ['/'] := by
    apply Slashes.dropLeading_eq_self
    cases path with
    | nil => exact absurd rfl hpath
    | cons c rest => exact hhead
  have hfolder : (Location.ofEntry id (path ++ ['/'])).isFolder = true := by
    rw [Location.isFolder, Location.toList_ofEntry, hdrop, ← List.cons_append,
      ← List.append_assoc, ← List.append_assoc, Slashes.endsInSlash_append (by simp)]
    rfl
  simp [ScanRule.isDescriptor, hfolder]

namespace InMemory

/-- A listing shows the entries and sub-folders that stand directly in the folder. -/
theorem mem_list : l ∈ m.list folder ↔ ∃ key path, key ∈ m.entries.keys ∧
    child? (Slashes.asFolder folder) key.toList = some path ∧ l = .ofEntry m.id path := by
  simp only [list, children, List.mem_map, SortedSet.mem_keys_ofList, List.mem_filterMap,
    Option.map_eq_some_iff]
  constructor
  · rintro ⟨_, ⟨key, hkey, path, hchild, rfl⟩, rfl⟩
    exact ⟨key, path, hkey, hchild, by rw [String.toList_ofList]⟩
  · rintro ⟨key, path, hkey, hchild, rfl⟩
    exact ⟨_, ⟨key, hkey, path, hchild, rfl⟩, by rw [String.toList_ofList]⟩

/-- An entry contributes itself to the listing of its folder, and a subfolder to that of a folder
further up. -/
theorem child?_eq_some {key child : List Char} (hchild : child? folder key = some child) :
    ∃ sub, sub ≠ [] ∧ '/' ∉ sub ∧
      (key = folder ++ sub ∧ child = folder ++ sub ∨ child = folder ++ sub ++ ['/']) := by
  unfold child? at hchild
  split at hchild
  · rename_i hprefix
    obtain ⟨rest, rfl⟩ := List.isPrefixOf_iff_prefix.1 hprefix
    simp only [List.drop_left] at hchild
    cases hcut : Text.splitFirst '/' rest with
    | none =>
      have hslash := Text.splitFirst_eq_none_iff.1 hcut
      simp only [hcut] at hchild
      split at hchild
      · cases hchild
      · rename_i hne
        cases hchild
        exact ⟨rest, by simpa using hne, hslash, .inl ⟨rfl, rfl⟩⟩
    | some cut =>
      obtain ⟨sub, after⟩ := cut
      obtain ⟨rfl, hslash⟩ := Text.splitFirst_eq_some_iff.1 hcut
      simp only [hcut] at hchild
      split at hchild
      · cases hchild
      · rename_i hne
        cases hchild
        exact ⟨sub, by simpa using hne, hslash, .inr rfl⟩
  · cases hchild

/-- What an entry contributes to a listing is a descriptor if the entry is directly in the
folder. -/
theorem child?_descriptor (hf : Slashes.Folder folder) {key child : List Char}
    (hchild : child? folder key = some child)
    (hdescriptor : ScanRule.isDescriptor (.ofEntry m.id child) = true) :
    ∃ name, name ≠ [] ∧ '/' ∉ name ∧ key = folder ++ name ∧ child = folder ++ name := by
  obtain ⟨sub, hne, hslash, ⟨hkey, hself⟩ | rfl⟩ := child?_eq_some hchild
  · exact ⟨sub, hne, hslash, hkey, hself⟩
  · rw [isDescriptor_subfolder m.id (by simp [hne]) (hf.head?_append hslash)] at hdescriptor
    cases hdescriptor

/-- The descriptors that a module in memory shows are those of the services. -/
theorem mem_shown_list : l ∈ ScanRule.shown (.ok (m.list folder)) ∧ l.baseName = service ↔
    m.descriptor? folder service = some l := by
  have hf := Slashes.folder_asFolder folder
  rw [ScanRule.shown, ScanRule.mem_descriptors, mem_list]
  unfold descriptor?
  constructor
  · rintro ⟨⟨⟨key, child, hkey, hchild, rfl⟩, hdescriptor⟩, rfl⟩
    obtain ⟨name, hne, hslash, hname, rfl⟩ := child?_descriptor hf hchild hdescriptor
    obtain ⟨content, hget⟩ := Dict.mem_keys_iff.1 hkey
    have hkeyname : String.ofList (Slashes.asFolder folder ++ name) = key := by
      rw [← hname, String.ofList_toList]
    simp [baseName_ofEntry_append m.id hf hslash, hne, hslash, hkeyname, hget]
  · intro h
    dsimp only at h
    split at h
    · rename_i hentry
      obtain ⟨hne, hslash, hget⟩ := hentry
      cases h
      obtain ⟨content, hget⟩ := Option.isSome_iff_exists.1 hget
      refine ⟨⟨⟨_, _, Dict.mem_keys_iff.2 ⟨content, hget⟩, ?_, rfl⟩, ?_⟩, ?_⟩
      · rw [String.toList_ofList]
        simp [child?, Text.splitFirst_eq_none_iff.2 hslash, hne]
      · exact isDescriptor_ofEntry_append m.id hf hslash hne
      · rw [baseName_ofEntry_append m.id hf hslash, String.ofList_toList]
    · cases h

end InMemory

/-- A list without repetitions that has just the members of an option. -/
theorem eq_toList_of_nodup {α : Type} {xs : List α} {o : Option α} (hnodup : xs.Nodup)
    (hmem : ∀ x, x ∈ xs ↔ o = some x) : xs = o.toList := by
  cases o with
  | none => exact List.eq_nil_iff_forall_not_mem.2 fun x hx => nomatch (hmem x).1 hx
  | some a =>
    refine List.perm_singleton.1 ((List.perm_ext_iff_of_nodup hnodup (List.nodup_singleton a)).2 ?_)
    intro x
    rw [hmem, Option.some.injEq, List.mem_singleton, eq_comm]

/-- A module in memory shows at most one descriptor for a service. -/
theorem InMemory.filter_shown_list (m : InMemory) (folder : List Char) (service : String) :
    (ScanRule.shown (.ok (m.list folder))).filter (·.baseName = service) =
      (m.descriptor? folder service).toList := by
  apply eq_toList_of_nodup ((ScanRule.nodup_shown _).filter _)
  intro l
  rw [List.mem_filter, decide_eq_true_iff]
  exact mem_shown_list

end ServiceRegistry
