import Mathlib.Data.String.Basic
import ServiceRegistry.Module.Folder
import ServiceRegistry.Proofs.Descriptors
import ServiceRegistry.Proofs.PathWalks

/-!
# Descriptors of modules that are folders

A module that is a folder shows as descriptors the files directly in the descriptor folder
(`FolderModule.mem_shown`); what is under them in the file tree is nobody's entry, and a descriptor
folder that is not there, or is a file, shows nothing. Listings of both kinds of modules are in
ascending order, so that two that show the same descriptors show them in the same order
(`ScanRule.shown_eq_of_mem_iff`).
-/

namespace ServiceRegistry

/-! ## The order of listings -/

/-- Locations are in ascending order, each once. -/
def Location.Ascending (ls : List Location) : Prop := ls.Pairwise (compare · · = .lt)

/-- The keys of a dictionary ascend. -/
theorem Dict.pairwise_keys {κ ν : Type} [Ord κ] (d : Dict κ ν) :
    d.keys.Pairwise (compare · · = .lt) :=
  List.pairwise_map.2 d.sorted

/-- Sorted locations without repetitions ascend. -/
theorem Location.ascending_sortUnique (ls : List Location) : Ascending (sortUnique ls) :=
  Dict.pairwise_keys _

/-- Locations that ascend are different. -/
theorem Location.Ascending.nodup {ls : List Location} (h : Ascending ls) : ls.Nodup :=
  h.imp fun {a b} hlt heq => by
    have hself : compare b b = .eq := Std.ReflCmp.compare_self
    rw [heq, hself] at hlt
    cases hlt

/-- Two lists in ascending order that have the same members are equal. -/
theorem Location.Ascending.eq_of_mem_iff {ls ls' : List Location} (h : Ascending ls)
    (h' : Ascending ls') (hmem : ∀ l, l ∈ ls ↔ l ∈ ls') : ls = ls' := by
  have hperm := (List.perm_ext_iff_of_nodup h.nodup h'.nodup).2 hmem
  refine hperm.eq_of_pairwise (fun a b _ _ hab hba => ?_) h h'
  exact absurd hba (Std.OrientedCmp.not_lt_of_lt hab)

/-- The path of an entry is that with which its location was made, if it does not begin with a
slash. -/
theorem Location.ownPath_ofEntry (id : ModuleId) {path : List Char}
    (hhead : path.head? ≠ some '/') : (Location.ofEntry id path).ownPath id = .ok path := by
  simp [Location.ownPath, Location.pathIn?, Location.split?_ofEntry,
    Slashes.dropLeading_eq_self hhead]

/-- Entries of one module are in the order of their paths. -/
theorem Location.compare_ofEntry (id : ModuleId) {a b : String} (ha : a.toList.head? ≠ some '/')
    (hb : b.toList.head? ≠ some '/') (h : compare a b = .lt) :
    compare (ofEntry id a.toList) (ofEntry id b.toList) = .lt := by
  change compare (ofEntry id a.toList).text (ofEntry id b.toList).text = .lt
  rw [compare_lt_iff_lt, String.lt_iff_toList_lt] at h ⊢
  rw [toList_ofEntry, toList_ofEntry, Slashes.dropLeading_eq_self ha,
    Slashes.dropLeading_eq_self hb]
  exact List.append_left_lt (List.append_left_lt (List.cons_lt_cons_self.2 h))

/-- A list without repetitions has none to be dropped. -/
theorem eraseDups_eq_self {α : Type} [DecidableEq α] {l : List α} (h : l.Nodup) :
    l.eraseDups = l := by
  induction l with
  | nil => rfl
  | cons a rest ih =>
    obtain ⟨ha, hrest⟩ := List.nodup_cons.1 h
    have hfilter : rest.filter (fun b => !b == a) = rest :=
      List.filter_eq_self.2 fun b hb => by
        have : b ≠ a := fun hba => ha (hba ▸ hb)
        simpa using this
    rw [List.eraseDups_cons, hfilter, ih hrest]

/-- The descriptors of a listing that ascends ascend. -/
theorem ScanRule.ascending_descriptors {ls : List Location} (h : Location.Ascending ls) :
    Location.Ascending (descriptors ls) := by
  have hfilter : Location.Ascending (ls.filter isDescriptor) := h.filter _
  rw [descriptors, eraseDups_eq_self hfilter.nodup]
  exact hfilter

/-! ## Entries of the file tree -/

namespace FileTree

variable {t : FileTree} {place : Place} {name : List Char}

/-- The children of a place are the nodes one name further. -/
theorem mem_childrenAt {isFolder : Bool} : (name, isFolder) ∈ t.childrenAt place ↔
    ∃ node, (place ++ [name], node) ∈ t.nodes ∧ isFolder = decide (node = .folder) := by
  simp only [childrenAt, List.mem_filterMap]
  constructor
  · rintro ⟨⟨other, node⟩, hmem, hchild⟩
    cases hlast : other.getLast? with
    | none => simp [hlast] at hchild
    | some last =>
      simp only [hlast] at hchild
      split at hchild
      · rename_i hplace
        obtain ⟨front, rfl⟩ := List.getLast?_eq_some_iff.1 hlast
        rw [List.dropLast_concat] at hplace
        cases hchild
        exact ⟨node, hplace ▸ hmem, rfl⟩
      · cases hchild
  · rintro ⟨node, hmem, rfl⟩
    exact ⟨_, hmem, by simp⟩

/-- Whether there is a file of a name directly in a folder. -/
def hasFile (t : FileTree) (folder : Path) (name : List Char) : Bool :=
  match t.list folder with
  | .ok children => children.contains (name, false)
  | .error _ => false

/-- A folder has a file just if the path leads to a folder and a file stands under the name there.
-/
theorem hasFile_iff {folder : Path} : t.hasFile folder name = true ↔ ∃ place content,
    t.find folder = .ok (place, .folder) ∧ (place ++ [name], .file content) ∈ t.nodes := by
  unfold hasFile list
  cases t.find folder with
  | error fault => simp
  | ok there =>
    obtain ⟨place, node⟩ := there
    cases node with
    | file content => simp
    | folder =>
      simp only [List.contains_eq_mem, decide_eq_true_eq, mem_childrenAt]
      constructor
      · rintro ⟨node, hmem, hnode⟩
        cases node with
        | file content => exact ⟨place, content, rfl, hmem⟩
        | folder => cases hnode
      · rintro ⟨_, content, hplace, hmem⟩
        cases hplace
        exact ⟨_, hmem, rfl⟩

end FileTree

namespace FolderModule

variable {m : FolderModule} {files : FileTree} {folder : List Char} {names : List (List Char)}
  {path : Path} {l : Location}

/-- A folder that is taken as a module has the number that is asked for, and its manifest's
types. -/
theorem load_eq_ok {id : ModuleId} {root : Path} (h : load files id root = .ok m) :
    files.isFolder root = true ∧ ∃ manifest, loadManifest files root = .ok manifest ∧
      m = ⟨id, manifest.name.getD (defaultName id root), root, manifest.typeSpace⟩ := by
  unfold load at h
  split at h
  · rename_i hfolder
    refine ⟨hfolder, ?_⟩
    cases hmanifest : loadManifest files root with
    | error e =>
      rw [hmanifest] at h
      cases h
    | ok manifest =>
      rw [hmanifest] at h
      cases h
      exact ⟨manifest, rfl, rfl⟩
  · cases h

/-- A path stays inside the module unless it is absolute or has two dots among its parts. -/
theorem staysBelow_iff :
    staysBelow path = true ↔ path.head? ≠ some '/' ∧ ['.', '.'] ∉ path.parts := by
  rw [ne_eq, ← Path.root_mem_components_iff, ← Path.parent_mem_components_iff, staysBelow,
    List.all_eq_true]
  constructor
  · intro hall
    exact ⟨fun hroot => absurd (hall _ hroot) Bool.false_ne_true,
      fun hparent => absurd (hall _ hparent) Bool.false_ne_true⟩
  · rintro ⟨hroot, hparent⟩ c hc
    cases c with
    | root => exact absurd hc hroot
    | parent => exact absurd hc hparent
    | current | normal name => rfl

/-- A folder that is written with names alone lies inside the module. -/
theorem staysBelow_of_names (hfolder : Path.Names folder names) : staysBelow folder = true := by
  refine staysBelow_iff.2 ⟨hfolder.head?, fun hdots => ?_⟩
  rw [hfolder.parts, List.mem_append, List.mem_singleton] at hdots
  rcases hdots with hdots | hdots
  · exact (hfolder.isName _ hdots).2.2 rfl
  · cases hdots

/-- A plain path does not go up. -/
theorem staysBelow_of_plain (hpath : path.Plain) : staysBelow path = true :=
  staysBelow_iff.2 ⟨hpath.head?, fun hdots => (hpath _ hdots).2.2 rfl⟩

/-- A path that stays inside the module is looked for there. -/
theorem pathOf_of_staysBelow (m : FolderModule) (hpath : staysBelow path = true) :
    m.pathOf path = .ok (m.root.join path) :=
  if_pos hpath

/-- The locations of what stands in a folder. -/
def locations (m : FolderModule) (folder : List Char) (children : List (List Char × Bool)) :
    List Location :=
  children.map fun child => .ofEntry m.id (folder ++ child.1 ++ (if child.2 then ['/'] else []))

/-- A folder that cannot be listed shows nothing, whatever the fault. -/
theorem shown_list (hfolder : staysBelow (Slashes.asFolder folder) = true) :
    ScanRule.shown (m.list files folder) =
      match files.list (m.root.join (Slashes.asFolder folder)) with
      | .error _ => []
      | .ok children => ScanRule.descriptors
          (Location.sortUnique (m.locations (Slashes.asFolder folder) children)) := by
  unfold list
  dsimp only
  rw [pathOf_of_staysBelow m hfolder]
  simp only [bind, Except.bind]
  cases files.list (m.root.join (Slashes.asFolder folder)) with
  | error fault =>
    dsimp only
    split <;> rfl
  | ok children => rfl

/-- What a scan of a folder shows ascends. -/
theorem ascending_shown (hfolder : staysBelow (Slashes.asFolder folder) = true) :
    Location.Ascending (ScanRule.shown (m.list files folder)) := by
  rw [shown_list hfolder]
  split
  · exact .nil
  · exact ScanRule.ascending_descriptors (Location.ascending_sortUnique _)

/-- What stands in a folder is a descriptor if it is a file. -/
theorem mem_descriptors_locations {children : List (List Char × Bool)}
    (hf : Slashes.Folder folder) (hchildren : ∀ child ∈ children, child.1 ≠ [] ∧ '/' ∉ child.1) :
    l ∈ ScanRule.descriptors (Location.sortUnique (m.locations folder children)) ↔
      ∃ name, (name, false) ∈ children ∧ l = .ofEntry m.id (folder ++ name) := by
  rw [ScanRule.mem_descriptors, Location.mem_sortUnique, locations, List.mem_map]
  constructor
  · rintro ⟨⟨⟨name, isFolder⟩, hmem, rfl⟩, hdescriptor⟩
    obtain ⟨hne, hslash⟩ := hchildren _ hmem
    cases isFolder with
    | false => exact ⟨name, hmem, by simp⟩
    | true =>
      have hhead := hf.head?_append hslash
      rw [if_pos rfl, isDescriptor_subfolder m.id (by simp [hne]) hhead] at hdescriptor
      cases hdescriptor
  · rintro ⟨name, hmem, rfl⟩
    obtain ⟨hne, hslash⟩ := hchildren _ hmem
    exact ⟨⟨_, hmem, by simp⟩, isDescriptor_ofEntry_append m.id hf hslash hne⟩

/-- What a module shows are the files directly in its descriptor folder. -/
theorem mem_shown (hfolder : staysBelow (Slashes.asFolder folder) = true)
    (hchildren : ∀ place,
      files.find (m.root.join (Slashes.asFolder folder)) = .ok (place, .folder) →
        ∀ child ∈ files.childrenAt place, child.1 ≠ [] ∧ '/' ∉ child.1) :
    l ∈ ScanRule.shown (m.list files folder) ↔
      ∃ name, files.hasFile (m.root.join (Slashes.asFolder folder)) name = true ∧
        l = .ofEntry m.id (Slashes.asFolder folder ++ name) := by
  rw [shown_list hfolder]
  unfold FileTree.hasFile FileTree.list
  cases hfind : files.find (m.root.join (Slashes.asFolder folder)) with
  | error fault => simp
  | ok there =>
    obtain ⟨place, node⟩ := there
    cases node with
    | file content => simp
    | folder =>
      dsimp only
      rw [mem_descriptors_locations (Slashes.folder_asFolder folder) (hchildren place hfind)]
      simp

end FolderModule

end ServiceRegistry
