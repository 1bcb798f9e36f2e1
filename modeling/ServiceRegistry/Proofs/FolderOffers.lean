import ServiceRegistry.Proofs.FolderDescriptors
import ServiceRegistry.Proofs.Locating
import ServiceRegistry.Proofs.Preference

/-!
# What folders offer

A folder that serves as a module provides a type for a service if the file of the service's name in
the descriptor folder names a type that the folder's manifest has (`FolderModule.provided?`). A scan
makes at most one provider for the service of such a module, and what the provider gives when it is
first resolved is the type that is provided (`FolderModule.filterMap_offers`).

File trees are taken to be `FileTree.Named`, which every change of a tree keeps.
-/

namespace ServiceRegistry

/-! ## Names in file trees -/

/-- A text that can be the name of a file. -/
def Path.IsFileName (name : List Char) : Prop := Path.IsName name ∧ '/' ∉ name

/-- All files and folders of a tree have names. -/
structure FileTree.Named (t : FileTree) : Prop where
  nodes : ∀ node ∈ t.nodes, ∀ name ∈ node.1, Path.IsFileName name
  workingFolder : ∀ name ∈ t.workingFolder, Path.IsFileName name

namespace FileTree

variable {t : FileTree} {place : Place} {node : FileNode} {p root : Path} {name : List Char}

/-- In the empty tree all names are file names. -/
theorem named_empty : Named {} := ⟨nofun, nofun⟩

/-- A node that is set at a place of file names keeps the tree's names in order. -/
theorem Named.setNode (ht : t.Named) (hplace : ∀ name ∈ place, Path.IsFileName name) :
    (t.setNode place node).Named := by
  refine ⟨fun n hn => ?_, ht.workingFolder⟩
  rcases List.mem_append.1 hn with hn | hn
  · exact ht.nodes n (List.mem_filter.1 hn).1
  · rw [List.mem_singleton.1 hn]
    exact hplace

/-- Folders that are made on the way to a place of file names keep the tree's names in order. -/
theorem Named.ensureFolders (ht : t.Named) (hplace : ∀ name ∈ place, Path.IsFileName name) :
    (t.ensureFolders place).Named := by
  unfold FileTree.ensureFolders
  induction List.range (place.length + 1) generalizing t with
  | nil => exact ht
  | cons n rest ih =>
    refine ih ?_
    dsimp only [ensureFolder]
    split
    · exact ht
    · exact ht.setNode fun name hname => hplace name (List.mem_of_mem_take hname)

/-- The names in a path can be names of files. -/
theorem isFileName_of_mem_components (h : .normal name ∈ p.components) : Path.IsFileName name := by
  unfold Path.components at h
  rcases List.mem_append.1 h with h | h
  · split at h
    · cases List.mem_singleton.1 h
    · split at h
      · cases List.mem_singleton.1 h
      · cases h
  · obtain ⟨part, hpart, hcomponent⟩ := List.mem_filterMap.1 h
    unfold Path.component? at hcomponent
    split at hcomponent <;> cases hcomponent
    exact ⟨⟨‹_›, ‹_›, ‹_›⟩, Path.not_mem_of_mem_parts hpart⟩

/-- The place that a path names is one of file names. -/
theorem Named.placeOf (ht : t.Named) (p : Path) : ∀ name ∈ t.placeOf p, Path.IsFileName name := by
  have hplace := ht.workingFolder
  have hnames (name : List Char) (h : .normal name ∈ p.components) := isFileName_of_mem_components h
  unfold FileTree.placeOf
  generalize t.workingFolder = place at hplace ⊢
  generalize p.components = cs at hnames ⊢
  induction cs generalizing place with
  | nil => exact hplace
  | cons c rest ih =>
    refine ih _ ?_ fun name h => hnames name (List.mem_cons_of_mem c h)
    cases c with
    | root => exact nofun
    | current => exact hplace
    | parent => exact fun name h => hplace name (List.dropLast_subset _ h)
    | normal last =>
      intro name h
      rcases List.mem_append.1 h with h | h
      · exact hplace name h
      · rw [List.mem_singleton.1 h]
        exact hnames last List.mem_cons_self

/-- A file that is written keeps the tree's names in order. -/
theorem Named.write (ht : t.Named) (p : Path) (content : Bytes) : (t.write p content).Named := by
  have hplace := ht.placeOf p
  refine (ht.ensureFolders fun name h => ?_).setNode hplace
  exact hplace name (List.dropLast_subset _ h)

/-- A folder that is made keeps the tree's names in order. -/
theorem Named.makeFolder (ht : t.Named) (p : Path) : (t.makeFolder p).Named :=
  ht.ensureFolders (ht.placeOf p)

/-- What is removed leaves the tree's names in order. -/
theorem Named.remove (ht : t.Named) (p : Path) : (t.remove p).Named :=
  ⟨fun n hn => ht.nodes n (List.mem_filter.1 hn).1, ht.workingFolder⟩

/-- What is listed has a name. -/
theorem Named.childrenAt (ht : t.Named) (place : Place) :
    ∀ child ∈ t.childrenAt place, Path.IsFileName child.1 := by
  intro child hchild
  obtain ⟨node, hnode, -⟩ := mem_childrenAt.1 hchild
  exact ht.nodes _ hnode _ List.mem_concat_self

/-- A file in a folder has a file name. -/
theorem Named.isFileName (ht : t.Named) (h : t.hasFile p name = true) : Path.IsFileName name := by
  obtain ⟨place, content, -, hnode⟩ := hasFile_iff.1 h
  exact ht.nodes _ hnode name List.mem_concat_self

/-- A file that can be read under the path of a folder is listed in the folder. -/
theorem hasFile_of_find {folder : Path} {names : List (List Char)} {content : Bytes}
    (hroot : t.isFolder root = true) (hfolder : folder.parts = names ++ [[]])
    (hhead : (folder ++ name).head? ≠ some '/') (hslash : '/' ∉ name)
    (h : t.find (root.join (folder ++ name)) = .ok (place, .file content)) :
    t.hasFile (root.join folder) name = true := by
  obtain ⟨start, hstart⟩ : ∃ start, t.find root = .ok (start, .folder) := by
    unfold isFolder at hroot
    split at hroot
    · exact ⟨_, ‹_›⟩
    · cases hroot
  obtain ⟨mid, hmid, hstep⟩ := find_entry hstart hfolder hhead hslash h
  refine hasFile_iff.2 ⟨mid, content, hmid, ?_⟩
  unfold step node? at hstep
  grind [List.lookup_eq_some_iff]

end FileTree

/-- The folder of a written form is cut from what stands in it. -/
theorem Slashes.Folder.parts {folder : List Char} (hf : Slashes.Folder folder) :
    ∃ names, Path.parts folder = names ++ [[]] := by
  rcases hf.2 with rfl | hslash
  · exact ⟨[], rfl⟩
  · obtain ⟨front, rfl⟩ : ∃ front, folder = front ++ ['/'] :=
      List.getLast?_eq_some_iff.1 (by simpa [Slashes.endsInSlash] using hslash)
    exact ⟨Path.parts front, Path.parts_append_slash front []⟩

/-! ## What a folder provides -/

/-- The type of a name that a manifest has, for the module of a number: first among the types that
are listed, then among those that are imported. -/
def Manifest.type? (m : Manifest) (id : ModuleId) (name : String) : Option LoadedType :=
  if name ∈ m.types then some ⟨name, id⟩ else (m.imports.get? name).map (⟨name, ·⟩)

/-- A type is loaded from a manifest just if the manifest has it, and it is the one that the
manifest has. -/
theorem Manifest.toOption_load (m : Manifest) (id : ModuleId) (name : String) :
    (m.typeSpace.load id name).toOption = m.type? id name := by
  have hdefined : m.typeSpace.defined.contains name = decide (name ∈ m.types) := by
    rw [Bool.eq_iff_iff, decide_eq_true_iff, ← SortedSet.mem_keys_ofList, Dict.mem_keys_iff,
      ← Option.isSome_iff_exists]
    rfl
  unfold TypeSpace.load type?
  simp only [hdefined, decide_eq_true_iff]
  by_cases hname : name ∈ m.types
  · simp [typeSpace, hname, Except.toOption]
  · simp only [typeSpace, hname, if_false, Dict.get?_empty]
    cases m.imports.get? name <;> rfl

namespace FolderModule

/-- The type that a folder, as the module of a number, provides for a service: the file of the
service's name in the descriptor folder names it in its first line, and the manifest has it. -/
def provided? (files : FileTree) (folder : List Char) (service : String) (id : ModuleId)
    (root : Path) : Option LoadedType :=
  match files.find (root.join (folder ++ service.toList)), loadManifest files root with
  | .ok (_, .file content), .ok manifest =>
    match Provider.firstName (.ok (.ofBytes content)) with
    | .ok name => if name.isEmpty then none else manifest.type? id name
    | .error _ => none
  | _, _ => none

variable {m : FolderModule} {files : FileTree} {folder : List Char} {service : String}
  {manifest : Manifest} {l : Location}

/-- The descriptor of a service: the file of that name directly in the descriptor folder. -/
def descriptor? (m : FolderModule) (files : FileTree) (folder : List Char) (service : String) :
    Option Location :=
  let folder := Slashes.asFolder folder
  if files.hasFile (m.root.join folder) service.toList then
    some (.ofEntry m.id (folder ++ service.toList))
  else none

section Named

variable (hnamed : files.Named) (hfolder : staysBelow (Slashes.asFolder folder) = true)
include hnamed hfolder

/-- A scan of a folder shows an entry for each file in the descriptor folder, and for nothing else.
-/
theorem mem_shown_iff : l ∈ ScanRule.shown (m.list files folder) ↔
    ∃ name, files.hasFile (m.root.join (Slashes.asFolder folder)) name = true ∧
      l = .ofEntry m.id (Slashes.asFolder folder ++ name) :=
  mem_shown hfolder fun place _ child hchild =>
    (hnamed.childrenAt place child hchild).imp_left (·.1)

/-- A folder shows at most one descriptor for a service. -/
theorem filter_shown : (ScanRule.shown (m.list files folder)).filter (·.baseName = service) =
    (m.descriptor? files folder service).toList := by
  refine eq_toList_of_nodup ((ScanRule.nodup_shown _).filter _) fun l => ?_
  rw [List.mem_filter, decide_eq_true_iff, mem_shown_iff hnamed hfolder]
  have hbase {name : List Char}
      (hfile : files.hasFile (m.root.join (Slashes.asFolder folder)) name = true) :
      (Location.ofEntry m.id (Slashes.asFolder folder ++ name)).baseName = String.ofList name :=
    baseName_ofEntry_append m.id (Slashes.folder_asFolder folder) (hnamed.isFileName hfile).2
  unfold descriptor?
  constructor
  · rintro ⟨⟨name, hfile, rfl⟩, rfl⟩
    simp [hbase hfile, hfile]
  · intro h
    dsimp only at h
    split at h
    · rename_i hfile
      cases h
      exact ⟨⟨_, hfile, rfl⟩, by rw [hbase hfile, String.ofList_toList]⟩
    · cases h

/-- A scan makes one provider for each file in the descriptor folder. -/
theorem length_offers (rule : ScanRule) (object : Module) (serial : Nat) :
    ((rule.contribution object serial (m.list files folder)).offers service).length =
      if files.hasFile (m.root.join (Slashes.asFolder folder)) service.toList then 1 else 0 := by
  have hlocations := ScanRule.locations_offers rule object serial (m.list files folder) service
  rw [filter_shown hnamed hfolder] at hlocations
  rw [← List.length_map (f := fun p : Provider => p.location), hlocations, descriptor?]
  split <;> rfl

/-- What is scanned are the files in the descriptor folder. -/
theorem mem_services (rule : ScanRule) (object : Module) (serial : Nat) :
    service ∈ (rule.contribution object serial (m.list files folder)).services ↔
      files.hasFile (m.root.join (Slashes.asFolder folder)) service.toList = true := by
  have hfilter : service ∈ (ScanRule.shown (m.list files folder)).map (·.baseName) ↔
      (ScanRule.shown (m.list files folder)).filter (·.baseName = service) ≠ [] := by
    simp [List.filter_eq_nil_iff]
  rw [ScanRule.services_contribution, hfilter, filter_shown hnamed hfolder]
  unfold descriptor?
  dsimp only
  split <;> simp_all

/-- The services of a folder are in ascending order. -/
theorem ascending_services (rule : ScanRule) (object : Module) (serial : Nat) :
    (rule.contribution object serial (m.list files folder)).services.Pairwise (· < ·) := by
  have hf := Slashes.folder_asFolder folder
  rw [ScanRule.services_contribution, List.pairwise_map]
  refine (ascending_shown hfolder).imp_of_mem fun {l l'} hl hl' hlt => ?_
  obtain ⟨name, hfile, rfl⟩ := (mem_shown_iff hnamed hfolder).1 hl
  obtain ⟨name', hfile', rfl⟩ := (mem_shown_iff hnamed hfolder).1 hl'
  have hslash := (hnamed.isFileName hfile).2
  have hslash' := (hnamed.isFileName hfile').2
  rw [baseName_ofEntry_append m.id hf hslash, baseName_ofEntry_append m.id hf hslash']
  rcases lt_trichotomy (String.ofList name) (String.ofList name') with h | h | h
  · exact h
  · rw [String.ofList_injective h] at hlt
    exact absurd hlt (Std.OrientedCmp.not_lt_of_lt hlt)
  · -- The locations would be in the opposite order.
    rw [String.lt_iff_toList_lt, String.toList_ofList, String.toList_ofList] at h
    have hpaths : compare (String.ofList (Slashes.asFolder folder ++ name'))
        (String.ofList (Slashes.asFolder folder ++ name)) = .lt := by
      rw [compare_lt_iff_lt, String.lt_iff_toList_lt, String.toList_ofList, String.toList_ofList]
      exact List.append_left_lt h
    have hgt := Location.compare_ofEntry m.id (by simpa using hf.head?_append hslash')
      (by simpa using hf.head?_append hslash) hpaths
    rw [String.toList_ofList, String.toList_ofList] at hgt
    exact absurd hgt (Std.OrientedCmp.not_lt_of_lt hlt)

end Named

/-- A service for which a type is provided has a descriptor. -/
theorem hasFile_of_provided {root : Path} {id : ModuleId} {t : LoadedType}
    (hroot : files.isFolder root = true) (hslash : '/' ∉ service.toList)
    (h : provided? files (Slashes.asFolder folder) service id root = some t) :
    files.hasFile (root.join (Slashes.asFolder folder)) service.toList = true := by
  have hf := Slashes.folder_asFolder folder
  obtain ⟨names, hnames⟩ := hf.parts
  unfold provided? at h
  split at h
  · rename_i hfind hmanifest
    exact FileTree.hasFile_of_find hroot hnames (hf.head?_append hslash) hslash hfind
  · cases h

/-- A file directly in a folder below the root is below the root. -/
theorem staysBelow_append {folder name : List Char} (hf : Slashes.Folder folder)
    (hfolder : staysBelow folder = true) (hname : Path.IsFileName name) :
    staysBelow (folder ++ name) = true := by
  obtain ⟨names, hnames⟩ := hf.parts
  have hdots := (staysBelow_iff.1 hfolder).2
  rw [hnames] at hdots
  rw [staysBelow_iff, Path.parts_append hnames, Path.parts_of_not_mem hname.2]
  refine ⟨hf.head?_append hname.2, fun h => ?_⟩
  rcases List.mem_append.1 h with h | h
  · exact hdots (List.mem_append_left _ h)
  · exact hname.1.2.2 (List.mem_singleton.1 h).symm

/-- The provider of a folder's descriptor gives what the folder provides. -/
theorem toOption_fetch {p : Provider} (hfolder : staysBelow (Slashes.asFolder folder) = true)
    (hmanifest : loadManifest files m.root = .ok manifest) (htypes : m.types = manifest.typeSpace)
    (hservice : Path.IsFileName service.toList)
    (hl : p.location = .ofEntry m.id (Slashes.asFolder folder ++ service.toList)) :
    (p.fetch (m.view files)).toOption =
      provided? files (Slashes.asFolder folder) service m.id m.root := by
  have hf := Slashes.folder_asFolder folder
  have hhead := hf.head?_append hservice.2
  have hbelow := staysBelow_append hf hfolder hservice
  have hopen : (m.view files).openEntry p.location =
      files.openStream (m.root.join (Slashes.asFolder folder ++ service.toList)) := by
    simp [view, openEntry, hl, Location.ownPath_ofEntry m.id hhead, pathOf_of_staysBelow m hbelow,
      bind, Except.bind]
  have hload (name : String) :
      ((m.view files).loadType name).toOption = manifest.type? m.id name := by
    rw [← Manifest.toOption_load, ← htypes]
    rfl
  unfold Provider.fetch Provider.readName provided?
  rw [hopen, FileTree.openStream, hmanifest]
  cases files.find (m.root.join (Slashes.asFolder folder ++ service.toList)) with
  | error fault => rfl
  | ok there =>
    obtain ⟨place, node⟩ := there
    cases node with
    | folder => rfl
    | file content =>
      dsimp only
      cases Provider.firstName (.ok (.ofBytes content)) with
      | error fault => rfl
      | ok name =>
        dsimp only
        by_cases hempty : name.isEmpty = true
        · rw [if_pos hempty, if_pos hempty]
          rfl
        · rw [if_neg hempty, if_neg hempty, ← hload]
          dsimp only
          cases (m.view files).loadType name <;> rfl

/-- What a scan of a folder contributes for a service comes to what the folder provides, as long as
nothing is remembered. -/
theorem filterMap_offers {s : Stock} {object : Module} {rule : ScanRule} {serial : Nat}
    (hnamed : files.Named) (hfolder : staysBelow (Slashes.asFolder rule.folder.toList) = true)
    (hroot : files.isFolder m.root = true) (hmanifest : loadManifest files m.root = .ok manifest)
    (htypes : m.types = manifest.typeSpace) (hview : s.view object = m.view files)
    (hfresh : ∀ p, s.memo p = none) (hslash : '/' ∉ service.toList) :
    ((rule.contribution object serial (m.list files rule.folder.toList)).offers service).filterMap
        (s.offer? { name := service }) =
      (provided? files (Slashes.asFolder rule.folder.toList) service m.id m.root).toList := by
  have hlocations := ScanRule.locations_offers rule object serial
    (m.list files rule.folder.toList) service
  rw [filter_shown hnamed hfolder] at hlocations
  unfold descriptor? at hlocations
  dsimp only at hlocations
  split at hlocations
  · rename_i hfile
    obtain ⟨p, hp, hl⟩ := List.map_eq_singleton_iff.1 hlocations
    have hmodule : p.module = object := by
      have hmem : p ∈ (rule.contribution object serial
          (m.list files rule.folder.toList)).offers service := by simp [hp]
      exact (ScanRule.of_mem_contribution (Contribution.mem_offers.1 hmem).1).1
    have hfetch := toOption_fetch hfolder hmanifest htypes (hnamed.isFileName hfile) hl
    have hoffer : s.offer? { name := service } p = (p.fetch (m.view files)).toOption := by
      rw [Stock.offer?, Stock.outcome, hfresh, hmodule, hview, Option.getD_none]
      cases p.fetch (m.view files) <;> rfl
    rw [hp, List.filterMap_cons, hoffer, hfetch]
    cases provided? files (Slashes.asFolder rule.folder.toList) service m.id m.root <;> rfl
  · rename_i hfile
    rw [List.map_eq_nil_iff.1 hlocations]
    cases hprovided : provided? files (Slashes.asFolder rule.folder.toList) service m.id m.root with
    | none => rfl
    | some t => exact absurd (hasFile_of_provided hroot hslash hprovided) hfile

end FolderModule

end ServiceRegistry
