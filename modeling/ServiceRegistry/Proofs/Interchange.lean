import Mathlib.Data.List.Forall2
import ServiceRegistry.Proofs.Audience
import ServiceRegistry.Proofs.FolderDescriptors
import ServiceRegistry.Proofs.Locating

/-!
# Folders in place of modules in memory

A module can be held in memory, or lie in a folder with a manifest for its types. The two make their
listings in different ways, the one from the paths of all its entries and the other from the file
tree. Nothing that searches them can tell them apart: a folder that holds what a module in memory
holds (`FolderModule.Mirrors`) shows the same descriptors in the same order, and the providers that
are made of them offer the same (`Stock.Twins`). This is so for every descriptor folder below the
root, also for one that is not there or is a file.

The file tree is taken to hold the entries and nothing else below the root, and to find each of them
(`FileTree.Holds`). That no entry lies below another follows.
-/

namespace ServiceRegistry

/-! ## Listings of modules in memory -/

namespace InMemory

variable {m : InMemory} {folder key child : List Char} {names : List (List Char)} {l : Location}

/-- What a listing shows begins like its folder. -/
theorem head?_child? (hf : Slashes.Folder folder) (hchild : child? folder key = some child) :
    child.head? ≠ some '/' := by
  obtain ⟨sub, hne, hslash, ⟨-, rfl⟩ | rfl⟩ := child?_eq_some hchild
  · exact hf.head?_append hslash
  · rw [List.head?_append_of_ne_nil _ (by simp [hne])]
    exact hf.head?_append hslash

/-- The listing of a module in memory ascends. -/
theorem ascending_list (m : InMemory) (folder : List Char) :
    Location.Ascending (m.list folder) := by
  have hhead (path : String) (hpath : path ∈ m.children (Slashes.asFolder folder)) :
      path.toList.head? ≠ some '/' := by
    obtain ⟨key, -, hkey⟩ := List.mem_filterMap.1 (SortedSet.mem_keys_ofList.1 hpath)
    obtain ⟨child, hchild, rfl⟩ := Option.map_eq_some_iff.1 hkey
    rw [String.toList_ofList]
    exact head?_child? (Slashes.folder_asFolder folder) hchild
  refine List.pairwise_map.2 ((Dict.pairwise_keys _).imp_of_mem fun {a b} ha hb hlt => ?_)
  exact Location.compare_ofEntry m.id (hhead a ha) (hhead b hb) hlt

/-- What a scan of a module in memory shows ascends. -/
theorem ascending_shown (m : InMemory) (folder : List Char) :
    Location.Ascending (ScanRule.shown (.ok (m.list folder))) :=
  ScanRule.ascending_descriptors (m.ascending_list folder)

/-- What a module in memory shows are the entries directly in its descriptor folder. -/
theorem mem_shown : l ∈ ScanRule.shown (.ok (m.list folder)) ↔
    ∃ name, name ≠ [] ∧ '/' ∉ name ∧
      (∃ content, m.entries.get? (String.ofList (Slashes.asFolder folder ++ name)) = some content) ∧
      l = .ofEntry m.id (Slashes.asFolder folder ++ name) := by
  have hshown : l ∈ ScanRule.shown (.ok (m.list folder)) ∧ l.baseName = l.baseName ↔
      m.descriptor? folder l.baseName = some l := mem_shown_list
  rw [and_iff_left rfl] at hshown
  rw [hshown]
  unfold descriptor?
  constructor
  · intro h
    dsimp only at h
    split at h
    · rename_i hentry
      exact ⟨_, hentry.1, hentry.2.1, Option.isSome_iff_exists.1 hentry.2.2,
        (Option.some.inj h).symm⟩
    · cases h
  · rintro ⟨name, hne, hslash, hcontent, rfl⟩
    have hbase := baseName_ofEntry_append m.id (Slashes.folder_asFolder folder) hslash
    simp only [hbase, String.toList_ofList]
    rw [if_pos ⟨hne, hslash, Option.isSome_iff_exists.2 hcontent⟩]

end InMemory

/-! ## Folders that hold what a module in memory holds -/

namespace FileTree

/-- What contents make stand at a place below their folder: the files themselves, and the folders
that lead to them. -/
def Stands (contents : Dict String Bytes) (below : Place) : FileNode → Prop
  | .file content => ∃ path, contents.get? path = some content ∧ Path.parts path.toList = below
  | .folder => ∃ path content rest, contents.get? path = some content ∧ rest ≠ [] ∧
      Path.parts path.toList = below ++ rest

/-- A folder holds contents and nothing else, and each of the files can be found. -/
structure Holds (t : FileTree) (root : Path) (place : Place) (contents : Dict String Bytes) :
    Prop where
  found : t.find root = .ok (place, .folder)
  exactly : ∀ below node, below ≠ [] →
    ((place ++ below, node) ∈ t.nodes ↔ Stands contents below node)
  reads : ∀ path content, contents.get? path = some content →
    t.find (root.join path.toList) = .ok (place ++ Path.parts path.toList, .file content)

end FileTree

/-- The name of the manifest's file. -/
def Manifest.path : String := String.ofList Manifest.fileName

/-- Bytes are a manifest that lists the types which a type space defines and imports. -/
def Manifest.Declares (bytes : Bytes) (types : TypeSpace) : Prop :=
  ∃ text manifest, bytes.text? = some text ∧
    (Json.read? text).bind Manifest.ofJson? = some manifest ∧
    (∀ name, name ∈ manifest.types ↔ types.defined.contains name = true) ∧
    manifest.imports = types.imports

/-- A manifest that names the types and imports of a type space without rejections stands for that
space. -/
theorem Manifest.typeSpace_eq {manifest : Manifest} {types : TypeSpace}
    (hdefined : ∀ name, name ∈ manifest.types ↔ types.defined.contains name = true)
    (himports : manifest.imports = types.imports) (hrejected : types.rejected = .empty) :
    manifest.typeSpace = types := by
  obtain ⟨defined, imports, rejected⟩ := types
  subst himports hrejected
  have hkeys : SortedSet.ofList manifest.types = defined := by
    refine Dict.ext_get? fun name => ?_
    have hmem : name ∈ (SortedSet.ofList manifest.types).keys ↔ name ∈ defined.keys := by
      rw [SortedSet.mem_keys_ofList, hdefined, Dict.mem_keys_iff, Dict.contains,
        Option.isSome_iff_exists]
    rw [Dict.mem_keys_iff, Dict.mem_keys_iff] at hmem
    cases hget : defined.get? name with
    | none =>
      rw [hget] at hmem
      exact Option.eq_none_iff_forall_not_mem.2 fun v hv => by simpa using hmem.1 ⟨v, hv⟩
    | some v =>
      obtain ⟨v', hv'⟩ := hmem.2 ⟨v, hget⟩
      exact hv'
  rw [Manifest.typeSpace, hkeys]

variable {files : FileTree} {root : Path} {place : Place} {contents : Dict String Bytes}
  {path : String} {content : Bytes}

/-- A tree that holds some contents delivers each of them at its path below the root. -/
theorem FileTree.Holds.openStream (h : files.Holds root place contents)
    (hget : contents.get? path = some content) :
    files.openStream (root.join path.toList) = .ok (.ofBytes content) := by
  rw [FileTree.openStream, h.reads path content hget]

/-- A folder with a manifest is taken as a module with the manifest's types. -/
theorem FolderModule.load_of_holds {bytes : Bytes} {types : TypeSpace} (id : ModuleId)
    (h : files.Holds root place contents) (hget : contents.get? Manifest.path = some bytes)
    (hdeclares : Manifest.Declares bytes types) (hrejected : types.rejected = .empty) :
    ∃ name, FolderModule.load files id root = .ok ⟨id, name, root, types⟩ := by
  obtain ⟨text, manifest, htext, hread, hdefined, himports⟩ := hdeclares
  have hfind := h.reads _ _ hget
  have hopen := h.openStream hget
  rw [Manifest.path, String.toList_ofList] at hfind hopen
  have hmanifest : loadManifest files root = .ok manifest := by
    simp [loadManifest, FileTree.isThere, hfind, FileTree.readText, hopen, htext, hread, bind,
      Except.bind, Except.isOk, Except.toBool]
  refine ⟨manifest.name.getD (defaultName id root), ?_⟩
  have htypes := Manifest.typeSpace_eq hdefined himports hrejected
  simp [load, FileTree.isFolder, h.found, hmanifest, htypes, bind, Except.bind, pure, Except.pure]

/-- All that a folder holds has a name. -/
theorem FileTree.Stands.isName {below : Place} {node : FileNode} {name : List Char}
    (hplain : ∀ path ∈ contents.keys, Path.Plain path.toList) (h : Stands contents below node)
    (hname : name ∈ below) : Path.IsName name ∧ '/' ∉ name := by
  obtain ⟨path, content, hget, hmem⟩ : ∃ path content, contents.get? path = some content ∧
      name ∈ Path.parts path.toList := by
    cases node with
    | file content =>
      obtain ⟨path, hget, rfl⟩ := h
      exact ⟨path, content, hget, hname⟩
    | folder =>
      obtain ⟨path, content, rest, hget, -, hparts⟩ := h
      exact ⟨path, content, hget, hparts ▸ List.mem_append_left rest hname⟩
  exact ⟨hplain path (Dict.mem_keys_iff.2 ⟨content, hget⟩) name hmem,
    Path.not_mem_of_mem_parts hmem⟩

/-- A module that is a folder shows the files directly in its descriptor folder. -/
theorem FolderModule.mem_shown_of_holds {f : FolderModule} {folder : List Char}
    {names : List (List Char)} {l : Location} (h : files.Holds f.root place contents)
    (hplain : ∀ path ∈ contents.keys, Path.Plain path.toList)
    (hfolder : Path.Names (Slashes.asFolder folder) names) :
    l ∈ ScanRule.shown (f.list files folder) ↔ ∃ name, name ≠ [] ∧ '/' ∉ name ∧
      (∃ content, contents.get? (String.ofList (Slashes.asFolder folder ++ name)) = some content) ∧
      l = .ofEntry f.id (Slashes.asFolder folder ++ name) := by
  rw [mem_shown (staysBelow_of_names hfolder)]
  · constructor
    · rintro ⟨name, hfile, rfl⟩
      obtain ⟨_, content, hfind, hnode⟩ := FileTree.hasFile_iff.1 hfile
      cases FileTree.eq_of_find_folder h.found hfolder hfind
      rw [List.append_assoc] at hnode
      have hstands := (h.exactly (names ++ [name]) _ (by simp)).1 hnode
      obtain ⟨hname, hslash⟩ := hstands.isName hplain List.mem_concat_self
      obtain ⟨path, hget, hparts⟩ := hstands
      refine ⟨name, hname.1, hslash, ⟨content, ?_⟩, rfl⟩
      rwa [← hfolder.eq_append hparts, String.ofList_toList]
    · rintro ⟨name, -, hslash, ⟨content, hget⟩, rfl⟩
      have hfind := h.reads _ _ hget
      have hparts := hfolder.parts_append_name hslash
      rw [String.toList_ofList] at hfind
      refine ⟨name, FileTree.hasFile_iff.2 ⟨place ++ names, content,
        FileTree.find_folder h.found hfolder hslash hfind, ?_⟩, rfl⟩
      rw [List.append_assoc]
      exact (h.exactly _ _ (by simp)).2 ⟨_, hget, by rw [String.toList_ofList, hparts]⟩
  · intro place' hfind child hchild
    cases FileTree.eq_of_find_folder h.found hfolder hfind
    obtain ⟨node, hnode, -⟩ := FileTree.mem_childrenAt.1 hchild
    rw [List.append_assoc] at hnode
    have hstands := (h.exactly (names ++ [child.1]) _ (by simp)).1 hnode
    obtain ⟨hname, hslash⟩ := hstands.isName hplain List.mem_concat_self
    exact ⟨hname.1, hslash⟩

/-! ## Opened entries -/

/-- A module in memory delivers what its entry holds. -/
theorem InMemory.openEntry_ofEntry {m : InMemory} (hhead : path.toList.head? ≠ some '/')
    (hget : m.entries.get? path = some content) :
    m.openEntry (.ofEntry m.id path.toList) = .ok (.ofBytes content) := by
  simp [openEntry, Location.ownPath_ofEntry m.id hhead, hget, bind, Except.bind]

/-- A folder module delivers what the tree holds for its entry. -/
theorem FolderModule.openEntry_ofEntry {f : FolderModule} (h : files.Holds f.root place contents)
    (hplain : Path.Plain path.toList) (hget : contents.get? path = some content) :
    f.openEntry files (.ofEntry f.id path.toList) = .ok (.ofBytes content) := by
  have hpath := f.pathOf_of_staysBelow (staysBelow_of_plain hplain)
  simp [openEntry, Location.ownPath_ofEntry f.id hplain.head?, hpath, h.openStream hget, bind,
    Except.bind]

/-! ## Contributions -/

/-- Two providers offer the same: as long as the modules answer as they do in a stock, and the same
is remembered of the two, they resolve alike, and the same is remembered then. -/
def Stock.Twins (s : Stock) (p q : Provider) : Prop :=
  p.service = q.service ∧ p.location = q.location ∧
    ∀ s' : Stock, (∀ m, s'.view m = s.view m) → s'.memo p = s'.memo q →
      (s'.resolve p).1 = (s'.resolve q).1 ∧ (s'.resolve p).2.memo p = (s'.resolve q).2.memo q

/-- Providers that open to the same and know the same types are twins. -/
theorem Stock.twins_of_eq {s : Stock} {p q : Provider} (hservice : p.service = q.service)
    (hlocation : p.location = q.location) (hcache : p.cacheFailures = q.cacheFailures)
    (hopened : (s.view p.module).openEntry p.location = (s.view q.module).openEntry q.location)
    (htypes : (s.view p.module).loadType = (s.view q.module).loadType) : s.Twins p q := by
  refine ⟨hservice, hlocation, fun s' hview hmemo => ?_⟩
  have hname : p.readName (s'.view p.module) = q.readName (s'.view q.module) := by
    unfold Provider.readName
    rw [hview, hview, hopened, hlocation]
  have hfetch : p.fetch (s'.view p.module) = q.fetch (s'.view q.module) := by
    unfold Provider.fetch
    rw [hname, hview, hview, htypes]
  have houtcome : s'.outcome p = s'.outcome q := by
    rw [outcome, outcome, hmemo, hfetch]
  refine ⟨by rw [fst_resolve, fst_resolve, houtcome], ?_⟩
  rw [memo_resolve, memo_resolve, ← hmemo, ← houtcome, Provider.remember, Provider.remember, hcache]
  simp

/-- A plain folder has one written form, however many slashes stand in front and whether one stands
at the end. -/
theorem Slashes.asFolder_of_plain {D : Path} (hD : D.Plain) (k : Nat) {folder : List Char}
    (hfolder : folder = List.replicate k '/' ++ D ∨ folder = List.replicate k '/' ++ D ++ ['/']) :
    Slashes.asFolder folder = D ++ ['/'] := by
  have hdrop (rest : List Char) :
      Slashes.dropLeading (List.replicate k '/' ++ (D ++ rest)) = D ++ rest := by
    rw [dropLeading, List.dropWhile_append_of_pos (by simp)]
    refine dropLeading_eq_self ?_
    rw [List.head?_append_of_ne_nil _ hD.ne_nil]
    exact hD.head?
  have hend : Slashes.endsInSlash D = false := by
    unfold endsInSlash
    rw [beq_eq_false_iff_ne]
    intro hlast
    obtain ⟨front, rfl⟩ := List.getLast?_eq_some_iff.1 hlast
    exact (hD [] (by rw [Path.parts_append_slash]; exact List.mem_concat_self)).1 rfl
  rcases hfolder with rfl | rfl
  · have hnone := hdrop []
    rw [List.append_nil] at hnone
    simp [asFolder, hnone, hend, hD.ne_nil]
  · simp [asFolder, hdrop, endsInSlash]

/-- A folder holds a module's entries, beside a manifest with the module's types. -/
structure FolderModule.Mirrors (files : FileTree) (root : Path) (m : InMemory) : Prop where
  plain : ∀ path ∈ m.entries.keys, Path.Plain path.toList
  unlisted : Manifest.path ∉ m.entries.keys
  unrejected : m.types.rejected = .empty
  holds : ∃ place bytes, Manifest.Declares bytes m.types ∧
    files.Holds root place (m.entries.insert Manifest.path bytes)

/-- Below a folder inside the module, the manifest makes no difference. -/
theorem get?_insert_manifest {d : Dict String Bytes} {folder name : List Char}
    {names : List (List Char)} (hfolder : Path.Names folder names) (hnames : names ≠ [])
    (hslash : '/' ∉ name) (bytes : Bytes) :
    (d.insert Manifest.path bytes).get? (String.ofList (folder ++ name)) =
      d.get? (String.ofList (folder ++ name)) := by
  rw [Dict.get?_insert, if_neg]
  intro heq
  have hparts := congrArg (fun path : String => Path.parts path.toList) heq
  simp only [String.toList_ofList, hfolder.parts_append_name hslash] at hparts
  have hmanifest : Path.parts Manifest.path.toList = [Manifest.fileName] := by decide
  rw [hmanifest] at hparts
  cases names with
  | nil => exact hnames rfl
  | cons first names => cases names <;> cases hparts

section Mirrors

variable {m : InMemory} {f : FolderModule} {folder : List Char} {names : List (List Char)}
  {name : List Char}

/-- The manifest's own path is plain, so its entry may be added. -/
theorem plain_insert_manifest (hplain : ∀ path ∈ m.entries.keys, Path.Plain path.toList)
    (bytes : Bytes) :
    ∀ path ∈ (m.entries.insert Manifest.path bytes).keys, Path.Plain path.toList := by
  intro path hpath
  obtain ⟨content, hget⟩ := Dict.mem_keys_iff.1 hpath
  rw [Dict.get?_insert] at hget
  split at hget
  · rename_i heq
    rw [heq]
    decide
  · exact hplain path (Dict.mem_keys_iff.2 ⟨content, hget⟩)

/-- A folder and the module whose entries it holds show the same descriptors in the same order. -/
theorem FolderModule.Mirrors.shown (h : Mirrors files f.root m) (hid : f.id = m.id)
    (hfolder : Path.Names (Slashes.asFolder folder) names) (hnames : names ≠ []) :
    ScanRule.shown (f.list files folder) = ScanRule.shown (.ok (m.list folder)) := by
  obtain ⟨place, bytes, -, hholds⟩ := h.holds
  have hbelow := staysBelow_of_names hfolder
  refine (ascending_shown hbelow).eq_of_mem_iff (m.ascending_shown folder) fun l => ?_
  rw [mem_shown_of_holds hholds (plain_insert_manifest h.plain bytes) hfolder, InMemory.mem_shown,
    hid]
  refine exists_congr fun name => and_congr_right fun _ => and_congr_right fun hslash => ?_
  rw [get?_insert_manifest hfolder hnames hslash]

/-- What both show, both open with the same result. -/
theorem FolderModule.Mirrors.openEntry (h : Mirrors files f.root m) (hid : f.id = m.id)
    {l : Location} (hl : l ∈ ScanRule.shown (.ok (m.list folder))) :
    f.openEntry files l = m.openEntry l := by
  obtain ⟨place, bytes, -, hholds⟩ := h.holds
  obtain ⟨name, -, hslash, ⟨content, hget⟩, rfl⟩ := InMemory.mem_shown.1 hl
  have hkey : String.ofList (Slashes.asFolder folder ++ name) ∈ m.entries.keys :=
    Dict.mem_keys_iff.2 ⟨content, hget⟩
  have hplain := h.plain _ hkey
  have hinserted : (m.entries.insert Manifest.path bytes).get?
      (String.ofList (Slashes.asFolder folder ++ name)) = some content := by
    rw [Dict.get?_insert, if_neg fun heq => h.unlisted (by rwa [heq] at hkey), hget]
  have hopen := openEntry_ofEntry hholds hplain hinserted
  have hmemory := InMemory.openEntry_ofEntry hplain.head? hget
  rw [String.toList_ofList] at hopen hmemory
  rw [hmemory, ← hid, hopen]

/-- A folder that mirrors a module in memory loads as a module with the same number and types. -/
theorem FolderModule.Mirrors.load (h : Mirrors files root m) :
    ∃ f, FolderModule.load files m.id root = .ok f ∧ f.root = root ∧ f.id = m.id ∧
      f.types = m.types := by
  obtain ⟨place, bytes, hdeclares, hholds⟩ := h.holds
  have hget : (m.entries.insert Manifest.path bytes).get? Manifest.path = some bytes := by
    rw [Dict.get?_insert, if_pos rfl]
  obtain ⟨name, hload⟩ := load_of_holds m.id hholds hget hdeclares h.unrejected
  exact ⟨_, hload, rfl, rfl, rfl⟩

end Mirrors

/-- A module in memory and a folder that holds the same are searched with the same result, and their
providers offer the same. -/
theorem World.twins_of_mirrors {w : World} {m : InMemory} {root : Path} {rule : ScanRule}
    {D : Path} {k : Nat} {a b : Module}
    (hmirrors : FolderModule.Mirrors w.stock.files root m) (hD : D.Plain)
    (hfolder : rule.folder.toList = List.replicate k '/' ++ D ∨
      rule.folder.toList = List.replicate k '/' ++ D ++ ['/'])
    (hb : (w.stock.objects.get b.object).content = .inMemory m) :
    ∃ f, FolderModule.load w.stock.files m.id root = .ok f ∧
      ((w.stock.objects.get a.object).content = .folder f →
        ∀ {δ : Type} (outside : Signal → World × δ → World × δ → Prop) (d d' : δ)
          (c c' : Contribution) (t t' : World × δ), (scan rule a).Ends outside (w, d) c t →
          (scan rule b).Ends outside (w, d') c' t' →
            List.Forall₂ w.stock.Twins c.providers c'.providers) := by
  obtain ⟨f, hload, rfl, hid, htypes⟩ := hmirrors.load
  refine ⟨f, hload, fun ha {δ} outside d d' c c' t t' hc hc' => ?_⟩
  have hnames : Path.Names (Slashes.asFolder rule.folder.toList) D.parts := by
    rw [Slashes.asFolder_of_plain hD k hfolder]
    exact hD.names
  obtain ⟨-, -, serial, -, -, -, rfl⟩ := ends_scan 0 0 hc
  obtain ⟨-, -, serial', -, -, -, rfl⟩ := ends_scan 0 0 hc'
  have hviewa : w.stock.view a = f.view w.stock.files := by
    rw [Stock.view, ha]
    rfl
  have hviewb : w.stock.view b = m.view := by
    rw [Stock.view, hb]
    rfl
  have hshown : ScanRule.shown ((w.stock.view a).list rule.folder.toList) =
      ScanRule.shown ((w.stock.view b).list rule.folder.toList) := by
    rw [hviewa, hviewb]
    exact hmirrors.shown hid hnames (Path.parts_ne_nil D)
  rw [ScanRule.providers_contribution, ScanRule.providers_contribution]
  dsimp only
  rw [hshown, List.forall₂_map_left_iff, List.forall₂_map_right_iff, List.forall₂_same]
  rintro ⟨l, n⟩ hl
  have hmem := List.mem_of_getElem? (List.mem_zipIdx_iff_getElem?.1 hl)
  rw [hviewb] at hmem
  refine Stock.twins_of_eq rfl rfl rfl ?_ ?_ <;> dsimp only <;> rw [hviewa, hviewb]
  · exact hmirrors.openEntry hid hmem
  · simp only [FolderModule.view, InMemory.view, hid, htypes]

/-! A folder with a descriptor, another file in a subfolder and a manifest. -/

section Example

/-- The module in memory. -/
def sharedModule : InMemory :=
  .build ⟨3⟩
    [.entry "S/Greeter" (Bytes.ofText "Hello\n"), .entry "S/n/Greeter" [], .defines "Hello"]

/-- The manifest of the folder. -/
def sharedManifest : Bytes := Bytes.ofText "\x7b\"types\":[\"Hello\"]\x7d"

/-- The files of the folder. -/
def sharedFiles : FileTree where
  nodes := [(["m".toList], .folder), (["m".toList, "S".toList], .folder),
    (["m".toList, "S".toList, "Greeter".toList], .file (Bytes.ofText "Hello\n")),
    (["m".toList, "S".toList, "n".toList], .folder),
    (["m".toList, "S".toList, "n".toList, "Greeter".toList], .file []),
    (["m".toList, Manifest.fileName], .file sharedManifest)]

/-- The rule by which both are scanned. -/
def sharedRule : ScanRule := { folder := "/S" }

/-- Two module objects, one for the folder and one in memory. -/
def sharedWorld : World where
  stock := {
    files := sharedFiles
    objects := ⟨[⟨.folder ⟨⟨3⟩, "m", "m".toList, sharedModule.types⟩, 0, 0, 0⟩,
      ⟨.inMemory sharedModule, 0, 0, 0⟩]⟩ }

/-- The folder of the example mirrors the module of the example. -/
theorem mirrors_sharedFiles : FolderModule.Mirrors sharedFiles "m".toList sharedModule where
  plain := by decide
  unlisted := by decide
  unrejected := by decide
  holds := by
    have hentries : (sharedModule.entries.insert Manifest.path sharedManifest).entries =
        [("S/Greeter", Bytes.ofText "Hello\n"), ("S/n/Greeter", []),
          (Manifest.path, sharedManifest)] := by decide +kernel
    refine ⟨["m".toList], sharedManifest, ⟨"\x7b\"types\":[\"Hello\"]\x7d", { types := ["Hello"] },
      by decide +kernel, by decide +kernel, fun name => ?_, rfl⟩, rfl, ?_, ?_⟩
    · have hdefined : sharedModule.types.defined = Dict.empty.insert "Hello" () := rfl
      rw [hdefined, Dict.contains_insert]
      simp [Dict.contains]
    · intro below node hbelow
      have hparts : Path.parts "S/Greeter".toList = ["S".toList, "Greeter".toList] ∧
          Path.parts "S/n/Greeter".toList = ["S".toList, "n".toList, "Greeter".toList] ∧
          Path.parts Manifest.path.toList = [Manifest.fileName] := by decide
      obtain ⟨hfirst, hsecond, hlast⟩ := hparts
      cases node with
      | file content =>
        simp only [FileTree.Stands, Dict.get?_eq_some_iff, hentries, sharedFiles, List.mem_cons,
          List.cons_append, List.nil_append, List.cons.injEq, true_and, Prod.mk.injEq,
          List.not_mem_nil, or_false, or_and_right, exists_or, and_assoc, exists_eq_left, hfirst,
          hsecond, hlast]
        grind
      | folder =>
        simp only [FileTree.Stands, Dict.get?_eq_some_iff, hentries, sharedFiles, List.mem_cons,
          List.cons_append, List.nil_append, List.cons.injEq, true_and, Prod.mk.injEq,
          List.not_mem_nil, or_false, or_and_right, exists_or, and_assoc, exists_eq_left, hfirst,
          hsecond, hlast, exists_and_left, reduceCtorEq, and_false, and_true, false_or]
        constructor
        · rintro (h | rfl | rfl)
          · exact absurd h hbelow
          · exact .inl ⟨["Greeter".toList], by simp⟩
          · exact .inr (.inl ⟨["Greeter".toList], by simp⟩)
        · rintro (⟨rest, hrest, h⟩ | ⟨rest, hrest, h⟩ | ⟨rest, hrest, h⟩) <;>
            rcases below with _ | ⟨x, _ | ⟨y, _ | ⟨z, below⟩⟩⟩ <;> simp_all
    · intro path content hget
      rw [Dict.get?_eq_some_iff, hentries] at hget
      simp only [List.mem_cons, Prod.mk.injEq, List.not_mem_nil, or_false] at hget
      rcases hget with ⟨rfl, rfl⟩ | ⟨rfl, rfl⟩ | ⟨rfl, rfl⟩ <;> rfl

/-- The object of the folder. -/
def folderObject : Module := ⟨0, ⟨3⟩, "m"⟩

/-- The object of the module in memory. -/
def memoryObject : Module := ⟨1, ⟨3⟩, "module-3"⟩

/-- Both are searched from the same state; neither listing is interfered with. -/
theorem World.twins_of_mirrors_shared : ∃ c c' : Contribution,
    (∃ t, (scan sharedRule folderObject).Ends (fun _ s t => t = s) (sharedWorld, ()) c t) ∧
    (∃ t, (scan sharedRule memoryObject).Ends (fun _ s t => t = s) (sharedWorld, ()) c' t) ∧
    c.services = ["Greeter"] ∧ c'.services = ["Greeter"] ∧
    List.Forall₂ sharedWorld.stock.Twins c.providers c'.providers := by
  have hfolder : sharedRule.folder.toList = List.replicate 1 '/' ++ "S".toList := rfl
  obtain ⟨f, hload, htwins⟩ := twins_of_mirrors (w := sharedWorld) (a := folderObject)
    (b := memoryObject) mirrors_sharedFiles (by decide) (.inl hfolder) rfl
  have hf : FolderModule.load sharedFiles ⟨3⟩ "m".toList =
      .ok ⟨⟨3⟩, "m", "m".toList, sharedModule.types⟩ := by decide +kernel
  cases hf.symm.trans hload
  exact ⟨_, _, ⟨_, _, rfl, rfl, rfl⟩, ⟨_, _, rfl, rfl, rfl⟩, rfl, rfl,
    htwins rfl (fun _ s t => t = s) () () _ _ _ _ ⟨_, rfl, rfl, rfl⟩ ⟨_, rfl, rfl, rfl⟩⟩

end Example

end ServiceRegistry
