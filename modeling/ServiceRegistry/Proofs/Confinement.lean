import ServiceRegistry.Proofs.FolderOffers

/-!
# Folders are not left

A folder that serves as a module answers every question about its entries in one of two ways: with a
fault, whatever the file tree holds, or by one look at one path, whose components are those of the
folder's root and then names alone (`FolderModule.confined_of_load`). The names are those of the
path that was asked for; empty parts and single dots drop out, and a path with two dots among its
parts is never looked at. So what is looked at lies below the root, under these names
(`Path.Inside`).

A root is never the empty path, since that leads nowhere and no module is made of it
(`FolderModule.of_load`). Behind an empty root, a dot at the start of a path would stay.
-/

namespace ServiceRegistry

namespace Path

variable {p q root front : Path} {part : List Char} {parts : List (List Char)}

/-! ## Names and ways out -/

/-- The name that a component is, if it is one. -/
def Component.name? : Component → Option (List Char)
  | .normal name => some name
  | .root | .current | .parent => none

/-- The names in a path, from its start onwards. -/
def normalNames (p : Path) : List (List Char) := p.components.filterMap Component.name?

/-- A path can lead out of the folder where it starts: it is absolute, or it goes up somewhere. -/
def Escapes (p : Path) : Prop := p.isAbsolute = true ∨ .parent ∈ p.components

instance (p : Path) : Decidable p.Escapes := inferInstanceAs (Decidable (_ ∨ _))

/-- A part of a path that is neither a name nor the way up leads nowhere else. -/
theorem eq_of_not_isName (hname : ¬ IsName part) (hdots : part ≠ ['.', '.']) :
    part = [] ∨ part = ['.'] := by
  by_contra hneither
  rw [not_or] at hneither
  exact hname ⟨hneither.1, hneither.2, hdots⟩

/-- Without two dots in between, parts stand for their names and nothing else. -/
theorem filterMap_component? (hdots : ['.', '.'] ∉ parts) :
    parts.filterMap component? = (parts.filter (IsName ·)).map .normal := by
  induction parts with
  | nil => rfl
  | cons part rest ih =>
    rw [List.mem_cons, not_or] at hdots
    rw [List.filterMap_cons, List.filter_cons, ih hdots.2]
    by_cases hname : IsName part
    · simp [hname, hname.component?]
    · rcases eq_of_not_isName hname (Ne.symm hdots.1) with rfl | rfl <;> simp [component?, hname]

/-- The names of a path that does not go up are all its parts that are names. -/
theorem normalNames_eq (hescapes : ¬ p.Escapes) :
    p.normalNames = p.parts.filter (IsName ·) := by
  have hdots : ['.', '.'] ∉ p.parts := fun h => hescapes (.inr (parent_mem_components_iff.2 h))
  have hrelative : p.isAbsolute = false := Bool.eq_false_iff.2 fun h => hescapes (.inl h)
  have hstart : (if p.parts.head? = some ['.'] then [Component.current] else []).filterMap
      Component.name? = [] := by
    split <;> rfl
  unfold normalNames components
  rw [hrelative, if_neg Bool.false_ne_true, List.filterMap_append, hstart, List.nil_append,
    filterMap_component? hdots, List.filterMap_map]
  exact List.filterMap_some

/-! ## Paths behind a root -/

/-- What follows a slash adds its components to those of the path before the slash. -/
theorem components_append_slash (hne : front ≠ []) (q : Path) :
    components (front ++ '/' :: q) = components front ++ q.parts.filterMap component? := by
  have habsolute : isAbsolute (front ++ '/' :: q) = isAbsolute front := by
    cases front with
    | nil => exact absurd rfl hne
    | cons c rest => rfl
  have hhead : (parts front ++ q.parts).head? = (parts front).head? := by
    obtain ⟨part, more, hparts⟩ := List.exists_cons_of_ne_nil (parts_ne_nil front)
    simp [hparts]
  unfold components
  rw [habsolute, parts_append_slash, hhead, List.filterMap_append, ← List.append_assoc]

/-- A slash at the end of a path is not seen. -/
theorem components_append_end (hne : p ≠ []) : components (p ++ ['/']) = components p := by
  rw [components_append_slash hne]
  simp [parts, component?]

/-- Joined to a root, a relative path adds its components but those that lead nowhere. -/
theorem components_join (hroot : root ≠ []) (hq : q.head? ≠ some '/') :
    (root.join q).components = root.components ++ q.parts.filterMap component? := by
  obtain ⟨front, hfront, hjoin⟩ := join_eq hroot
  rw [hjoin q hq]
  by_cases hne : front = []
  · -- the root is a slash and nothing else
    subst hne
    rcases hfront with rfl | rfl
    · exact absurd rfl hroot
    · rfl
  · rw [components_append_slash hne]
    rcases hfront with rfl | rfl
    · rfl
    · rw [components_append_end hne]

/-- The written form of a folder has the components of the folder's path. -/
theorem components_asFolder (folder : List Char) :
    components (Slashes.asFolder folder) = components (Slashes.dropLeading folder) := by
  unfold Slashes.asFolder
  dsimp only
  split
  · rfl
  · rename_i hfolder
    refine components_append_end fun hnil => hfolder ?_
    simp [hnil]

/-- A path leads on from a root by the names of another path and by nothing else. Where it leads
in a tree lies below the place of the root. -/
structure Inside (root q p : Path) : Prop where
  components : p.components = root.components ++ q.normalNames.map .normal
  isFileName : ∀ name ∈ q.normalNames, IsFileName name
  below : ∀ (files : FileTree) (place : Place) (there : Place × FileNode),
    files.find root = .ok (place, .folder) → files.find p = .ok there →
      there.1 = place ++ q.normalNames

end Path

namespace FileTree

variable {t : FileTree} {here there : Place × FileNode} {part : List Char}
  {parts : List (List Char)}

/-- One part of a path leads on by its name, or nowhere. -/
theorem fst_of_step (hdots : part ≠ ['.', '.']) (h : t.step here part = .ok there) :
    there.1 = here.1 ++ [part].filter (Path.IsName ·) := by
  by_cases hname : Path.IsName part
  · simp [hname, (step_eq_ok hname h).2.1]
  · have hdrop := Path.eq_of_not_isName hname hdots
    obtain ⟨here, node⟩ := here
    unfold step at h
    cases node with
    | file content => cases h
    | folder =>
      dsimp only at h
      rw [if_pos hdrop] at h
      cases h
      simp [hname]

/-- A walk without steps upwards leads on by the names on its way. -/
theorem fst_of_walk (hdots : ['.', '.'] ∉ parts) (h : parts.foldlM t.step here = .ok there) :
    there.1 = here.1 ++ parts.filter (Path.IsName ·) := by
  induction parts generalizing here with
  | nil =>
    cases h
    simp
  | cons part rest ih =>
    rw [List.mem_cons, not_or] at hdots
    rw [← List.singleton_append] at h
    obtain ⟨mid, hmid, hrest⟩ := walk_append.1 h
    rw [ih hdots.2 hrest, fst_of_step (Ne.symm hdots.1) (walk_singleton.1 hmid),
      List.append_assoc, ← List.filter_append]
    rfl

end FileTree

/-- A path that does not escape stays inside the root to which it is appended. -/
theorem Path.inside_join {root q : Path} (hroot : root ≠ []) (hescapes : ¬ q.Escapes) :
    Path.Inside root q (root.join q) := by
  have hnames := Path.normalNames_eq hescapes
  have hhead : q.head? ≠ some '/' := fun h => hescapes (.inl (by simp [Path.isAbsolute, h]))
  have hdots : ['.', '.'] ∉ q.parts :=
    fun h => hescapes (.inr (Path.parent_mem_components_iff.2 h))
  refine ⟨?_, ?_, ?_⟩
  · rw [Path.components_join hroot hhead, Path.filterMap_component? hdots, hnames]
  · intro name hname
    rw [hnames, List.mem_filter, decide_eq_true_eq] at hname
    exact ⟨hname.2, Path.not_mem_of_mem_parts hname.1⟩
  · intro files place there hplace hthere
    rw [hnames]
    exact FileTree.fst_of_walk hdots ((FileTree.find_join hplace hhead).1 hthere).2

/-! ## What a folder looks at -/

namespace FolderModule

variable {m : FolderModule} {files : FileTree} {id : ModuleId} {root q : Path} {l : Location}
  {folder : List Char}

/-- The check of a path passes just those that do not go up. -/
theorem staysBelow_iff_not_escapes : staysBelow q = true ↔ ¬ q.Escapes := by
  rw [Path.Escapes, Path.parent_mem_components_iff, not_or, staysBelow_iff]
  simp [Path.isAbsolute]

/-- A path that goes up is refused, whatever the root. -/
theorem pathOf_of_escapes (m : FolderModule) (h : q.Escapes) :
    m.pathOf q = .error ⟨.invalidInput, "invalid entry path: " ++ String.ofList q⟩ := by
  have hbelow : ¬ staysBelow q = true := fun hbelow => staysBelow_iff_not_escapes.1 hbelow h
  exact if_neg hbelow

/-- A path that does not go up is joined to the root. -/
theorem pathOf_of_not_escapes (m : FolderModule) (h : ¬ q.Escapes) :
    m.pathOf q = .ok (m.root.join q) :=
  pathOf_of_staysBelow m (staysBelow_iff_not_escapes.2 h)

/-- What a folder makes of the listing of the path that it looked at. -/
def listing (m : FolderModule) (folder : List Char) :
    Except Fault (List (List Char × Bool)) → Except Fault (List Location)
  | .error fault => if fault.kind = .notFound then .ok [] else .error fault
  | .ok children => .ok (Location.sortUnique (m.locations folder children))

/-- A listing is one look at the path that the folder's written form leads to, if it is not refused.
-/
theorem list_eq (m : FolderModule) (files : FileTree) (folder : List Char) :
    m.list files folder = (m.pathOf (Slashes.asFolder folder)).bind fun p =>
      m.listing (Slashes.asFolder folder) (files.list p) := by
  unfold list
  dsimp only [bind]
  cases m.pathOf (Slashes.asFolder folder) with
  | error fault => rfl
  | ok p =>
    dsimp only [Except.bind]
    cases files.list p <;> rfl

/-- An entry of the module itself is opened at the path that its location names, if that is not
refused. -/
theorem openEntry_of_split? (files : FileTree) (hl : l.split? = some (m.id, q)) :
    m.openEntry files l = (m.pathOf q).bind files.openStream := by
  simp [openEntry, Location.ownPath, Location.pathIn?, hl, bind, Except.bind]

/-- An entry of another module is refused without a look at the files. -/
theorem openEntry_of_owner? (files : FileTree) (hl : l.owner? ≠ some m.id) :
    m.openEntry files l = .error (.foreignEntry m.id l) := by
  have hpath : l.pathIn? m.id = none := by
    unfold Location.pathIn?
    unfold Location.owner? at hl
    cases hsplit : l.split? with
    | none => rfl
    | some p =>
      rw [hsplit] at hl
      exact if_neg fun hid => hl (congrArg some hid)
  simp [openEntry, Location.ownPath, hpath, bind, Except.bind]

/-- A module that was loaded has the root and the number with which it was asked for. -/
theorem of_load (h : load files id root = .ok m) : root ≠ [] ∧ m.root = root ∧ m.id = id := by
  obtain ⟨hfolder, manifest, -, rfl⟩ := load_eq_ok h
  refine ⟨?_, rfl, rfl⟩
  rintro rfl
  simp [FileTree.isFolder, FileTree.find] at hfolder

/-- The questions to a folder about its entries: each is refused whatever the file tree holds, or
it comes to one look at one path inside the root. -/
structure Confined (m : FolderModule) : Prop where
  /-- What is not a location of the module's own is not found. -/
  refuses_foreign : ∀ l : Location, l.owner? ≠ some m.id → ∀ files, m.openEntry files l =
    .error ⟨.notFound, l.text ++ " does not belong to module " ++ m.id.text⟩
  /-- A path that can lead out is no path of an entry. -/
  refuses_open : ∀ (l : Location) (q : Path), l.split? = some (m.id, q) → q.Escapes → ∀ files,
    m.openEntry files l = .error ⟨.invalidInput, "invalid entry path: " ++ String.ofList q⟩
  /-- Any other path is looked at behind the root. -/
  opens_inside : ∀ (l : Location) (q : Path), l.split? = some (m.id, q) → ¬ q.Escapes →
    ∃ p, Path.Inside m.root q p ∧ ∀ files, m.openEntry files l = files.openStream p
  /-- A folder whose path goes up somewhere is no folder of the module. -/
  refuses_list : ∀ folder : List Char,
    .parent ∈ Path.components (Slashes.dropLeading folder) → ∀ files, m.list files folder =
      .error ⟨.invalidInput, "invalid entry path: " ++ String.ofList (Slashes.asFolder folder)⟩
  /-- Any other folder is looked at behind the root. -/
  lists_inside : ∀ folder : List Char,
    .parent ∉ Path.components (Slashes.dropLeading folder) →
      ∃ p, Path.Inside m.root (Slashes.dropLeading folder) p ∧
        ∀ files, m.list files folder = m.listing (Slashes.asFolder folder) (files.list p)
  /-- The check of paths lets through those that do not lead out, and no others. -/
  admits : ∀ q : Path, (∃ p, m.pathOf q = .ok p) ↔ ¬ q.Escapes

/-- The written form of a folder goes up just if the given one does, where the slashes in front do
not count. -/
theorem escapes_asFolder_iff : Path.Escapes (Slashes.asFolder folder) ↔
    .parent ∈ Path.components (Slashes.dropLeading folder) := by
  have hrelative := Path.isAbsolute_eq_false (Slashes.folder_asFolder folder).1
  rw [Path.Escapes, hrelative, Path.components_asFolder]
  simp

/-- Whatever a folder that was taken as a module is asked, it is not left. -/
theorem confined_of_load (h : load files id root = .ok m) :
    m.id = id ∧ m.root = root ∧ m.Confined := by
  obtain ⟨hne, hroot, hid⟩ := of_load h
  refine ⟨hid, hroot, ?_⟩
  rw [← hroot] at hne
  constructor
  case refuses_foreign => exact fun l hl files => openEntry_of_owner? files hl
  case refuses_open =>
    intro l q hl hescapes files
    rw [openEntry_of_split? files hl, pathOf_of_escapes m hescapes]
    rfl
  case opens_inside =>
    intro l q hl hescapes
    refine ⟨m.root.join q, Path.inside_join hne hescapes, fun files => ?_⟩
    rw [openEntry_of_split? files hl, pathOf_of_not_escapes m hescapes]
    rfl
  case refuses_list =>
    intro folder hparent files
    rw [list_eq, pathOf_of_escapes m (escapes_asFolder_iff.2 hparent)]
    rfl
  case lists_inside =>
    intro folder hparent
    have hescapes := mt escapes_asFolder_iff.1 hparent
    refine ⟨m.root.join (Slashes.asFolder folder), ?_, fun files => ?_⟩
    · have hinside := Path.inside_join hne hescapes
      have hnames : Path.normalNames (Slashes.asFolder folder) =
          Path.normalNames (Slashes.dropLeading folder) :=
        congrArg (List.filterMap Path.Component.name?) (Path.components_asFolder folder)
      exact ⟨hnames ▸ hinside.components, hnames ▸ hinside.isFileName, hnames ▸ hinside.below⟩
    · rw [list_eq, pathOf_of_not_escapes m hescapes]
      rfl
  case admits =>
    intro q
    constructor
    · rintro ⟨p, hp⟩ hescapes
      rw [pathOf_of_escapes m hescapes] at hp
      cases hp
    · exact fun hescapes => ⟨_, pathOf_of_not_escapes m hescapes⟩

section Example

/-- A file tree with an empty folder. -/
private def twoFolders : FileTree := FileTree.makeFolder {} "mods/two".toList

/-- The module of the folder. -/
private def second : FolderModule where
  id := ⟨2⟩
  name := "two"
  root := "mods/two".toList
  types := {}

/-- A folder does not open an absolute path or list what is above it, also where the dots stand
behind a name; a path with dots and slashes to spare is looked at below the root. -/
theorem confined_of_load_two : load twoFolders ⟨2⟩ "mods/two".toList = .ok second ∧
    (∀ files, second.openEntry files ⟨"module://2//etc"⟩ =
      .error ⟨.invalidInput, "invalid entry path: /etc"⟩) ∧
    (∀ files, second.list files "//a/../..".toList =
      .error ⟨.invalidInput, "invalid entry path: a/../../"⟩) ∧
    ∃ p, Path.components p = ["mods", "two", "a", "b"].map (.normal ·.toList) ∧
      ∀ files, second.openEntry files ⟨"module://+02/./a//b/"⟩ = files.openStream p := by
  have hload : load twoFolders ⟨2⟩ "mods/two".toList = .ok second := by rfl
  obtain ⟨-, -, hconfined⟩ := confined_of_load hload
  obtain ⟨p, hinside, hopen⟩ := hconfined.opens_inside ⟨"module://+02/./a//b/"⟩ "./a//b/".toList
    (by decide) (by decide)
  exact ⟨hload, hconfined.refuses_open _ "/etc".toList (by decide) (by decide),
    hconfined.refuses_list _ (by decide), p, hinside.components, hopen⟩

end Example

end FolderModule

end ServiceRegistry
