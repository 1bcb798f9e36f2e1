import Mathlib.Data.List.Induction
import ServiceRegistry.Files.Tree

/-!
# Paths and the places they lead to

A path is cut at its slashes and then walked part by part. So a path that is appended to another is
walked from the place to which the first one leads (`FileTree.find_join`), and wherever a walk gets,
it has been to all the folders on the way (`FileTree.walk_append`). A path is `Plain` if it names
what it leads to by names alone: it has no empty part and no dots to resolve.
-/

namespace ServiceRegistry

namespace Path

variable {p q : Path} {a b name rest : List Char} {c : Char}

/-- A part of a path is a name. -/
def IsName (part : List Char) : Prop := part ≠ [] ∧ part ≠ ['.'] ∧ part ≠ ['.', '.']

instance (part : List Char) : Decidable (IsName part) := inferInstanceAs (Decidable (_ ∧ _))

/-- All parts of a path are names. -/
def Plain (p : Path) : Prop := ∀ part ∈ p.parts, IsName part

instance (p : Path) : Decidable p.Plain :=
  inferInstanceAs (Decidable (∀ part ∈ p.parts, IsName part))

/-- A path has at least one part. -/
theorem parts_ne_nil (p : Path) : p.parts ≠ [] := by
  cases p with
  | nil => simp [parts]
  | cons c rest =>
    unfold parts
    split
    · simp
    · split <;> simp

/-- A slash in front puts an empty part in front. -/
theorem parts_cons_slash (rest : List Char) : parts ('/' :: rest) = [] :: parts rest := rfl

/-- Any other character in front belongs to the first part. -/
theorem parts_cons (hc : c ≠ '/') {part : List Char} {more : List (List Char)}
    (h : parts rest = part :: more) : parts (c :: rest) = (c :: part) :: more := by
  rw [parts, if_neg hc, h]

/-- A slash separates the parts before it from those behind. -/
theorem parts_append_slash (a b : List Char) : parts (a ++ '/' :: b) = parts a ++ parts b := by
  induction a with
  | nil => rfl
  | cons c rest ih =>
    rw [List.cons_append]
    by_cases hc : c = '/'
    · subst hc
      rw [parts_cons_slash, parts_cons_slash, ih, List.cons_append]
    · obtain ⟨part, more, hparts⟩ := List.exists_cons_of_ne_nil (parts_ne_nil rest)
      rw [hparts, List.cons_append] at ih
      rw [parts_cons hc ih, parts_cons hc hparts, List.cons_append]

/-- A path without slashes is one part. -/
theorem parts_of_not_mem (h : '/' ∉ name) : parts name = [name] := by
  induction name with
  | nil => rfl
  | cons c rest ih =>
    rw [List.mem_cons, not_or] at h
    exact parts_cons (Ne.symm h.1) (ih h.2)

/-- The parts of a path, with a slash before each, are the path with a slash before it. -/
theorem flatMap_parts (p : Path) : p.parts.flatMap ('/' :: ·) = '/' :: p := by
  induction p with
  | nil => rfl
  | cons c rest ih =>
    by_cases hc : c = '/'
    · subst hc
      rw [parts_cons_slash, List.flatMap_cons, ih]
      rfl
    · obtain ⟨part, more, hparts⟩ := List.exists_cons_of_ne_nil (parts_ne_nil rest)
      rw [hparts, List.flatMap_cons, List.cons_append] at ih
      rw [parts_cons hc hparts, List.flatMap_cons, List.cons_append, List.cons_append,
        (List.cons.inj ih).2]

/-- A path is known by its parts. -/
theorem parts_injective : Function.Injective parts := by
  intro p q h
  have hcons := flatMap_parts p
  rw [h, flatMap_parts q] at hcons
  exact (List.cons.inj hcons).2.symm

/-- The parts of a path have no slashes. -/
theorem not_mem_of_mem_parts (h : name ∈ parts p) : '/' ∉ name := by
  induction p generalizing name with
  | nil =>
    rw [List.mem_singleton.1 h]
    exact List.not_mem_nil
  | cons c rest ih =>
    by_cases hc : c = '/'
    · subst hc
      rcases List.mem_cons.1 h with rfl | h
      · exact List.not_mem_nil
      · exact ih h
    · obtain ⟨part, more, hparts⟩ := List.exists_cons_of_ne_nil (parts_ne_nil rest)
      rw [hparts] at ih
      rw [parts_cons hc hparts] at h
      rcases List.mem_cons.1 h with rfl | h
      · rw [List.mem_cons, not_or]
        exact ⟨Ne.symm hc, ih List.mem_cons_self⟩
      · exact ih (List.mem_cons_of_mem _ h)

/-- A name is a component of its own. -/
theorem IsName.component? (h : IsName name) : component? name = some (.normal name) := by
  unfold Path.component?
  split
  · exact absurd rfl h.1
  · exact absurd rfl h.2.1
  · exact absurd rfl h.2.2
  · rfl

/-- Two dots lead to the parent, and nothing else does. -/
theorem component?_eq_parent_iff : component? name = some .parent ↔ name = ['.', '.'] := by
  unfold component?
  split <;> simp_all

/-- A path goes up where two dots stand between its slashes. -/
theorem parent_mem_components_iff : .parent ∈ p.components ↔ ['.', '.'] ∈ p.parts := by
  unfold components
  rw [List.mem_append, List.mem_filterMap]
  constructor
  · rintro (hstart | ⟨part, hpart, hparent⟩)
    · split at hstart
      · simp at hstart
      · split at hstart <;> simp at hstart
    · exact component?_eq_parent_iff.1 hparent ▸ hpart
  · exact fun hdots => .inr ⟨_, hdots, component?_eq_parent_iff.2 rfl⟩

/-- The root is among the components of a path exactly if the path starts with a slash. -/
theorem root_mem_components_iff : .root ∈ p.components ↔ p.head? = some '/' := by
  have hpart (part : List Char) : component? part ≠ some .root := by
    unfold component?
    split <;> simp
  unfold components isAbsolute
  by_cases habsolute : p.head? = some '/'
  · simp [habsolute]
  · have hstart : .root ∉ if p.parts.head? = some ['.'] then [Component.current] else [] := by
      split <;> simp
    simp [habsolute, hpart, hstart]

/-- A plain path is not empty. -/
theorem Plain.ne_nil (h : p.Plain) : p ≠ [] := by
  rintro rfl
  exact (h [] List.mem_cons_self).1 rfl

/-- A plain path does not start with a slash. -/
theorem Plain.head? (h : p.Plain) : p.head? ≠ some '/' := by
  cases p with
  | nil => simp
  | cons c rest =>
    rintro hc
    cases hc
    exact (h [] (by rw [parts_cons_slash]; exact List.mem_cons_self)).1 rfl

/-- A path that does not start with a slash is relative. -/
theorem isAbsolute_eq_false (h : p.head? ≠ some '/') : p.isAbsolute = false := by
  simpa [isAbsolute] using h

/-- A path is appended to that of a folder behind a slash. -/
theorem join_eq (hp : p ≠ []) : ∃ front, (p = front ∨ p = front ++ ['/']) ∧
    ∀ q : Path, q.head? ≠ some '/' → p.join q = front ++ '/' :: q := by
  by_cases hslash : p.getLast? = some '/'
  · obtain ⟨front, rfl⟩ := List.getLast?_eq_some_iff.1 hslash
    refine ⟨front, .inr rfl, fun q hq => ?_⟩
    simp [join, isAbsolute_eq_false hq]
  · refine ⟨p, .inl rfl, fun q hq => ?_⟩
    simp [join, isAbsolute_eq_false hq, hp, hslash]

/-- A longer path is appended by appending what is longer about it. -/
theorem join_append (hp : p ≠ []) {q rest : Path} (hhead : (q ++ rest).head? ≠ some '/') :
    p.join (q ++ rest) = p.join q ++ rest := by
  obtain ⟨front, -, hjoin⟩ := join_eq hp
  have hshorter : q.head? ≠ some '/' := by
    cases q with
    | nil => exact nofun
    | cons c q => exact hhead
  rw [hjoin q hshorter, hjoin _ hhead]
  simp

/-- A path is the written form of a folder: it has a slash behind each of the folder's names. -/
structure Names (folder : Path) (names : List (List Char)) : Prop where
  parts : folder.parts = names ++ [[]]
  isName : ∀ name ∈ names, IsName name

/-- What is appended behind a trailing slash adds its own parts. -/
theorem parts_append {names : List (List Char)} (h : p.parts = names ++ [[]]) (q : Path) :
    parts (p ++ q) = names ++ q.parts := by
  induction p generalizing names with
  | nil =>
    have hnil : names = [] := by
      cases names with
      | nil => rfl
      | cons first names => cases names <;> cases h
    simp [hnil]
  | cons c rest ih =>
    obtain ⟨part, more, hparts⟩ := List.exists_cons_of_ne_nil (parts_ne_nil rest)
    by_cases hc : c = '/'
    · subst hc
      rw [parts_cons_slash] at h
      cases names with
      | nil => exact absurd (List.cons.inj h).2 (parts_ne_nil rest)
      | cons first names =>
        rw [List.cons_append] at h
        obtain ⟨rfl, htail⟩ := List.cons.inj h
        rw [List.cons_append, parts_cons_slash, ih htail, List.cons_append]
    · rw [parts_cons hc hparts] at h
      cases names with
      | nil => cases h
      | cons first names =>
        rw [List.cons_append] at h
        obtain ⟨rfl, rfl⟩ := List.cons.inj h
        have hrest := @ih (part :: names) hparts
        rw [List.cons_append] at hrest
        rw [List.cons_append, parts_cons hc hrest, List.cons_append]

/-- A plain path with a slash behind it names its parts. -/
theorem Plain.names (h : p.Plain) : Names (p ++ ['/']) p.parts :=
  ⟨parts_append_slash p [], h⟩

namespace Names

variable {folder : Path} {names : List (List Char)}

/-- The path of a folder that is named does not start with a slash. -/
theorem head? (h : folder.Names names) : folder.head? ≠ some '/' := by
  cases folder with
  | nil => exact nofun
  | cons c rest =>
    intro hc
    cases hc
    have hparts := h.parts
    rw [parts_cons_slash] at hparts
    cases names with
    | nil => exact parts_ne_nil rest (List.cons.inj hparts).2
    | cons first names =>
      exact (h.isName first List.mem_cons_self).1 (List.cons.inj hparts).1.symm

/-- The path of an entry in a named folder does not start with a slash. -/
theorem head?_append (h : folder.Names names) (hname : '/' ∉ name) :
    (folder ++ name).head? ≠ some '/' := by
  cases folder with
  | nil => exact fun hc => hname (List.mem_of_head? hc)
  | cons c rest => exact h.head?

/-- The path of an entry has one part more than that of its folder. -/
theorem parts_append_name (h : folder.Names names) (hname : '/' ∉ name) :
    (folder ++ name).parts = names ++ [name] := by
  rw [Path.parts_append h.parts, parts_of_not_mem hname]

/-- A path with one more name than a folder is that of an entry directly in the folder. -/
theorem eq_append (h : folder.Names names) (hp : p.parts = names ++ [name]) :
    p = folder ++ name := by
  have hname : '/' ∉ name := not_mem_of_mem_parts (p := p) (by simp [hp])
  exact parts_injective (by rw [hp, h.parts_append_name hname])

end Names

end Path

namespace FileTree

variable {t : FileTree} {p q root : Path} {place : Place} {here there : Place × FileNode}
  {name : List Char} {names : List (List Char)}

/-- Sizes of paths add up. -/
theorem byteSize_append (a b : List Char) : byteSize (a ++ b) = byteSize a + byteSize b := by
  induction a with
  | nil => simp [byteSize]
  | cons c rest ih => simp [byteSize, ih, Nat.add_assoc]

/-- Whether the operating system takes a path at all. -/
def Takes (p : Path) : Prop := '\x00' ∉ p ∧ byteSize p < pathLimit

/-- The system takes the beginnings of the paths that it takes. -/
theorem Takes.of_prefix (h : Takes q) (hp : p <+: q) : Takes p := by
  obtain ⟨rest, rfl⟩ := hp
  refine ⟨fun hc => h.1 (List.mem_append_left _ hc), ?_⟩
  have := h.2
  rw [byteSize_append] at this
  omega

/-- Where a path that is taken leads from the folder where it starts. -/
def walk (t : FileTree) (p : Path) : Except Fault (Place × FileNode) :=
  p.parts.foldlM t.step (if p.isAbsolute then [] else t.workingFolder, .folder)

/-- A path leads somewhere if it is not empty, the system takes it, and the walk along it ends
there. -/
theorem find_eq_ok_iff :
    t.find p = .ok there ↔ p ≠ [] ∧ Takes p ∧ t.walk p = .ok there := by
  unfold find Takes walk
  by_cases hnul : '\x00' ∈ p
  · simp [hnul]
  · by_cases hp : p = []
    · subst hp
      simp
    · by_cases hsize : pathLimit ≤ byteSize p
      · simp [hnul, hp, hsize, Nat.not_lt_of_le hsize]
      · simp [hnul, hp, hsize, Nat.lt_of_not_le hsize]

/-- An empty part stays where it is, which has to be a folder. -/
theorem step_nil_eq_ok_iff : t.step here [] = .ok there ↔ here.2 = .folder ∧ there = here := by
  obtain ⟨here, node⟩ := here
  unfold step
  cases node <;> simp [eq_comm]

/-- A name is looked up in a folder. -/
theorem step_eq_ok (hname : Path.IsName name) (h : t.step here name = .ok there) :
    here.2 = .folder ∧ there.1 = here.1 ++ [name] ∧ t.node? there.1 = some there.2 := by
  obtain ⟨here, node⟩ := here
  unfold step at h
  cases node with
  | file content => cases h
  | folder =>
    dsimp only at h
    rw [if_neg (by rintro (hc | hc) <;> simp [Path.IsName, hc] at hname), if_neg hname.2.2] at h
    split at h
    · cases h
    · split at h
      · rename_i hnode
        cases h
        exact ⟨rfl, rfl, hnode⟩
      · cases h

/-- A walk along two lists of parts is a walk along the one and then along the other. -/
theorem walk_append {names' : List (List Char)} :
    (names ++ names').foldlM t.step here = .ok there ↔
      ∃ mid, names.foldlM t.step here = .ok mid ∧ names'.foldlM t.step mid = .ok there := by
  rw [List.foldlM_append]
  cases names.foldlM t.step here with
  | error fault => simp [bind, Except.bind]
  | ok mid => simp [bind, Except.bind]

/-- A walk of one part is a step. -/
theorem walk_singleton : [name].foldlM t.step here = .ok there ↔ t.step here name = .ok there := by
  rw [List.foldlM_cons]
  cases t.step here name <;> simp [bind, Except.bind, pure, Except.pure]

/-- Names lead downwards from a folder, each to what the tree holds under it. -/
theorem walk_names (hnames : ∀ name ∈ names, Path.IsName name)
    (h : names.foldlM t.step (place, .folder) = .ok there) :
    there.1 = place ++ names ∧ (names ≠ [] → t.node? there.1 = some there.2) := by
  induction names using List.reverseRecOn generalizing there with
  | nil =>
    cases h
    exact ⟨by simp, fun hc => absurd rfl hc⟩
  | append_singleton names name ih =>
    obtain ⟨mid, hmid, h⟩ := walk_append.1 h
    obtain ⟨-, hplace, hnode⟩ := step_eq_ok (hnames name (by simp)) (walk_singleton.1 h)
    rw [(ih (fun n hn => hnames n (by simp [hn])) hmid).1, List.append_assoc] at hplace
    exact ⟨hplace, fun _ => hnode⟩

/-- A path that is appended to that of a folder is walked from there. -/
theorem find_join (hroot : t.find root = .ok (place, .folder)) (hq : q.head? ≠ some '/') :
    t.find (root.join q) = .ok there ↔
      Takes (root.join q) ∧ q.parts.foldlM t.step (place, .folder) = .ok there := by
  obtain ⟨hne, -, hwalk⟩ := find_eq_ok_iff.1 hroot
  obtain ⟨front, hfront, hjoin⟩ := Path.join_eq hne
  replace hjoin := hjoin q hq
  have hnil : root.join q ≠ [] := by simp [hjoin]
  have habsolute : Path.isAbsolute (root.join q) = root.isAbsolute := by
    rw [hjoin]
    cases front with
    | nil =>
      rcases hfront with rfl | rfl
      · exact absurd rfl hne
      · rfl
    | cons c front => rcases hfront with rfl | rfl <;> rfl
  have hreached : front.parts.foldlM t.step
      (if root.isAbsolute then [] else t.workingFolder, .folder) = .ok (place, .folder) := by
    rcases hfront with rfl | heq
    · exact hwalk
    · unfold walk at hwalk
      rw [heq, Path.parts_append_slash, ← heq] at hwalk
      obtain ⟨mid, hmid, hlast⟩ := walk_append.1 hwalk
      obtain ⟨-, rfl⟩ := step_nil_eq_ok_iff.1 (walk_singleton.1 hlast)
      exact hmid
  rw [find_eq_ok_iff, and_iff_right hnil, walk, habsolute, hjoin, Path.parts_append_slash,
    walk_append]
  refine and_congr_right fun _ => ⟨?_, fun h => ⟨_, hreached, h⟩⟩
  rintro ⟨mid, hmid, h⟩
  rw [hreached] at hmid
  cases hmid
  exact h

/-- The written form of a folder leads to a folder, if anywhere. -/
theorem eq_of_find_folder {folder : Path} {names : List (List Char)}
    (hroot : t.find root = .ok (place, .folder)) (hfolder : folder.Names names)
    (h : t.find (root.join folder) = .ok there) : there = (place ++ names, .folder) := by
  have hwalk := ((find_join hroot hfolder.head?).1 h).2
  rw [hfolder.parts] at hwalk
  obtain ⟨mid, hmid, hlast⟩ := walk_append.1 hwalk
  obtain ⟨hmidfolder, rfl⟩ := step_nil_eq_ok_iff.1 (walk_singleton.1 hlast)
  exact Prod.ext (walk_names hfolder.isName hmid).1 hmidfolder

/-- An entry is found only if its folder is, and is looked up there. -/
theorem find_entry {folder : Path} {names : List (List Char)}
    (hroot : t.find root = .ok (place, .folder)) (hfolder : folder.parts = names ++ [[]])
    (hhead : (folder ++ name).head? ≠ some '/') (hslash : '/' ∉ name)
    (h : t.find (root.join (folder ++ name)) = .ok there) :
    ∃ mid, t.find (root.join folder) = .ok (mid, .folder) ∧
      t.step (mid, .folder) name = .ok there := by
  have hne := (find_eq_ok_iff.1 hroot).1
  have hfolderhead : folder.head? ≠ some '/' := by
    cases folder with
    | nil => exact nofun
    | cons c rest => exact hhead
  obtain ⟨htakes, hwalk⟩ := (find_join hroot hhead).1 h
  rw [Path.parts_append hfolder, Path.parts_of_not_mem hslash] at hwalk
  obtain ⟨⟨mid, node⟩, hmid, hlast⟩ := walk_append.1 hwalk
  have hstep := walk_singleton.1 hlast
  cases node with
  | file content => cases hstep
  | folder =>
    refine ⟨mid, (find_join hroot hfolderhead).2 ⟨?_, ?_⟩, hstep⟩
    · rw [Path.join_append hne hhead] at htakes
      exact htakes.of_prefix (List.prefix_append _ _)
    · rw [hfolder]
      exact walk_append.2 ⟨_, hmid, rfl⟩

/-- If a path leads somewhere then the path of the folder above leads to the folder above. -/
theorem find_folder {folder : Path} {names : List (List Char)}
    (hroot : t.find root = .ok (place, .folder)) (hfolder : folder.Names names)
    (hslash : '/' ∉ name) (h : t.find (root.join (folder ++ name)) = .ok there) :
    t.find (root.join folder) = .ok (place ++ names, .folder) := by
  obtain ⟨mid, hmid, -⟩ := find_entry hroot hfolder.parts (hfolder.head?_append hslash) hslash h
  rw [hmid, eq_of_find_folder hroot hfolder hmid]

end FileTree

end ServiceRegistry
