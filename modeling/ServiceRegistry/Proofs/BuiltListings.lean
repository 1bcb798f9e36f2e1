import ServiceRegistry.Proofs.Interchange
import ServiceRegistry.Proofs.Utf8

/-!
# Listings of modules that are built in memory

From the building of a module to the reading of its descriptors, names are brought into a written
form again and again: steps drop the slashes in front of a path and set the folder for descriptors,
a scan names a folder in any form, a listing makes locations of paths, and opening an entry takes
them apart. `World.found_of_build` says that these fit together. A scan finds exactly the names
under which something was stored directly in its folder (`InMemory.Found`), in the order of their
bytes, and opening what was found gives what was stored there last.

What steps store is said by `InMemory.stores`, without the module that they build.
-/

namespace ServiceRegistry

namespace InMemory

/-- What steps store, in order, each content with its path in the written form. A descriptor goes to
the folder that was set last. -/
def stores (folder : List Char) : List BuildStep → List (String × Bytes)
  | [] => []
  | .entry path content :: rest =>
    (String.ofList (Slashes.dropLeading path.toList), content) :: stores folder rest
  | .service service content :: rest =>
    (String.ofList (Slashes.dropLeading (folder ++ service.toList)), content) :: stores folder rest
  | .descriptorFolder text :: rest => stores (Slashes.asFolder text.toList) rest
  | _ :: rest => stores folder rest

/-- What steps store in a new module. -/
def stored (steps : List BuildStep) : List (String × Bytes) :=
  stores defaultDescriptorFolder.toList steps

/-- Something was stored under a name directly in a folder. -/
def StoredIn (steps : List BuildStep) (text name : String) : Prop :=
  name ≠ "" ∧ '/' ∉ name.toList ∧ folderName text ++ name ∈ (stored steps).map (·.1)

/-- A path is outside a folder, or that of a folder, or deeper than directly in the folder. -/
def Elsewhere (text path : String) : Prop :=
  ¬(folderName text).toList <+: path.toList ∨ Slashes.endsInSlash path.toList = true ∨
    ∃ sub rest, path.toList = (folderName text).toList ++ sub ++ '/' :: rest

variable {id : ModuleId} {steps : List BuildStep} {path text name name' : String}
  {content : Bytes} {folder : List Char}

/-! ## What was built -/

/-- Building inserts what the steps store, in order, into the entries. -/
theorem entries_foldl_step (b : Builder) (steps : List BuildStep) :
    (steps.foldl Builder.step b).module.entries =
      b.module.entries.insertAll (stores b.folder steps) := by
  induction steps generalizing b with
  | nil => rfl
  | cons step rest ih =>
    rw [List.foldl_cons, ih]
    cases step <;> rfl

/-- No step changes the module's number. -/
theorem id_foldl_step (b : Builder) (steps : List BuildStep) :
    (steps.foldl Builder.step b).module.id = b.module.id := by
  induction steps generalizing b with
  | nil => rfl
  | cons step rest ih =>
    rw [List.foldl_cons, ih]
    cases step <;> rfl

/-- The entries of a module are what its steps have stored; for each path the last counts. -/
theorem entries_build (id : ModuleId) (steps : List BuildStep) :
    (build id steps).entries = .ofList (stored steps) :=
  entries_foldl_step (.start id) steps

/-- A built module has the number with which it was begun. -/
theorem id_build (id : ModuleId) (steps : List BuildStep) : (build id steps).id = id :=
  id_foldl_step (.start id) steps

/-- A module has an entry at each path at which something was stored. -/
theorem exists_entry_iff : (∃ content, (build id steps).entries.get? path = some content) ↔
    path ∈ (stored steps).map (·.1) := by
  rw [entries_build, ← Option.isSome_iff_exists, Dict.ofList, Dict.get?_insertAll_isSome]
  simp

/-- The entry at a path is what was stored there last. -/
theorem get?_build_of_last {before after : List (String × Bytes)}
    (hstored : stored steps = before ++ (path, content) :: after)
    (hlast : path ∉ after.map (·.1)) : (build id steps).entries.get? path = some content := by
  have hafter : after.reverse.lookup path = none := by
    refine List.lookup_eq_none_iff.2 fun e he => bne_iff_ne.2 ?_
    rintro rfl
    exact hlast (List.mem_map_of_mem (List.mem_reverse.1 he))
  rw [entries_build, Dict.get?_ofList, hstored, List.reverse_append, List.reverse_cons,
    List.append_assoc, List.lookup_append, hafter]
  simp

/-- No path under which something is stored begins with a slash. -/
theorem head?_of_mem_stores (h : path ∈ (stores folder steps).map (·.1)) :
    path.toList.head? ≠ some '/' := by
  fun_induction stores folder steps with
  | case1 folder => exact absurd h List.not_mem_nil
  | case2 folder given content rest ih | case3 folder service content rest ih =>
    rcases List.mem_cons.1 h with rfl | h
    · rw [String.toList_ofList]
      exact Slashes.head?_dropLeading _
    · exact ih h
  | case4 folder text rest ih | case5 folder step rest _ _ _ ih => exact ih h

/-! ## What is shown -/

/-- A built module shows the names under which something was stored directly in the folder. -/
theorem mem_shown_build {l : Location} :
    l ∈ ScanRule.shown (.ok ((build id steps).list text.toList)) ↔
    ∃ name, StoredIn steps text name ∧ l = .ofEntry id (folderName text ++ name).toList := by
  have hpath (name : List Char) :
      String.ofList (Slashes.asFolder text.toList ++ name) =
        folderName text ++ String.ofList name := by
    rw [folderName, String.ofList_append]
  rw [mem_shown, id_build]
  constructor
  · rintro ⟨name, hne, hslash, hentry, rfl⟩
    rw [hpath, exists_entry_iff] at hentry
    refine ⟨String.ofList name, ⟨?_, ?_, hentry⟩, ?_⟩
    · simpa using hne
    · rwa [String.toList_ofList]
    · rw [← hpath, String.toList_ofList]
  · rintro ⟨name, ⟨hne, hslash, hentry⟩, rfl⟩
    refine ⟨name.toList, ?_, hslash, ?_, ?_⟩
    · simpa using hne
    · rw [hpath, String.ofList_toList, exists_entry_iff]
      exact hentry
    · rw [← String.ofList_toList (s := name), ← hpath, String.toList_ofList, String.toList_ofList]

/-- The path of a name in a folder does not begin with a slash, even if the folder's name is empty.
-/
theorem head?_folderName_append (text : String) (hslash : '/' ∉ name.toList) :
    (folderName text ++ name).toList.head? ≠ some '/' := by
  rw [String.toList_append, folderName, String.toList_ofList]
  exact (Slashes.folder_asFolder text.toList).head?_append hslash

/-- The last part of an entry directly in a folder is its name. -/
theorem baseName_folderName_append (id : ModuleId) (text : String) (hslash : '/' ∉ name.toList) :
    (Location.ofEntry id (folderName text ++ name).toList).baseName = name := by
  rw [String.toList_append, folderName, String.toList_ofList,
    baseName_ofEntry_append id (Slashes.folder_asFolder text.toList) hslash, String.ofList_toList]

/-- The names of the descriptors that a listing of a folder shows. -/
def names (m : InMemory) (text : String) : List String :=
  (ScanRule.shown (.ok (m.list text.toList))).map (·.baseName)

/-- A listing shows a name if and only if something was stored under it directly in the folder. -/
theorem mem_names_build : name ∈ (build id steps).names text ↔ StoredIn steps text name := by
  constructor
  · intro hname
    obtain ⟨l, hl, rfl⟩ := List.mem_map.1 hname
    obtain ⟨name, hentry, rfl⟩ := mem_shown_build.1 hl
    rwa [baseName_folderName_append id text hentry.2.1]
  · intro hentry
    exact List.mem_map.2 ⟨_, mem_shown_build.2 ⟨name, hentry, rfl⟩,
      baseName_folderName_append id text hentry.2.1⟩

/-- What is shown is the entry of its name in the folder. -/
theorem eq_of_mem_shown_build {l : Location}
    (hl : l ∈ ScanRule.shown (.ok ((build id steps).list text.toList))) :
    '/' ∉ l.baseName.toList ∧ l = .ofEntry id (folderName text ++ l.baseName).toList := by
  obtain ⟨name, ⟨-, hslash, -⟩, rfl⟩ := mem_shown_build.1 hl
  rw [baseName_folderName_append id text hslash]
  exact ⟨hslash, rfl⟩

/-- Texts with a common front are in the order of their rests. -/
theorem lt_of_append_lt {front cs ds : List Char} (h : front ++ cs < front ++ ds) : cs < ds := by
  induction front with
  | nil => exact h
  | cons c front ih => exact ih (List.cons_lt_cons_self.1 h)

/-- Entries directly in one folder are in the order of their names. -/
theorem lt_of_compare_ofEntry (hslash : '/' ∉ name.toList) (hslash' : '/' ∉ name'.toList)
    (h : compare (Location.ofEntry id (folderName text ++ name).toList)
      (.ofEntry id (folderName text ++ name').toList) = .lt) : name < name' := by
  have hf := Slashes.folder_asFolder text.toList
  change compare (Location.ofEntry id _).text (Location.ofEntry id _).text = .lt at h
  rw [compare_lt_iff_lt, String.lt_iff_toList_lt] at h
  rw [String.lt_iff_toList_lt]
  simp only [Location.toList_ofEntry, String.toList_append, folderName, String.toList_ofList,
    dropLeading_append hf hslash, dropLeading_append hf hslash'] at h
  exact lt_of_append_lt (List.cons_lt_cons_self.1 (lt_of_append_lt (lt_of_append_lt h)))

/-- The names that a listing shows ascend in the order of their bytes, and so none is shown twice.
-/
theorem ascending_names_build (id : ModuleId) (steps : List BuildStep) (text : String) :
    ((build id steps).names text).Pairwise fun a b => Bytes.ofText a < Bytes.ofText b := by
  have hshown := (build id steps).ascending_shown text.toList
  refine List.pairwise_map.2 (hshown.imp_of_mem fun {l l'} hl hl' hlt => ?_)
  obtain ⟨hslash, heq⟩ := eq_of_mem_shown_build hl
  obtain ⟨hslash', heq'⟩ := eq_of_mem_shown_build hl'
  rw [heq, heq'] at hlt
  exact Bytes.ofText_lt_ofText (lt_of_compare_ofEntry hslash hslash' hlt)

/-- What is shown stands for nothing that is stored elsewhere. -/
theorem ofEntry_ne_of_elsewhere {l : Location}
    (hl : l ∈ ScanRule.shown (.ok ((build id steps).list text.toList)))
    (hpath : path ∈ (stored steps).map (·.1)) (helsewhere : Elsewhere text path) :
    l ≠ .ofEntry id path.toList := by
  rintro rfl
  obtain ⟨name, ⟨hne, hslash, -⟩, heq⟩ := mem_shown_build.1 hl
  have hown := Location.ownPath_ofEntry id (head?_of_mem_stores hpath)
  rw [heq, Location.ownPath_ofEntry id (head?_folderName_append text hslash)] at hown
  rw [Elsewhere, ← Except.ok.inj hown, String.toList_append] at helsewhere
  rcases helsewhere with houtside | hfolder | ⟨sub, rest, hdeeper⟩
  · exact houtside (List.prefix_append _ _)
  · rw [Slashes.endsInSlash_append (by simpa using hne), Slashes.endsInSlash_eq_false hslash]
      at hfolder
    cases hfolder
  · rw [List.append_assoc, List.append_cancel_left_eq] at hdeeper
    exact hslash (hdeeper ▸ List.mem_append_right sub List.mem_cons_self)

/-! ## What is found -/

/-- A scan has found what steps have stored directly in the folder of a rule, and nothing else. -/
structure Found (steps : List BuildStep) (rule : ScanRule) (m : Module) (c : Contribution)
    (names : List String) : Prop where
  /-- The names are in the order of their bytes. -/
  ascending : names.Pairwise fun a b => Bytes.ofText a < Bytes.ofText b
  /-- They are those under which something was stored in the folder. -/
  exactly : ∀ name, name ∈ names ↔ StoredIn steps rule.folder name
  /-- There is one provider for each. -/
  providers : ∃ serial, c.providers = names.zipIdx.map fun (name, n) =>
    { serial := serial + n
      service := name
      location := .ofEntry m.id (folderName rule.folder ++ name).toList
      module := m
      cacheFailures := rule.cacheFailures }
  /-- What the module opens for it is what was stored there last. -/
  opened : ∀ s : Stock, (s.objects.get m.object).content = .inMemory (.build m.id steps) →
    ∀ name ∈ names, ∀ before content after,
      stored steps = before ++ (folderName rule.folder ++ name, content) :: after →
      folderName rule.folder ++ name ∉ after.map (·.1) →
      (s.openEntry m (.ofEntry m.id (folderName rule.folder ++ name).toList)).1 =
        .ok (.ofBytes content)
  /-- What was stored elsewhere has no provider. -/
  nothingElse : ∀ path ∈ (stored steps).map (·.1), Elsewhere rule.folder path →
    ∀ p ∈ c.providers, p.location ≠ .ofEntry m.id path.toList

/-- The contribution of a built module. -/
theorem found_contribution (steps : List BuildStep) (rule : ScanRule) (m : Module)
    (serial : Nat) : Found steps rule m
      (rule.contribution m serial (.ok ((build m.id steps).list rule.folder.toList)))
      ((build m.id steps).names rule.folder) where
  ascending := ascending_names_build m.id steps rule.folder
  exactly _ := mem_names_build
  providers := by
    refine ⟨serial, ?_⟩
    rw [ScanRule.providers_contribution, names, List.zipIdx_map, List.map_map]
    refine List.map_congr_left fun ⟨l, n⟩ hl => ?_
    have hmem := List.mem_of_getElem? (List.mem_zipIdx_iff_getElem?.1 hl)
    dsimp only [Function.comp, Prod.map]
    rw [← (eq_of_mem_shown_build hmem).2]
    rfl
  opened s hs name hname before content after hstored hlast := by
    have hview : s.view m = (build m.id steps).view := by
      rw [Stock.view, hs]
      rfl
    have hhead := head?_folderName_append rule.folder (mem_names_build.1 hname).2.1
    have hget : (build m.id steps).entries.get? (folderName rule.folder ++ name) = some content :=
      get?_build_of_last hstored hlast
    have hopen := openEntry_ofEntry hhead hget
    rw [id_build] at hopen
    rw [Stock.openEntry, hview]
    exact hopen
  nothingElse path hpath helsewhere p hp := by
    obtain ⟨-, -, hl, -, -⟩ := ScanRule.of_mem_contribution hp
    exact ofEntry_ne_of_elsewhere hl hpath helsewhere

end InMemory

/-- Whatever steps build a module in memory and however the folder is named, a scan finds what they
have stored directly in the folder. -/
theorem World.found_of_build {w : World} {m : Module} {steps : List InMemory.BuildStep}
    (hm : (w.stock.objects.get m.object).content = .inMemory (.build m.id steps))
    (rule : ScanRule) (handle : Signal → World → World) :
    ∃ names, InMemory.Found steps rule m ((scan rule m w).finish handle).1 names := by
  have hlist : (w.stock.list m rule.folder).1 =
      .ok ((InMemory.build m.id steps).list rule.folder.toList) := by
    rw [Stock.list, Stock.view, hm]
    rfl
  have hscan : ((scan rule m w).finish handle).1 = rule.contribution m
      (handle (.listed m) (onStock (·.list m rule.folder) w).2).nextSerial
      (w.stock.list m rule.folder).1 := rfl
  rw [hscan, hlist]
  exact ⟨_, InMemory.found_contribution steps rule m _⟩

/-! Of eight contents the first is stored over, two are deeper in the folder or outside, and two
are stored as if they were folders. -/

section Example

namespace InMemory

/-- The steps by which the module was built. -/
def storing : List BuildStep :=
  [.entry "/S/Greeter" [1], .descriptorFolder "//S", .service "Greeter" [2],
    .service "deep/Greeter" [3], .entry "S/deep" [4], .entry "T/Greeter" [5], .service "" [6],
    .entry "//S/sub/" [7], .service "Été" [8]]

/-- The object that is scanned. -/
def storingModule : Module := ⟨0, ⟨1⟩, "module-1"⟩

/-- A world with the module in memory. -/
def storingWorld : World where
  stock := { objects := ⟨[{ content := .inMemory (.build ⟨1⟩ storing) }]⟩ }

/-- A rule that names the folder with slashes around it. -/
def storingRule : ScanRule := { folder := "/S/" }

/-- Of entries that are stored over each other, below sub-folders and outside the folder, a scan
finds the three that stand directly in it. -/
theorem found_of_build_storing :
    (storingWorld.stock.objects.get storingModule.object).content =
      .inMemory (.build storingModule.id storing) ∧
    ∃ names, Found storing storingRule storingModule
      ((World.scan storingRule storingModule storingWorld).finish fun _ w => w).1 names ∧
      ((World.scan storingRule storingModule storingWorld).finish fun _ w => w).1.services =
        ["Greeter", "deep", "Été"] := by
  have hm : (storingWorld.stock.objects.get storingModule.object).content =
      .inMemory (.build storingModule.id storing) := rfl
  obtain ⟨names, hfound⟩ := World.found_of_build hm storingRule fun _ w => w
  exact ⟨hm, names, hfound, by decide +kernel⟩

end InMemory

end Example

end ServiceRegistry
