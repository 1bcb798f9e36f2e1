import Mathlib.Data.List.Forall2
import ServiceRegistry.Settings.Sources

/-!
# Settings in layers

What is loaded does not depend on how the layers are put one over another: each field is read off
all layers at once, as the last value that any of them sets (`Settings.Combines`), pins service by
service. The variables stand over the layers. `Settings.Layered` collects what loading answers: it
fails just if a file that has to be read says no layer, and reports the first of these.

Which files are read is fixed by the surroundings before the first of them is opened
(`Settings.filesRead`); files that change while settings are loaded are left out.
-/

namespace ServiceRegistry.Settings

variable {files : FileTree} {p : Path} {l : Layer} {e : Error} {s s' : Settings}
  {layers : List Layer} {lookup : String → Option String}

/-! ## Files that say layers -/

/-- A file says a layer: it can be read, and its text is the document of the layer. -/
def Says (files : FileTree) (p : Path) (l : Layer) : Prop :=
  ∃ text, files.readText p = .ok text ∧ (Json.read? text).bind Layer.ofJson? = some l

/-- What is reported of a file that says no layer. -/
inductive Refuses (files : FileTree) (p : Path) : Error → Prop where
  /-- The file cannot be read. -/
  | unread {fault : Fault} (hread : files.readText p = .error fault) :
    Refuses files p (.settings ("Failed to read " ++ String.ofList p ++ ": " ++ fault.text))
  /-- The text is not the document of a layer. -/
  | unparsed {text : String} (hread : files.readText p = .ok text)
      (hparse : (Json.read? text).bind Layer.ofJson? = none) :
    Refuses files p (.settings ("Failed to parse " ++ String.ofList p ++ ": " ++ Json.complaint))

/-- Reading a file gives a layer exactly if the file says it. -/
theorem loadLayer_eq_ok_iff : loadLayer files p = .ok l ↔ Says files p l := by
  unfold loadLayer loadDocument Says
  cases files.readText p with
  | error fault => simp
  | ok text => cases hparse : (Json.read? text).bind Layer.ofJson? <;> simp [hparse]

/-- Reading a file is an error exactly if the file refuses with it. -/
theorem loadLayer_eq_error_iff : loadLayer files p = .error e ↔ Refuses files p e := by
  unfold loadLayer loadDocument
  constructor
  · intro h
    cases hread : files.readText p with
    | error fault =>
      simp only [hread, Except.error.injEq] at h
      exact h ▸ .unread hread
    | ok text =>
      cases hparse : (Json.read? text).bind Layer.ofJson? with
      | none =>
        simp only [hread, hparse, Except.error.injEq] at h
        exact h ▸ .unparsed hread hparse
      | some l => simp [hread, hparse] at h
  · rintro (hread | ⟨hread, hparse⟩)
    · simp [hread]
    · simp [hread, hparse]

/-- A file says a layer or is refused. -/
theorem says_or_refuses (files : FileTree) (p : Path) :
    (∃ l, Says files p l) ∨ ∃ e, Refuses files p e := by
  cases hload : loadLayer files p with
  | ok l => exact .inl ⟨l, loadLayer_eq_ok_iff.1 hload⟩
  | error e => exact .inr ⟨e, loadLayer_eq_error_iff.1 hload⟩

/-- A file says one layer only. -/
theorem Says.unique {l' : Layer} (h : Says files p l) (h' : Says files p l') : l = l' := by
  rw [← loadLayer_eq_ok_iff] at h h'
  rw [h] at h'
  cases h'
  rfl

/-- A file refuses with one error only. -/
theorem Refuses.unique {e' : Error} (h : Refuses files p e) (h' : Refuses files p e') : e = e' := by
  rw [← loadLayer_eq_error_iff] at h h'
  rw [h] at h'
  cases h'
  rfl

/-- A file that refuses says nothing. -/
theorem Refuses.not_says (h : Refuses files p e) (l : Layer) : ¬ Says files p l := by
  intro hlayer
  rw [← loadLayer_eq_error_iff, loadLayer_eq_ok_iff.2 hlayer] at h
  cases h

/-! ## Files read one after another -/

/-- The files that have to be read, in order: the user's and the project's if they are there, and
the one that is asked for. -/
def filesRead (around : Surroundings) (explicit : Option Path) : List Path :=
  ((folders around).map (·.filePath fileName)).filter around.files.isThere ++ explicit.toList

/-- Puts the layer of a file over settings. -/
def mergeFile (files : FileTree) (s : Settings) (p : Path) : Except Error Settings :=
  (loadLayer files p).map s.merge

/-- A folder is merged as the one file in it, if that is there. -/
theorem mergeFolder_eq (s : Settings) (files : FileTree) (folder : SettingsFolder) :
    s.mergeFolder files folder =
      ([folder.filePath fileName].filter files.isThere).foldlM (mergeFile files) s := by
  unfold mergeFolder SettingsFolder.loadOptional
  cases hthere : files.isThere (folder.filePath fileName) with
  | false => simp [hthere]; rfl
  | true =>
    simp only [if_true, List.filter_cons, hthere, List.filter_nil, List.foldlM_cons,
      List.foldlM_nil, bind_pure]
    change ((loadLayer files (folder.filePath fileName)).map some).bind _ = mergeFile files s _
    unfold mergeFile
    cases loadLayer files (folder.filePath fileName) <;> rfl

/-- The user's folder is merged as the one file in it, if the account has a folder and the file is
there. -/
theorem mergeUser_eq (s : Settings) (around : Surroundings) :
    s.mergeUser around =
      (((SettingsFolder.user? around).toOption.toList.map (·.filePath fileName)).filter
        around.files.isThere).foldlM (mergeFile around.files) s := by
  unfold mergeUser
  cases SettingsFolder.user? around with
  | ok folder => exact mergeFolder_eq s around.files folder
  | error e => rfl

/-- Settings are loaded file by file, and the variables come last. -/
theorem load_eq (around : Surroundings) (explicit : Option Path) :
    load around explicit =
      ((filesRead around explicit).foldlM (mergeFile around.files) {}).map
        (·.applyVariables around.environment.value?) := by
  have hmap {α β : Type} (f : α → β) (x : Except Error α) :
      x.map f = x >>= fun a => pure (f a) := by
    cases x <;> rfl
  unfold load filesRead folders
  simp only [mergeUser_eq, mergeFolder_eq, List.map_append, List.filter_append,
    List.map_singleton, List.foldlM_append, hmap, bind_assoc]
  refine bind_congr fun s => bind_congr fun s' => ?_
  cases explicit with
  | none => simp
  | some p => simp [mergeFile, hmap]

/-- What a file says is merged. -/
theorem mergeFile_eq_ok (h : Says files p l) : mergeFile files s p = .ok (s.merge l) := by
  rw [mergeFile, loadLayer_eq_ok_iff.2 h]
  rfl

/-- A file that refuses ends the merge. -/
theorem mergeFile_eq_error (h : Refuses files p e) : mergeFile files s p = .error e := by
  rw [mergeFile, loadLayer_eq_error_iff.2 h]
  rfl

/-- Files that all say layers are read to the end, and their layers put over the settings. -/
theorem foldlM_mergeFile_eq_ok_iff {paths : List Path} :
    paths.foldlM (mergeFile files) s = .ok s' ↔
      ∃ layers, List.Forall₂ (Says files) paths layers ∧ s' = layers.foldl merge s := by
  induction paths generalizing s with
  | nil => simp [pure, Except.pure, eq_comm]
  | cons p rest ih =>
    rw [List.foldlM_cons]
    rcases says_or_refuses files p with ⟨l, hlayer⟩ | ⟨e, hrefuses⟩
    · rw [mergeFile_eq_ok hlayer]
      change rest.foldlM (mergeFile files) (s.merge l) = .ok s' ↔ _
      rw [ih]
      constructor
      · rintro ⟨layers, hall, rfl⟩
        exact ⟨l :: layers, .cons hlayer hall, rfl⟩
      · rintro ⟨layers, hall, rfl⟩
        obtain ⟨l', layers', hlayer', hall', rfl⟩ := List.forall₂_cons_left_iff.1 hall
        exact ⟨layers', hall', by rw [List.foldl_cons, hlayer.unique hlayer']⟩
    · rw [mergeFile_eq_error hrefuses]
      constructor
      · rintro ⟨⟩
      · rintro ⟨layers, hall, -⟩
        obtain ⟨l, layers, hlayer, -, -⟩ := List.forall₂_cons_left_iff.1 hall
        exact absurd hlayer (hrefuses.not_says l)

/-- Reading stops at the first file that says no layer. -/
theorem foldlM_mergeFile_eq_error_iff {paths : List Path} :
    paths.foldlM (mergeFile files) s = .error e ↔
      ∃ front p rest, paths = front ++ p :: rest ∧ (∀ q ∈ front, ∃ l, Says files q l) ∧
        Refuses files p e := by
  induction paths generalizing s with
  | nil => simp [pure, Except.pure]
  | cons p rest ih =>
    rw [List.foldlM_cons]
    rcases says_or_refuses files p with ⟨l, hlayer⟩ | ⟨e', hrefuses⟩
    · rw [mergeFile_eq_ok hlayer]
      change rest.foldlM (mergeFile files) (s.merge l) = .error e ↔ _
      rw [ih]
      constructor
      · rintro ⟨front, q, after, rfl, hfront, hq⟩
        exact ⟨p :: front, q, after, rfl, List.forall_mem_cons.2 ⟨⟨l, hlayer⟩, hfront⟩, hq⟩
      · rintro ⟨front, q, after, hpaths, hfront, hq⟩
        cases front with
        | nil =>
          cases hpaths
          exact absurd hlayer (hq.not_says l)
        | cons p' front =>
          cases hpaths
          exact ⟨front, q, after, rfl, (List.forall_mem_cons.1 hfront).2, hq⟩
    · rw [mergeFile_eq_error hrefuses]
      constructor
      · rintro ⟨⟩
        exact ⟨[], p, rest, rfl, fun q hq => absurd hq List.not_mem_nil, hrefuses⟩
      · rintro ⟨front, q, after, hpaths, hfront, hq⟩
        cases front with
        | nil =>
          cases hpaths
          exact congrArg Except.error (hrefuses.unique hq)
        | cons p' front =>
          cases hpaths
          obtain ⟨l, hlayer⟩ := (List.forall_mem_cons.1 hfront).1
          exact absurd hlayer (hrefuses.not_says l)

/-! ## Layers put one over another -/

/-- The last value that any of some layers sets. -/
def lastSet {α : Type} (field : Layer → Option α) (layers : List Layer) : Option α :=
  (layers.filterMap field).getLast?

/-- The first layer has a say only where all later ones are silent. -/
theorem lastSet_cons {α : Type} (field : Layer → Option α) (l : Layer) (rest : List Layer) :
    lastSet field (l :: rest) = (lastSet field rest).or (field l) := by
  unfold lastSet
  cases h : field l with
  | none => simp [h]
  | some a => simp [h, List.getLast?_cons]

/-- The last value that is set can be read in another form. -/
theorem lastSet_map {α β : Type} (field : Layer → Option α) (f : α → β) (layers : List Layer) :
    lastSet (fun l => (field l).map f) layers = (lastSet field layers).map f := by
  unfold lastSet
  rw [← List.getLast?_map, List.map_filterMap]

/-- What every merge takes from the layer that sets it is what the last of the layers sets. -/
theorem foldl_merge {α : Type} (get : Settings → α) (field : Layer → Option α)
    (hmerge : ∀ s l, get (s.merge l) = (field l).getD (get s)) (layers : List Layer)
    (s : Settings) : get (layers.foldl merge s) = (lastSet field layers).getD (get s) := by
  induction layers generalizing s with
  | nil => rfl
  | cons l rest ih =>
    rw [List.foldl_cons, ih, hmerge, lastSet_cons]
    cases lastSet field rest <;> rfl

/-- Settings are what layers and variables say, field by field. -/
structure Combines (layers : List Layer) (lookup : String → Option String) (s : Settings) :
    Prop where
  debug : s.debug =
    (((lookup debugVariable).map (· != "false")).or (lastSet (·.debug) layers)).getD false
  descriptorFolder : s.descriptorFolder =
    ((((lookup descriptorFolderVariable).filter (· ≠ "")).or
      (lastSet (·.descriptorFolder) layers)).map folderName).getD defaultDescriptorFolder
  cacheFailures : s.cacheFailures = (lastSet (·.cacheFailures) layers).getD true
  consultEnvironment : s.consultEnvironment = (lastSet (·.consultEnvironment) layers).getD true
  startupStates : s.startupStates =
    (lastSet (·.startupStates) layers).getD ModuleState.startupDefaults
  pins : ∀ service, s.pins.get? service = lastSet (·.pins.get? service) layers

/-- Of pins, every merge takes those that the layer has for a service. -/
theorem get?_pins_foldl_merge (layers : List Layer) (s : Settings) (service : String) :
    (layers.foldl merge s).pins.get? service =
      (lastSet (·.pins.get? service) layers).or (s.pins.get? service) := by
  rw [foldl_merge (·.pins.get? service) (fun l => (l.pins.get? service).map some) _ layers s,
    lastSet_map]
  · cases lastSet (·.pins.get? service) layers <;> rfl
  · intro s l
    rw [merge, Dict.get?_extend]
    cases l.pins.get? service <;> rfl

/-- Variables bear on two of the fields. -/
theorem applyVariables_eq (s : Settings) (lookup : String → Option String) :
    s.applyVariables lookup = { s with
      debug := ((lookup debugVariable).map (· != "false")).getD s.debug
      descriptorFolder := (((lookup descriptorFolderVariable).filter (· ≠ "")).map folderName).getD
        s.descriptorFolder } := by
  unfold applyVariables
  cases lookup debugVariable <;> cases lookup descriptorFolderVariable with
  | none => rfl
  | some text =>
    by_cases hempty : text = ""
    · simp [hempty, Option.filter_some]
    · simp [hempty, Option.filter_some, setDescriptorFolder]

/-- Layers put over the defaults, with the variables on top, are combined field by field. -/
theorem combines_applyVariables (layers : List Layer) (lookup : String → Option String) :
    Combines layers lookup ((layers.foldl merge {}).applyVariables lookup) := by
  rw [applyVariables_eq]
  constructor
  case debug =>
    rw [foldl_merge Settings.debug Layer.debug (fun _ _ => rfl) layers {}]
    cases lookup debugVariable <;> rfl
  case descriptorFolder =>
    rw [foldl_merge Settings.descriptorFolder (fun l => l.descriptorFolder.map folderName)
      (fun _ _ => rfl) layers {}, lastSet_map]
    cases (lookup descriptorFolderVariable).filter (· ≠ "") <;> rfl
  case cacheFailures =>
    exact foldl_merge Settings.cacheFailures Layer.cacheFailures (fun _ _ => rfl) layers {}
  case consultEnvironment =>
    exact foldl_merge Settings.consultEnvironment Layer.consultEnvironment (fun _ _ => rfl)
      layers {}
  case startupStates =>
    exact foldl_merge Settings.startupStates Layer.startupStates (fun _ _ => rfl) layers {}
  case pins =>
    intro service
    exact (get?_pins_foldl_merge layers {} service).trans (Option.or_none ..)

/-- Layers combine to one record only. -/
theorem Combines.unique (h : Combines layers lookup s) (h' : Combines layers lookup s') :
    s = s' := by
  have hpins : s.pins = s'.pins := Dict.ext_get? fun service =>
    (h.pins service).trans (h'.pins service).symm
  have hdebug := h.debug.trans h'.debug.symm
  have hfolder := h.descriptorFolder.trans h'.descriptorFolder.symm
  have hcache := h.cacheFailures.trans h'.cacheFailures.symm
  have henvironment := h.consultEnvironment.trans h'.consultEnvironment.symm
  have hstates := h.startupStates.trans h'.startupStates.symm
  cases s
  cases s'
  simp_all

/-- Combined settings have their descriptor folder in its written form. -/
theorem Combines.folder (h : Combines layers lookup s) :
    Slashes.Folder s.descriptorFolder.toList := by
  rw [h.descriptorFolder]
  generalize ((lookup descriptorFolderVariable).filter (· ≠ "")).or _ = named
  cases named with
  | none => decide
  | some text =>
    rw [Option.map_some, Option.getD_some, folderName, String.toList_ofList]
    exact Slashes.folder_asFolder text.toList

/-- A layer that is put over settings a second time changes nothing. -/
theorem merge_merge (s : Settings) (l : Layer) : (s.merge l).merge l = s.merge l := by
  have hpins : (s.pins.extend l.pins).extend l.pins = s.pins.extend l.pins := by
    refine Dict.ext_get? fun service => ?_
    rw [Dict.get?_extend, Dict.get?_extend]
    cases l.pins.get? service <;> rfl
  have hset {α : Type} (o : Option α) (a : α) : o.getD (o.getD a) = o.getD a := by
    cases o <;> rfl
  simp only [merge, hset, hpins]

/-! ## What loading answers -/

/-- What loading settings answers, whatever the files hold. -/
structure Layered (around : Surroundings) (explicit : Option Path) (r : Except Error Settings) :
    Prop where
  /-- It fails just if one of the files that are read says no layer. -/
  fails : (∃ detail, r = .error (.settings detail)) ↔
    ∃ p ∈ filesRead around explicit, ∀ l, ¬ Says around.files p l
  /-- What is reported is the first of these. -/
  reports : ∀ e, r = .error e ↔ ∃ front p rest, filesRead around explicit = front ++ p :: rest ∧
    (∀ q ∈ front, ∃ l, Says around.files q l) ∧ Refuses around.files p e
  /-- Otherwise the layers of the files are combined under the variables. -/
  succeeds : ∀ s, r = .ok s ↔ ∃ layers,
    List.Forall₂ (Says around.files) (filesRead around explicit) layers ∧
    Combines layers around.environment.value? s
  /-- The descriptor folder begins with no slash and, unless it is empty, ends in one. -/
  folder : ∀ s, r = .ok s → Slashes.Folder s.descriptorFolder.toList

/-- Loading is an error exactly if some file that is read refuses with it, after files that all say
something. -/
theorem load_eq_error_iff {around : Surroundings} {explicit : Option Path} :
    load around explicit = .error e ↔ ∃ front p rest,
      filesRead around explicit = front ++ p :: rest ∧
      (∀ q ∈ front, ∃ l, Says around.files q l) ∧ Refuses around.files p e := by
  rw [load_eq, ← foldlM_mergeFile_eq_error_iff]
  cases (filesRead around explicit).foldlM (mergeFile around.files) {} <;> simp [Except.map]

/-- Loading gives settings exactly if all files that are read say something and the settings combine
what they say. -/
theorem load_eq_ok_iff {around : Surroundings} {explicit : Option Path} :
    load around explicit = .ok s ↔ ∃ layers,
      List.Forall₂ (Says around.files) (filesRead around explicit) layers ∧
      Combines layers around.environment.value? s := by
  rw [load_eq]
  constructor
  · intro h
    cases hread : (filesRead around explicit).foldlM (mergeFile around.files) {} with
    | error e => simp [hread, Except.map] at h
    | ok s' =>
      rw [hread] at h
      cases h
      obtain ⟨layers, hall, rfl⟩ := foldlM_mergeFile_eq_ok_iff.1 hread
      exact ⟨layers, hall, combines_applyVariables layers _⟩
  · rintro ⟨layers, hall, hs⟩
    rw [foldlM_mergeFile_eq_ok_iff.2 ⟨layers, hall, rfl⟩,
      hs.unique (combines_applyVariables layers _)]
    rfl

/-- Loading goes by the last layer that sets a field, and a layer counts once however often it is
put over settings. -/
theorem layered_load (around : Surroundings) (explicit : Option Path) :
    Layered around explicit (load around explicit) ∧
      ∀ (s : Settings) (l : Layer), (s.merge l).merge l = s.merge l := by
  refine ⟨⟨⟨?_, ?_⟩, fun e => load_eq_error_iff, fun s => load_eq_ok_iff, ?_⟩, merge_merge⟩
  · rintro ⟨detail, herror⟩
    obtain ⟨front, p, rest, hfiles, -, hp⟩ := load_eq_error_iff.1 herror
    exact ⟨p, by simp [hfiles], hp.not_says⟩
  · rintro ⟨p, hp, hnone⟩
    cases hload : load around explicit with
    | error e =>
      obtain ⟨_, _, _, _, _, hrefuses⟩ := load_eq_error_iff.1 hload
      cases hrefuses <;> exact ⟨_, rfl⟩
    | ok s =>
      obtain ⟨layers, hall, -⟩ := load_eq_ok_iff.1 hload
      obtain ⟨hlength, hlayer⟩ := List.forall₂_iff_get.1 hall
      obtain ⟨n, hn, rfl⟩ := List.getElem_of_mem hp
      exact absurd (hlayer n hn (hlength ▸ hn)) (hnone _)
  · intro s hload
    obtain ⟨layers, -, hs⟩ := load_eq_ok_iff.1 hload
    exact hs.folder

end ServiceRegistry.Settings
