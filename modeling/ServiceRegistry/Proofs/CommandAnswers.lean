import ServiceRegistry.Proofs.CommandRuns
import ServiceRegistry.Proofs.PinLookups

/-!
# What the program answers

The whole run of the program comes down to the files, the variables, the settings and the arguments
(`Arguments.Answers`). A service is located in the latest of the folders that provide the
pinned type for it, or any type if none is pinned (`Arguments.pin?`); all types are located from the
latest folder to the first; a service is listed with the number of folders that have a file of its
name; and the modules are described in the order of their folders.

The folders are taken to load as modules, and their descriptor folder to lie inside them.
-/

namespace ServiceRegistry

namespace Arguments

open World Interruptible

/-! ## Two sides of a command -/

/-- Arguments that are read on give something before a command and something after it. -/
def Sides (r : Reading) (texts : List String) (name : CommandName) (before after : Given) : Prop :=
  ∃ front text rest r', texts = front ++ text :: rest ∧ CommandName.ofText? text = some name ∧
    front.foldlM (fun (r : Reading) text => r.argument none text) r = .ok r' ∧
    r'.given.settle r'.pending = .ok before ∧ readCommand name rest = .ok after

/-- The arguments of a command line are put together from what is given on both sides. -/
theorem sides_of_read {r : Reading} {texts : List String} {a : Arguments}
    (h : read r texts = .ok a) :
    ∃ name before after, Sides r texts name before after ∧ a = combine name before after := by
  induction texts generalizing r with
  | nil =>
    unfold read at h
    cases hsettle : r.given.settle r.pending <;> rw [hsettle] at h <;> cases h
  | cons text rest ih =>
    unfold read at h
    split at h
    · rename_i name hname
      split at hname
      · cases hname
      · cases hafter : readCommand name rest with
        | error e =>
          rw [hafter] at h
          cases h
        | ok after =>
          cases hbefore : r.given.settle r.pending with
          | error e =>
            rw [hafter, hbefore] at h
            cases h
          | ok before =>
            rw [hafter, hbefore] at h
            cases h
            exact ⟨name, before, after, ⟨[], text, rest, r, rfl, hname, rfl, hbefore, hafter⟩, rfl⟩
    · cases hargument : r.argument none text with
      | error e =>
        rw [hargument] at h
        cases h
      | ok r₁ =>
        rw [hargument] at h
        obtain ⟨name, before, after, ⟨front, command, rest', r', rfl, hname, hfront, hsides⟩, ha⟩ :=
          ih h
        refine ⟨name, before, after,
          ⟨text :: front, command, rest', r', rfl, hname, ?_, hsides⟩, ha⟩
        rw [List.foldlM_cons, hargument]
        exact hfront

/-! ## Pins -/

/-- The implementation that is wanted of a service: by the last pin that the command line has for
it; without one, by the variable of its name, if the settings consult the environment and the
variable is not empty; failing that, by the settings. -/
def pin? (a : Arguments) (s : Settings) (e : Environment) (service : String) : Option String :=
  (a.pins.reverse.lookup service).or
    (((if s.consultEnvironment then e.value? service else none).filter (!·.isEmpty)).or
      (s.pins.get? service))

/-- The implementation that is wanted of a service is the one that a lookup through all sources
finds. -/
theorem lookup_pinSource (a : Arguments) (s : Settings) (e : Environment) (service : String) :
    (a.pinSource s).lookup e service = a.pin? s e service := by
  rw [PinSource.lookup_eq_head?, offered_pinSource, List.head?_append, List.head?_append,
    Option.head?_toList, Option.head?_toList, Option.head?_toList, pin?]

/-- Where a folder has its descriptors. -/
def descriptorPath (s : Settings) (root : Path) : Path :=
  root.join (Slashes.asFolder s.descriptorFolder.toList)

/-- The types that the folders of a command line provide for a service, in the order of the
folders. -/
def provided (a : Arguments) (files : FileTree) (s : Settings) (service : String) :
    List LoadedType :=
  (numbered a.modules).filterMap fun (id, root) =>
    FolderModule.provided? files (Slashes.asFolder s.descriptorFolder.toList) service id root

/-- What is reported on a folder with the number that it gets: that it is active, and the files in
its descriptor folder in ascending order. -/
structure Described (files : FileTree) (s : Settings) (entry : ModuleId × Path) (m : ModuleReport) :
    Prop where
  id : m.id = entry.1
  name : ∃ f, FolderModule.load files entry.1 entry.2 = .ok f ∧ m.name = f.name
  state : m.state = .active
  ascending : m.services.Pairwise (· < ·)
  services : ∀ service, service ∈ m.services ↔
    files.hasFile (descriptorPath s entry.2) service.toList = true

/-- A report answers the question of a command line. -/
def Answers (a : Arguments) (around : Surroundings) (s : Settings) (r : Report) : Prop :=
  match a.command with
  | .scan => ∃ ms, r = .modules ms ∧
      List.Forall₂ (Described around.files s) (numbered a.modules) ms
  | .locate service => '/' ∉ service.toList →
      r = .located service (Stock.preferred (a.pin? s around.environment service)
        (a.provided around.files s service).reverse)
  | .locateAll service => '/' ∉ service.toList →
      r = .locatedAll service (a.provided around.files s service).reverse
  | .ids => ∃ ss, r = .services ss ∧ ss.Pairwise (fun x y => x.1 < y.1) ∧
      ∀ service n, (service, n) ∈ ss ↔ 0 < n ∧ n = a.modules.countP fun root =>
        around.files.hasFile (descriptorPath s root) service.toList

/-! ## Once all folders are brought up -/

namespace Underway

variable {a : Arguments} {s : Settings} {around : Surroundings} {next : ModuleId}
  {rs : List Resident} {w : World} {service : String}
  (hw : Underway s around (a.pinSource s) (upAndRunning rs) next rs rs w)
include hw

/-- The candidates that bringing folders up leaves are at different locations. -/
theorem apart_candidates (service : String) :
    Provider.Apart ((w.catalog 0).table.candidates service) := by
  obtain ⟨order, horder⟩ := hw.taken
  intro p hp q hq
  rw [horder.ordered.candidates] at hp hq
  obtain ⟨c, hc, hp⟩ := List.mem_flatMap.1 hp
  obtain ⟨d, hd, hq⟩ := List.mem_flatMap.1 hq
  exact horder.apart p (List.mem_flatMap.2 ⟨c, hc, (Contribution.mem_offers.1 hp).1⟩)
    q (List.mem_flatMap.2 ⟨d, hd, (Contribution.mem_offers.1 hq).1⟩)

variable (hrs : List.Forall₂ (IsResident around.files) (numbered a.modules) rs)
  (hnamed : around.files.Named)
  (hfolder : FolderModule.staysBelow (Slashes.asFolder s.descriptorFolder.toList) = true)
include hrs hnamed hfolder

/-- What the candidates for a service offer is what the folders provide, the latest first. -/
theorem filterMap_candidates (hslash : '/' ∉ service.toList) :
    ((w.catalog 0).table.candidates service).filterMap (w.stock.offer? { name := service }) =
      (a.provided around.files s service).reverse := by
  obtain ⟨order, horder⟩ := hw.taken
  have hoffers : order.map (fun c => (c.offers service).filterMap
        (w.stock.offer? { name := service })) =
      rs.reverse.map fun r => (FolderModule.provided? around.files
        (Slashes.asFolder s.descriptorFolder.toList) service r.folder.id r.folder.root).toList := by
    refine map_eq_of_forall₂ horder.scans fun c r hr hc => ?_
    obtain ⟨-, serial, rfl⟩ := hc
    obtain ⟨-, hcontent, -⟩ := hw.objects r (List.mem_reverse.1 hr)
    obtain ⟨hroot, manifest, hmanifest, htypes⟩ := IsResident.loaded hrs r (List.mem_reverse.1 hr)
    have hview : w.stock.view r.module = r.folder.view around.files := by
      rw [Stock.view, hcontent, hw.files]
      rfl
    exact FolderModule.filterMap_offers hnamed hfolder hroot hmanifest htypes hview hw.fresh hslash
  rw [horder.ordered.candidates, List.filterMap_flatMap, List.flatMap_def, hoffers,
    ← List.flatMap_def, ← List.filterMap_eq_flatMap_toList, provided, IsResident.entries hrs,
    List.filterMap_map, List.filterMap_reverse]
  rfl

/-- The type that is located is that of the latest folder that provides what is wanted. -/
theorem locate (hslash : '/' ∉ service.toList) : (w.locate 0 { name := service } service).1 =
    Stock.preferred (a.pin? s around.environment service)
      (a.provided around.files s service).reverse := by
  have hfirst := (Stock.locateFirst_eq (hw.apart_candidates service) (List.Subset.refl _)
    ((w.catalog 0).pins.lookup w.environment service) { name := service } w.stock).1
  rw [filterMap_candidates hw hrs hnamed hfolder hslash, Stock.find?_agrees, hw.pins,
    hw.environment, lookup_pinSource] at hfirst
  rw [← hfirst, ← lookup_pinSource, ← hw.pins, ← hw.environment]
  rfl

/-- All types that are located for a service are those that the folders provide, the latest first.
-/
theorem locateAll (hslash : '/' ∉ service.toList) :
    (w.locateAll 0 { name := service } service).1 =
      (a.provided around.files s service).reverse := by
  rw [← filterMap_candidates hw hrs hnamed hfolder hslash]
  exact (Stock.locateEach_eq (hw.apart_candidates service) (List.Subset.refl _)
    { name := service } w.stock).1

/-- There are as many candidates for a service as folders that have a file of its name. -/
theorem length_candidates (service : String) : ((w.catalog 0).table.candidates service).length =
    a.modules.countP fun root =>
      around.files.hasFile (descriptorPath s root) service.toList := by
  obtain ⟨order, horder⟩ := hw.taken
  have hlengths : order.map (fun c => (c.offers service).length) = rs.reverse.map fun r =>
      if around.files.hasFile (descriptorPath s r.folder.root) service.toList then 1 else 0 := by
    refine map_eq_of_forall₂ horder.scans fun c r hr hc => ?_
    obtain ⟨-, serial, rfl⟩ := hc
    exact FolderModule.length_offers hnamed hfolder _ _ _
  have hroots : a.modules = rs.map (·.folder.root) := by
    rw [← map_snd_numbered a.modules, IsResident.entries hrs, List.map_map]
    rfl
  have hcount (p : Resident → Bool) (l : List Resident) :
      (l.map fun r => if p r then 1 else 0).sum = l.countP p := by
    induction l with
    | nil => rfl
    | cons r rest ih => rw [List.map_cons, List.sum_cons, ih, List.countP_cons, Nat.add_comm]
  rw [horder.ordered.candidates, List.length_flatMap, hlengths, hcount, List.countP_reverse, hroots,
    List.countP_map]
  rfl

/-- The services of the catalog are those of which some folder has a file. -/
theorem mem_services (service : String) (n : Nat) :
    (service, n) ∈ (w.catalog 0).table.entries.map (fun e => (e.1, e.2.length)) ↔
      0 < n ∧ n = a.modules.countP fun root =>
        around.files.hasFile (descriptorPath s root) service.toList := by
  rw [← length_candidates hw hrs hnamed hfolder service, Table.candidates, List.mem_map]
  constructor
  · rintro ⟨⟨_, ps⟩, hmem, heq⟩
    cases heq
    have hget := Dict.get?_eq_some_iff.2 hmem
    obtain ⟨order, horder⟩ := hw.taken
    have hne : ps ≠ [] := fun hps => horder.ordered.tight _ (hps ▸ hget)
    rw [hget]
    exact ⟨List.length_pos_iff.2 hne, rfl⟩
  · rintro ⟨hpos, rfl⟩
    cases hget : (w.catalog 0).table.get? service with
    | none =>
      rw [hget] at hpos
      cases hpos
    | some ps => exact ⟨(service, ps), Dict.get?_eq_some_iff.1 hget, rfl⟩

/-- The host lists the folders, and the follower knows what they contribute. -/
theorem described : List.Forall₂ (Described around.files s) (numbered a.modules)
    ((w.host 0).modules.map fun h => ⟨h.module.id, h.module.name, h.state,
      ((w.follower 0).contributions? h.module.id).getD []⟩) := by
  obtain ⟨order, horder⟩ := hw.taken
  have hmem : List.Forall₂ (fun entry r => r ∈ rs ∧ IsResident around.files entry r)
      (numbered a.modules) rs :=
    ((List.forall₂_and_left _ _).2 ⟨fun _ hr => hr, hrs.flip⟩).flip
  rw [hw.listed, upAndRunning, List.map_map, List.forall₂_map_right_iff]
  refine hmem.imp fun entry r hboth => ?_
  obtain ⟨hr, hresident⟩ := hboth
  obtain ⟨c, hc, -, serial, rfl⟩ := exists_of_forall₂ horder.scans (List.mem_reverse.2 hr)
  have hgroup := (horder.ordered.groups r.module.id _).2 ⟨hc, rfl⟩
  have hroot : r.folder.root = entry.2 := by
    obtain ⟨-, manifest, -, hfolder⟩ := FolderModule.load_eq_ok hresident.load
    rw [hfolder]
  dsimp only [Function.comp]
  rw [Follower.contributions?, hgroup]
  refine ⟨hresident.id, ⟨_, hresident.load, hresident.name⟩, rfl, ?_, fun service => ?_⟩
  · exact FolderModule.ascending_services hnamed hfolder _ _ _
  · rw [descriptorPath, ← hroot]
    exact FolderModule.mem_services hnamed hfolder _ _ _

end Underway

/-! ## The run as a whole -/

variable {a : Arguments} {s : Settings} {around : Surroundings}

/-- What the program reports is its answer on a world in which all folders are brought up. -/
theorem report_eq (hsettings : a.settings around = .ok s) (hfew : a.modules.length < 2 ^ 64)
    (hload : ∀ root ∈ a.modules, ∃ id f, FolderModule.load around.files id root = .ok f) :
    ∃ w rs, a.report around = .ok ((answer a.command).calm w).1 ∧
      Raised s around (a.pinSource s) a.modules rs w := by
  obtain ⟨v, hstart, hv⟩ := Underway.start a s around
  have hnone : Raised s around (a.pinSource s) [] [] v := ⟨.nil, hv⟩
  obtain ⟨w, rs, hup, hw⟩ := calm_bringUpAll hnone hload (by simpa using hfew)
  refine ⟨w, rs, ?_, hw⟩
  have hwork : a.work.calm (a.world s around) =
      (.ok ((answer a.command).calm w).1, ((answer a.command).calm w).2.stopFollower 0) := by
    unfold work
    rw [calm_bind, hstart]
    dsimp only
    rw [calm_bind, hup]
    dsimp only
    rw [calm_bind]
    rfl
  unfold report
  rw [hsettings]
  change (a.work.calm (a.world s around)).1 = _
  rw [hwork]

/-- A command line whose folders load as modules is answered from the files, the variables, the
settings and the arguments alone. Pins that are given after the command take the place of all that
are given before it. -/
theorem answers_of_parse {texts : List String} (hparse : parse texts = .ok a)
    (hsettings : a.settings around = .ok s) (hfew : a.modules.length < 2 ^ 64)
    (hload : ∀ root ∈ a.modules, ∃ id f, FolderModule.load around.files id root = .ok f)
    (hfolder : FolderModule.staysBelow (Slashes.asFolder s.descriptorFolder.toList) = true)
    (hnamed : around.files.Named) :
    (∃ name before after, Sides {} texts name before after ∧
      a.pins = if after.pins.isEmpty then before.pins else after.pins) ∧
    ∃ r, a.run around = .ofReport a.json r ∧ a.Answers around s r := by
  constructor
  · obtain ⟨name, before, after, hsides, rfl⟩ := sides_of_read hparse
    exact ⟨name, before, after, hsides, rfl⟩
  · obtain ⟨w, rs, hreport, hrs, hw⟩ := report_eq hsettings hfew hload
    have hrun : a.run around = .ofReport a.json ((answer a.command).calm w).1 := by
      unfold run
      rw [hreport]
    refine ⟨_, hrun, ?_⟩
    unfold Answers answer
    cases a.command with
    | scan => exact ⟨_, rfl, hw.described hrs hnamed hfolder⟩
    | locate service =>
      intro hslash
      exact congrArg (Report.located service) (hw.locate hrs hnamed hfolder hslash)
    | locateAll service =>
      intro hslash
      exact congrArg (Report.locatedAll service) (hw.locateAll hrs hnamed hfolder hslash)
    | ids =>
      have hsorted := (w.catalog 0).table.sorted.imp compare_lt_iff_lt.1
      exact ⟨_, rfl, List.pairwise_map.2 hsorted, hw.mem_services hrs hnamed hfolder⟩

/-! Two folders provide different types for a service. The type of the first is pinned before the
command, but a pin of another service stands after it. -/

section Example

/-- The words of the command line. -/
def pinnedTexts : List String :=
  ["--override", "A=impl.X", "locate", "A", "-m", "m1", "-m", "m2", "--override", "B=impl.Y"]

/-- What is read from the command line. -/
def pinnedArguments : Arguments where
  command := .locate "A"
  modules := ["m1".toList, "m2".toList]
  pins := [("B", "impl.Y")]

/-- Surroundings with two module folders. -/
def twoFolders : Surroundings where
  files := (((({} : FileTree).write "m1/module.json".toList
      (Bytes.ofText "\x7b\"types\":[\"impl.X\"]\x7d")).write "m1/META-INF/services/A".toList
      (Bytes.ofText "impl.X")).write "m2/module.json".toList
      (Bytes.ofText "\x7b\"types\":[\"impl.Z\"]\x7d")).write "m2/META-INF/services/A".toList
      (Bytes.ofText "impl.Z")
  environment := .empty

/-- A pin that stands before the command is lost when another follows the command, so the unpinned
module answers. -/
theorem answers_of_parse_overridden : parse pinnedTexts = .ok pinnedArguments ∧
    pinnedArguments.run twoFolders = { exitCode := 0, output := "impl.Z (module 2)\n" } := by
  have hparse : parse pinnedTexts = .ok pinnedArguments := by decide +kernel
  have hload : ∀ root ∈ pinnedArguments.modules, ∃ id f,
      FolderModule.load twoFolders.files id root = .ok f := by
    have hfirst : FolderModule.load twoFolders.files ⟨1⟩ "m1".toList =
        .ok ⟨⟨1⟩, "m1", "m1".toList, Manifest.typeSpace { types := ["impl.X"] }⟩ := by
      decide +kernel
    have hsecond : FolderModule.load twoFolders.files ⟨2⟩ "m2".toList =
        .ok ⟨⟨2⟩, "m2", "m2".toList, Manifest.typeSpace { types := ["impl.Z"] }⟩ := by
      decide +kernel
    intro root hroot
    rcases List.mem_pair.1 hroot with rfl | rfl
    · exact ⟨_, _, hfirst⟩
    · exact ⟨_, _, hsecond⟩
  have hnamed : twoFolders.files.Named :=
    (((FileTree.named_empty.write _ _).write _ _).write _ _).write _ _
  obtain ⟨-, r, hrun, hr⟩ := answers_of_parse (s := {}) hparse (by decide +kernel) (by decide) hload
    (by decide +kernel) hnamed
  have hprovided : pinnedArguments.provided twoFolders.files {} "A" =
      [⟨"impl.X", ⟨1⟩⟩, ⟨"impl.Z", ⟨2⟩⟩] := by decide +kernel
  have hlocated : r = .located "A" (Stock.preferred (pinnedArguments.pin? {} .empty "A")
      (pinnedArguments.provided twoFolders.files {} "A").reverse) := hr (by decide)
  rw [hprovided] at hlocated
  subst hlocated
  exact ⟨hparse, hrun⟩

end Example

end Arguments

end ServiceRegistry
