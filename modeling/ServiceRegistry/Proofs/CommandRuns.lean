import Mathlib.Data.List.Forall2
import ServiceRegistry.CommandLine.Run
import ServiceRegistry.Proofs.FolderOffers
import ServiceRegistry.Proofs.Undisturbed

/-!
# How the program brings up its modules

The folders of a command line become modules one after another. Each gets the next number, and is
installed, resolved and started; the follower takes it up when it hears that it is resolved, and
nothing else reaches the catalog. `Arguments.Underway` says what holds from one of these steps to
the next, and `Arguments.Raised` what there is once some folders are brought up: the modules in the
order of their folders, numbered from one, and their contributions in the opposite order.
-/

namespace ServiceRegistry

/-- If the items of two lists are related one by one, each of the second list has its partner. -/
theorem exists_of_forall₂ {α β : Type} {R : α → β → Prop} {xs : List α} {ys : List β}
    (h : List.Forall₂ R xs ys) {y : β} (hy : y ∈ ys) : ∃ x ∈ xs, R x y := by
  induction h with
  | nil => exact absurd hy List.not_mem_nil
  | @cons x y' xs ys hxy _ ih =>
    rcases List.mem_cons.1 hy with rfl | hy
    · exact ⟨x, List.mem_cons_self, hxy⟩
    · obtain ⟨x', hx', hR⟩ := ih hy
      exact ⟨x', List.mem_cons_of_mem x hx', hR⟩

/-- Related lists are mapped to the same by functions that agree on what is related. -/
theorem map_eq_of_forall₂ {α β γ : Type} {R : α → β → Prop} {f : α → γ} {g : β → γ} {xs : List α}
    {ys : List β} (h : List.Forall₂ R xs ys) (hfg : ∀ x y, y ∈ ys → R x y → f x = g y) :
    xs.map f = ys.map g := by
  induction h with
  | nil => rfl
  | @cons x y xs ys hxy _ ih =>
    rw [List.map_cons, List.map_cons, hfg x y List.mem_cons_self hxy,
      ih fun x' y' hy' => hfg x' y' (List.mem_cons_of_mem y hy')]

/-- A module object, with the folder that it is. -/
structure Resident where
  module : Module
  folder : FolderModule

/-- A contribution is what a scan of a folder made. -/
def Resident.Contributes (files : FileTree) (rule : ScanRule) (c : Contribution) (r : Resident) :
    Prop :=
  r.module.id = r.folder.id ∧
    ∃ serial, c = rule.contribution r.module serial (r.folder.list files rule.folder.toList)

/-- A folder that is taken as a module could have any number. -/
theorem FolderModule.load_with {files : FileTree} {id : ModuleId} {root : Path} {f : FolderModule}
    (h : load files id root = .ok f) (id' : ModuleId) : ∃ f', load files id' root = .ok f' := by
  obtain ⟨hfolder, manifest, hmanifest, -⟩ := load_eq_ok h
  unfold load
  rw [if_pos hfolder, hmanifest]
  exact ⟨_, rfl⟩

/-- The number of a provider is not the number of an earlier one. -/
theorem ScanRule.apart_contribution (rule : ScanRule) (m : Module) (serial : Nat)
    (listing : Except Fault (List Location)) :
    Provider.Apart (rule.contribution m serial listing).providers := by
  rw [providers_contribution]
  intro p hp q hq hserial
  obtain ⟨⟨l, n⟩, hl, rfl⟩ := List.mem_map.1 hp
  obtain ⟨⟨l', n'⟩, hl', rfl⟩ := List.mem_map.1 hq
  obtain rfl : n = n' := Nat.add_left_cancel hserial
  rw [List.mem_zipIdx_iff_getElem?] at hl hl'
  cases hl.symm.trans hl'
  rfl

/-- A follower holds what scans of folders contributed, the latest first. -/
structure Stacked (files : FileTree) (rule : ScanRule) (taken : List Resident)
    (groups : Dict ModuleId Contribution) (t : Table) (nextSerial : Nat)
    (order : List Contribution) : Prop where
  ordered : Ordered groups t order
  scans : List.Forall₂ (Resident.Contributes files rule) order taken.reverse
  apart : Provider.Apart (order.flatMap (·.providers))
  below : ∀ p ∈ order.flatMap (·.providers), p.serial < nextSerial

namespace Stacked

variable {files : FileTree} {rule : ScanRule} {taken : List Resident}
  {order : List Contribution} {r : Resident} {serial : Nat} {f : Follower} {t : Table}

/-- A follower that has taken up nothing holds an empty stack. -/
theorem empty : Stacked files rule [] .empty .empty serial [] where
  ordered := .empty
  scans := .nil
  apart := nofun
  below := nofun

/-- A follower takes up one more folder, with providers that nobody has made before. -/
theorem arrive (h : Stacked files rule taken f.groups t serial order)
    (hid : r.module.id = r.folder.id) (hnew : ∀ d ∈ taken, d.module.id ≠ r.module.id)
    {c : Contribution}
    (hc : c = rule.contribution r.module serial (r.folder.list files rule.folder.toList)) :
    Stacked files rule (taken ++ [r]) (f.arrive t c).1.groups (f.arrive t c).2
      (serial + c.providers.length) (c :: order) := by
  have hown : c.Own := by
    rw [hc]
    refine ScanRule.own_contribution fun l hl => ?_
    cases hlist : r.folder.list files rule.folder.toList with
    | error fault =>
      rw [hlist] at hl
      exact absurd hl List.not_mem_nil
    | ok ls =>
      rw [hlist] at hl
      rw [FolderModule.owner?_of_mem_list hlist (ScanRule.mem_descriptors.1 hl).1, hid]
  have hothers : order.filter (·.module ≠ c.module) = order := by
    refine List.filter_eq_self.2 fun d hd => decide_eq_true fun hmodule => ?_
    obtain ⟨e, he, -, serial', rfl⟩ := exists_of_forall₂ h.scans.flip hd
    rw [hc] at hmodule
    exact hnew e (List.mem_reverse.1 he) hmodule
  have harrived := h.ordered.arrive hown
  rw [hothers] at harrived
  have hserial (p : Provider) (hp : p ∈ c.providers) :
      serial ≤ p.serial ∧ p.serial < serial + c.providers.length := by
    subst hc
    exact (ScanRule.of_mem_contribution hp).2.2.2
  refine ⟨harrived, ?_, ?_, ?_⟩
  · rw [List.reverse_append]
    exact .cons ⟨hid, serial, hc⟩ h.scans
  · rw [List.flatMap_cons]
    intro p hp q hq hpq
    rcases List.mem_append.1 hp with hp | hp <;> rcases List.mem_append.1 hq with hq | hq
    · subst hc
      exact ScanRule.apart_contribution _ _ _ _ p hp q hq hpq
    · have hlow := (hserial p hp).1
      have hhigh := h.below q hq
      omega
    · have hlow := (hserial q hq).1
      have hhigh := h.below p hp
      omega
    · exact h.apart p hp q hq hpq
  · intro p hp
    rw [List.flatMap_cons] at hp
    rcases List.mem_append.1 hp with hp | hp
    · exact (hserial p hp).2
    · have hhigh := h.below p hp
      omega

end Stacked

namespace Arguments

open World Interruptible

/-- The program's world while folders are brought up: what the host lists, the number that it gives
next, the module objects there are, and those that the follower has taken up. -/
structure Underway (s : Settings) (around : Surroundings) (pins : PinSource)
    (listed : List Hosted) (next : ModuleId) (objects taken : List Resident) (w : World) :
    Prop where
  environment : w.environment = around.environment
  files : w.stock.files = around.files
  fresh : ∀ p, w.stock.memo p = none
  pins : (w.catalog 0).pins = pins
  listed : (w.host 0).modules = listed
  next : (w.host 0).nextId = next
  audience : (w.host 0).bus.audience = [.follower 0]
  catalog : (w.follower 0).catalog = 0
  rule : (w.follower 0).rule = .ofSettings s
  running : (w.follower 0).running = true
  held : (w.follower 0).holders = 1
  objects : ∀ r ∈ objects, r.module.object < w.stock.objects.next ∧
    (w.stock.objects.get r.module.object).content = .folder r.folder ∧
    r.module.id = r.folder.id
  taken : ∃ order, Stacked around.files (.ofSettings s) taken (w.follower 0).groups
    (w.catalog 0).table w.nextSerial order

variable {s : Settings} {around : Surroundings} {pins : PinSource} {listed : List Hosted}
  {next : ModuleId} {objects taken : List Resident} {w : World} {r : Resident} {h : Host}
  {e : Event} {m : Module}

namespace Underway

/-- The program begins with an empty host and a follower that runs. -/
theorem start (a : Arguments) (s : Settings) (around : Surroundings) :
    ∃ w, (startFollower 0 mainHost).calm (a.world s around) = (.ok (), w) ∧
      Underway s around (a.pinSource s) [] ⟨1⟩ [] [] w := by
  refine ⟨_, rfl, ?_⟩
  constructor
  case taken => exact ⟨[], .empty⟩
  case objects => exact nofun
  case fresh => exact fun _ => rfl
  all_goals rfl

/-- A change of the host's list is a change of what is listed. -/
theorem setHost (hw : Underway s around pins listed next objects taken w)
    (hbus : h.bus.audience = (w.host 0).bus.audience) :
    Underway s around pins h.modules h.nextId objects taken (w.setHost 0 h) where
  environment := hw.environment
  files := hw.files
  fresh := hw.fresh
  pins := hw.pins
  listed := by rw [host_setHost, if_pos rfl]
  next := by rw [host_setHost, if_pos rfl]
  audience := by
    rw [host_setHost, if_pos rfl, hbus]
    exact hw.audience
  catalog := hw.catalog
  rule := hw.rule
  running := hw.running
  held := hw.held
  objects := hw.objects
  taken := hw.taken

/-- An event that is recorded leaves what is told of the world while folders are brought up. -/
theorem record (hw : Underway s around pins listed next objects taken w) (e : Event) :
    Underway s around pins listed next objects taken (World.record 0 e w).2 := by
  have hrecorded := hw.setHost (h := { w.host 0 with bus := (w.host 0).bus.record e }) rfl
  rwa [hw.listed, hw.next] at hrecorded

/-- The follower takes up a module of whose arrival it hears. -/
theorem arrival (hw : Underway s around pins listed next objects taken w)
    (harrival : e.kind.isArrival = true) (hr : r ∈ objects) (hmodule : e.module = r.module)
    (hnew : ∀ d ∈ taken, d.module.id ≠ r.module.id) :
    Underway s around pins listed next objects (taken ++ [r]) ((publish 0 e).calm w).2 := by
  have hv := hw.record e
  rw [calm_publish hw.audience]
  generalize (World.record 0 e w).2 = v at hv ⊢
  have hheld : (v.follower 0).holders ≠ 0 := by rw [hv.held]; exact one_ne_zero
  have ht := takenUp_hear hheld hv.running harrival
  generalize ((hear 0 e).calm v).2 = u at ht ⊢
  have hframe := ht.follower
  rw [Follower.fst_arrive] at hframe
  refine ⟨?_, ?_, ?_, ?_, ?_, ?_, ?_, ?_, ?_, ?_, ?_, ?_, ?_⟩
  · rw [ht.environment, hv.environment]
  · rw [ht.files, hv.files]
  · intro p
    rw [ht.memo, hv.fresh]
  · rw [ht.pins, hv.pins]
  · rw [ht.host, hv.listed]
  · rw [ht.host, hv.next]
  · rw [ht.host, hv.audience]
  · rw [hframe]
    exact hv.catalog
  · rw [hframe]
    exact hv.rule
  · rw [hframe]
    exact hv.running
  · rw [hframe]
    exact hv.held
  · intro d hd
    obtain ⟨hobject, hcontent, hid⟩ := hv.objects d hd
    exact ⟨hobject.trans_le ht.objects, (ht.content _).trans hcontent, hid⟩
  · obtain ⟨order, horder⟩ := hv.taken
    obtain ⟨-, hcontent, hid⟩ := hv.objects r hr
    have hscan : v.scanFor 0 r.module v.nextSerial = (ScanRule.ofSettings s).contribution r.module
        v.nextSerial (r.folder.list around.files (ScanRule.ofSettings s).folder.toList) := by
      rw [scanFor, hv.rule, Stock.view, hcontent, hv.files]
      rfl
    have harrived := horder.arrive hid hnew hscan
    have htable : (u.catalog 0).table = u.tableOf (v.follower 0) := by rw [tableOf, hv.catalog]
    rw [ht.follower, ht.nextSerial, htable, ht.table, hmodule, tableOf, hv.catalog]
    exact ⟨_, harrived⟩

/-- Events that are neither arrivals nor departures change nothing. -/
theorem other (hw : Underway s around pins listed next objects taken w)
    (harrival : e.kind.isArrival = false) (hdeparture : e.kind.isDeparture = false) :
    Underway s around pins listed next objects taken ((publish 0 e).calm w).2 := by
  rw [calm_publish hw.audience, calm_hear_other harrival hdeparture]
  exact hw.record e

/-- Opening a folder makes an object of it, which takes the next number. -/
theorem opened (hw : Underway s around pins listed next objects taken w) {root : Path}
    {f : FolderModule} (hload : FolderModule.load around.files next root = .ok f) :
    ∃ w', openModule root w = (.ok ⟨w.stock.objects.next, next, f.name⟩, w') ∧
      Underway s around pins listed next.next
        (objects ++ [⟨⟨w.stock.objects.next, next, f.name⟩, f⟩]) taken w' := by
  have htake : (w.host 0).takeId = (next, { w.host 0 with nextId := next.next }) := by
    rw [Host.takeId, hw.next]
  have hv := hw.setHost (h := { w.host 0 with nextId := next.next }) rfl
  have hid : f.id = next := by
    obtain ⟨-, manifest, -, rfl⟩ := FolderModule.load_eq_ok hload
    rfl
  generalize hset : w.setHost 0 { w.host 0 with nextId := next.next } = v at hv
  have hstock : v.stock = w.stock := hset ▸ rfl
  refine ⟨{ v with stock := { v.stock with
    objects := v.stock.objects.set v.stock.objects.next { content := .folder f } } }, ?_, ?_⟩
  · unfold openModule
    dsimp only [mainHost]
    rw [htake]
    dsimp only
    rw [hset, hv.files, hload]
    dsimp only
    rw [hstock]
  · refine ⟨hv.environment, hv.files, hv.fresh, hv.pins, hv.listed.trans hw.listed, hv.next,
      hv.audience, hv.catalog, hv.rule, hv.running, hv.held, fun r hr => ?_, hv.taken⟩
    dsimp only
    rw [Store.next_set, Store.get_set]
    rcases List.mem_append.1 hr with hr | hr
    · obtain ⟨hobject, hcontent, hid⟩ := hv.objects r hr
      exact ⟨by omega, by rw [if_neg (by omega), hcontent], hid⟩
    · rw [List.mem_singleton.1 hr, ← hstock, if_pos rfl]
      exact ⟨lt_max_of_lt_right (Nat.lt_succ_self _), rfl, hid.symm⟩

/-- A change of the state of the module that is listed last is announced. -/
theorem changeState {state state' : ModuleState}
    {rule : ModuleState → Except HostError (Option ModuleState)}
    (hw : Underway s around pins (listed ++ [⟨m, state⟩]) next objects taken w) (kind : EventKind)
    (hnew : ∀ d ∈ listed, d.module.id ≠ m.id) (hrule : rule state = .ok (some state')) :
    ∃ v, Underway s around pins (listed ++ [⟨m, state'⟩]) next objects taken v ∧
      (World.changeState 0 m.id rule kind).calm w =
        (.ok (), ((publish 0 ⟨kind, m⟩).calm v).2) := by
  have hhosted : (w.host 0).hosted? m.id = some ⟨m, state⟩ := by
    rw [Host.hosted?, hw.listed, List.find?_append, List.find?_eq_none.2 (by simpa using hnew)]
    simp
  have hchange (f : Hosted → Hosted) :
      Host.changeFirst m.id f (listed ++ [⟨m, state⟩]) = listed ++ [f ⟨m, state⟩] := by
    clear hw hhosted
    induction listed with
    | nil => simp [Host.changeFirst]
    | cons d rest ih =>
      rw [List.forall_mem_cons] at hnew
      simp [Host.changeFirst, hnew.1, ih hnew.2]
  have htransition := Host.transition_of_rule hhosted hrule
  have hv := hw.setHost (h := (w.host 0).change m.id fun e => { e with state := state' }) rfl
  have hmodules : ((w.host 0).change m.id fun e => { e with state := state' }).modules =
      listed ++ [⟨m, state'⟩] := by
    rw [Host.change, hw.listed, hchange]
  have hnext : ((w.host 0).change m.id fun e => { e with state := state' }).nextId = next := hw.next
  rw [hmodules, hnext] at hv
  refine ⟨_, hv, ?_⟩
  unfold World.changeState
  rw [calm_bind, calm_act, tryHost, htransition]
  dsimp only
  rw [calm_bind, calm_pure]
  rfl

/-- A module that is brought up is active in the end, and the follower has taken it up. -/
theorem bringUp (hw : Underway s around pins listed next objects taken w) (hr : r ∈ objects)
    (hlisted : ∀ d ∈ listed, d.module.id ≠ r.module.id)
    (htaken : ∀ d ∈ taken, d.module.id ≠ r.module.id) :
    ∃ w', (Arguments.bringUp r.module).calm w = (.ok (), w') ∧
      Underway s around pins (listed ++ [⟨r.module, .active⟩]) (.max next r.module.id.next) objects
        (taken ++ [r]) w' := by
  have hinstall : (w.host 0).install r.module = .ok { w.host 0 with
      modules := listed ++ [⟨r.module, .installed⟩]
      nextId := .max next r.module.id.next } := by
    have hnone : (w.host 0).hosted? r.module.id = none := by
      rw [Host.hosted?, hw.listed, List.find?_eq_none]
      simpa using hlisted
    rw [Host.install, hnone, hw.listed, hw.next]
    rfl
  have hinstalled := hw.setHost (h := { w.host 0 with
    modules := listed ++ [⟨r.module, .installed⟩]
    nextId := .max next r.module.id.next }) rfl
  have hpublished := hinstalled.other (e := ⟨.installed, r.module⟩) rfl rfl
  have hresolvable : Host.resolveRule r.module.id .installed = .ok (some .resolved) := rfl
  obtain ⟨v, hv, hresolve⟩ := hpublished.changeState .resolved hlisted hresolvable
  have hresolved := hv.arrival (e := ⟨.resolved, r.module⟩) rfl hr rfl htaken
  have hstartable : Host.startRule r.module.id .resolved = .ok (some .active) := rfl
  obtain ⟨u, hu, hstart⟩ := hresolved.changeState .started hlisted hstartable
  have hstarted := hu.other (e := ⟨.started, r.module⟩) rfl rfl
  refine ⟨_, ?_, hstarted⟩
  unfold Arguments.bringUp World.install World.start World.resolve mainHost
  rw [calm_bind, calm_bind, calm_act, tryHost, hinstall]
  dsimp only [Except.map]
  rw [calm_bind, calm_pure]
  dsimp only
  rw [calm_bind, hresolve]
  exact hstart

end Underway

/-- The number of the module that is opened after some others. -/
def number (n : Nat) : ModuleId := ⟨.ofNat n⟩

/-- The numbers that a host gives out follow one another. -/
theorem next_number (n : Nat) : (number n).next = number (n + 1) := by
  rw [ModuleId.next, number, number, UInt64.ofNat_add]
  rfl

/-- Below the limit of 64 bits, modules that are opened at different times have different numbers.
-/
theorem number_injective {m n : Nat} (hm : m < 2 ^ 64) (hn : n < 2 ^ 64)
    (h : number m = number n) : m = n := by
  have hwords := congrArg (fun id : ModuleId => id.word.toNat) h
  simp only [number, UInt64.toNat_ofNat'] at hwords
  omega

/-- Folders with the numbers that they get as modules: one, two and so on. -/
def numbered (roots : List Path) : List (ModuleId × Path) :=
  (roots.zipIdx 1).map fun (root, n) => (number n, root)

/-- One more folder gets the number after those before. -/
theorem numbered_concat (roots : List Path) (root : Path) :
    numbered (roots ++ [root]) = numbered roots ++ [(number (roots.length + 1), root)] := by
  simp [numbered, List.zipIdx_append, Nat.add_comm]

/-- Numbering folders keeps them and their order. -/
theorem map_snd_numbered (roots : List Path) : (numbered roots).map (·.2) = roots := by
  rw [numbered, List.map_map]
  exact List.zipIdx_map_fst 1 roots

/-- A module object is a folder with the number that the folder gets. -/
structure IsResident (files : FileTree) (entry : ModuleId × Path) (r : Resident) : Prop where
  load : FolderModule.load files entry.1 entry.2 = .ok r.folder
  id : r.module.id = entry.1
  name : r.module.name = r.folder.name

/-- The numbers of the folders that are taken as modules are counted up to how many they are. -/
theorem IsResident.numbers {files : FileTree} {roots : List Path} {rs : List Resident}
    (hrs : List.Forall₂ (IsResident files) (numbered roots) rs) :
    ∀ r ∈ rs, ∃ n, n ≤ roots.length ∧ r.module.id = number n := by
  intro r hr
  obtain ⟨entry, hentry, hresident⟩ := exists_of_forall₂ hrs hr
  obtain ⟨⟨root, n⟩, hn, rfl⟩ := List.mem_map.1 hentry
  have hlt := List.snd_lt_of_mem_zipIdx hn
  exact ⟨n, by omega, hresident.id⟩

/-- Folders with their numbers can be read off the modules that they have become. -/
theorem IsResident.entries {files : FileTree} {roots : List Path} {rs : List Resident}
    (hrs : List.Forall₂ (IsResident files) (numbered roots) rs) :
    numbered roots = rs.map fun r => (r.folder.id, r.folder.root) := by
  rw [← List.map_id (numbered roots)]
  refine map_eq_of_forall₂ hrs fun entry r _ hr => ?_
  obtain ⟨-, manifest, -, hfolder⟩ := FolderModule.load_eq_ok hr.load
  rw [hfolder]
  rfl

/-- Every module that is brought up is a folder that is there and whose manifest could be read. -/
theorem IsResident.loaded {files : FileTree} {roots : List Path} {rs : List Resident}
    (hrs : List.Forall₂ (IsResident files) (numbered roots) rs) :
    ∀ r ∈ rs, files.isFolder r.folder.root = true ∧ ∃ manifest,
      FolderModule.loadManifest files r.folder.root = .ok manifest ∧
      r.folder.types = manifest.typeSpace := by
  intro r hr
  obtain ⟨entry, -, hresident⟩ := exists_of_forall₂ hrs hr
  obtain ⟨hroot, manifest, hmanifest, hfolder⟩ := FolderModule.load_eq_ok hresident.load
  rw [hfolder]
  exact ⟨hroot, manifest, hmanifest, rfl⟩

/-- The list of a host on which some modules have been brought up. -/
def upAndRunning (rs : List Resident) : List Hosted := rs.map fun r => ⟨r.module, .active⟩

/-- Some folders have been brought up: the host lists them in their order, all active, and the
follower has taken them up. -/
structure Raised (s : Settings) (around : Surroundings) (pins : PinSource) (roots : List Path)
    (rs : List Resident) (w : World) : Prop where
  residents : List.Forall₂ (IsResident around.files) (numbered roots) rs
  underway : Underway s around pins (upAndRunning rs) (number (roots.length + 1)) rs rs w

namespace Raised

variable {roots : List Path} {rs : List Resident}

/-- The number of the next module is not taken. -/
theorem fresh (h : Raised s around pins roots rs w) (hfew : roots.length + 1 < 2 ^ 64) :
    ∀ d ∈ rs, d.module.id ≠ number (roots.length + 1) := by
  intro d hd heq
  obtain ⟨n, hn, hid⟩ := IsResident.numbers h.residents d hd
  rw [hid] at heq
  have hsame := number_injective (by omega) hfew heq
  omega

/-- One more folder is opened and brought up. -/
theorem step (h : Raised s around pins roots rs w) {id : ModuleId} {root : Path}
    {f : FolderModule} (hload : FolderModule.load around.files id root = .ok f)
    (hfew : roots.length + 1 < 2 ^ 64) :
    ∃ r v u, openModule root w = (.ok r.module, v) ∧
      (Arguments.bringUp r.module).calm v = (.ok (), u) ∧
      Raised s around pins (roots ++ [root]) (rs ++ [r]) u := by
  obtain ⟨f, hf⟩ := FolderModule.load_with hload (number (roots.length + 1))
  obtain ⟨v, hopen, hv⟩ := h.underway.opened hf
  have hlisted : ∀ d ∈ upAndRunning rs, d.module.id ≠ number (roots.length + 1) := by
    simpa [upAndRunning] using h.fresh hfew
  obtain ⟨u, hup, hu⟩ := hv.bringUp List.mem_concat_self hlisted (h.fresh hfew)
  refine ⟨_, v, u, hopen, hup, ?_, ?_⟩
  · rw [numbered_concat]
    exact List.rel_append h.residents (.cons ⟨hf, rfl, rfl⟩ .nil)
  · rw [ModuleId.max, ite_self, next_number] at hu
    rw [upAndRunning, List.map_append, List.length_append]
    exact hu

end Raised

/-- A program that brings up folders which load has them all raised in the end. -/
theorem calm_bringUpAll {roots rest : List Path} {rs : List Resident}
    (hw : Raised s around pins roots rs w)
    (hload : ∀ root ∈ rest, ∃ id f, FolderModule.load around.files id root = .ok f)
    (hfew : roots.length + rest.length < 2 ^ 64) :
    ∃ w' rs', (bringUpAll rest).calm w = (.ok (), w') ∧
      Raised s around pins (roots ++ rest) rs' w' := by
  induction rest generalizing roots rs w with
  | nil =>
    rw [List.append_nil]
    exact ⟨w, rs, rfl, hw⟩
  | cons root rest ih =>
    rw [List.forall_mem_cons] at hload
    obtain ⟨⟨id, f, hf⟩, hload⟩ := hload
    rw [List.length_cons] at hfew
    obtain ⟨r, v, u, hopen, hup, hu⟩ := hw.step hf (by omega)
    obtain ⟨w', rs', hrest, hw'⟩ := ih hu hload (by
      rw [List.length_append, List.length_singleton]
      omega)
    rw [List.append_assoc] at hw'
    refine ⟨w', rs', ?_, hw'⟩
    unfold bringUpAll
    rw [calm_bind, calm_act, hopen]
    dsimp only
    rw [calm_bind, hup]
    exact hrest

end Arguments

end ServiceRegistry
