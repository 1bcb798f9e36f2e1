import Mathlib.Data.List.Induction
import ServiceRegistry.Proofs.Renumbering
import ServiceRegistry.Proofs.SharedCatalog

/-!
# Departed modules

Modules are announced to a follower and taken away from it by direct requests, one after another. If
the last request about a module takes it away, the follower's holdings are as if none of the
requests about that module had been made (`traceless_of_reached`): the candidates of all services in
their order, the modules that they are bound to, and the stored contributions. Only the numbers of
providers that were made meanwhile differ, since a scan that is not made uses up no numbers.
-/

namespace ServiceRegistry

/-- A direct request to a follower. -/
inductive DirectCall where
  | arrived (m : Module)
  | departed (id : ModuleId)

namespace DirectCall

/-- The module that a request is about. -/
def subject : DirectCall → ModuleId
  | arrived m => m.id
  | departed id => id

/-- The operation that is requested. -/
def work (n : Nat) : DirectCall → Work Unit
  | arrived m => World.arrived n m
  | departed id => World.departed n id

end DirectCall

/-- The holdings of a follower. -/
def World.holdings (n : Nat) (w : World) : Holdings :=
  ⟨(w.follower n).groups, w.tableOf (w.follower n)⟩

/-- What a follower holds after a change is what the change makes of its groups and its table. -/
theorem World.holdings_onFollower {n : Nat} {w : World} {g : Follower → Table → Follower × Table}
    (hcatalog : ∀ f t, (g f t).1.catalog = f.catalog) :
    (w.onFollower n g).holdings n =
      ⟨(g (w.follower n) (w.tableOf (w.follower n))).1.groups,
        (g (w.follower n) (w.tableOf (w.follower n))).2⟩ := by
  unfold holdings tableOf
  rw [follower_onFollower, if_pos rfl, hcatalog, catalog_onFollower, if_pos rfl]

/-- A direct request, and what modules contain when it is made. -/
structure Occasion where
  call : DirectCall
  files : FileTree
  objects : Store ModuleObject

namespace Occasion

/-- The world in which the request is made. -/
def scene (o : Occasion) (w : World) : World :=
  { w with stock := { w.stock with files := o.files, objects := o.objects } }

/-- Makes the request; nothing else happens meanwhile. -/
def perform (n : Nat) (w : World) (o : Occasion) : World :=
  ((o.call.work n (o.scene w)).finish fun _ w => w).2

/-- What a module shows in a folder. -/
def listing (o : Occasion) (m : Module) (folder : String) : Except Fault (List Location) :=
  (({ files := o.files, objects := o.objects } : Stock).view m).list folder.toList

/-- A module that is announced lists only descriptors of its own. -/
def Honest (lists : Location → Prop) (o : Occasion) : Prop :=
  ∀ m, o.call = .arrived m → ∀ folder, ∀ l ∈ ScanRule.shown (o.listing m folder),
    lists l ∧ l.owner? = some m.id

/-- What a module contributes when it is announced. -/
def made (o : Occasion) (rule : ScanRule) (serial : Nat) (m : Module) : Contribution :=
  rule.contribution m serial (o.listing m rule.folder)

/-- What the request makes of the number for the next provider and of the holdings. -/
def step (rule : ScanRule) (s : Nat × Holdings) (o : Occasion) : Nat × Holdings :=
  match o.call with
  | .arrived m => (s.1 + (o.made rule s.1 m).providers.length, s.2.take (o.made rule s.1 m))
  | .departed id => (s.1, s.2.drop id)

/-- A request concerns the holdings in this way only. -/
theorem perform_eq (n : Nat) (w : World) (o : Occasion) :
    ((o.perform n w).follower n).rule = (w.follower n).rule ∧
      ((o.perform n w).nextSerial, (o.perform n w).holdings n) =
        o.step (w.follower n).rule (w.nextSerial, w.holdings n) := by
  cases hcall : o.call with
  | arrived m =>
    let rule := (w.follower n).rule
    let asked := (World.onStock (·.list m rule.folder) (o.scene w)).2
    let scanned := World.contribute rule m (o.listing m rule.folder) asked
    have hperform : o.perform n w = scanned.2.onFollower n fun f t => f.arrive t scanned.1 := by
      unfold perform
      rw [hcall]
      rfl
    have hholdings : (o.perform n w).holdings n = (w.holdings n).take scanned.1 := by
      rw [hperform, World.holdings_onFollower fun f t => Follower.catalog_arrive f t _]
      exact Holdings.of_arrive _ _ _
    constructor
    · rw [hperform, World.follower_onFollower, if_pos rfl, Follower.fst_arrive]
      rfl
    · rw [hholdings, hperform, step, hcall]
      rfl
  | departed id =>
    have hperform : o.perform n w = (o.scene w).onFollower n fun f t => f.depart t id := by
      unfold perform
      rw [hcall]
      rfl
    have hholdings : (o.perform n w).holdings n = (w.holdings n).drop id := by
      rw [hperform, World.holdings_onFollower fun f t => Follower.catalog_depart f t id]
      exact Holdings.of_depart _ _ _
    constructor
    · rw [hperform, World.follower_onFollower, if_pos rfl, Follower.fst_depart]
      rfl
    · rw [hholdings, hperform, step, hcall]
      rfl

/-- Of occasions in a row, the numbers and the holdings can be told without the rest of the world.
-/
theorem foldl_perform_eq (n : Nat) (w : World) (os : List Occasion) :
    ((os.foldl (perform n) w).nextSerial, (os.foldl (perform n) w).holdings n) =
      os.foldl (step (w.follower n).rule) (w.nextSerial, w.holdings n) := by
  induction os generalizing w with
  | nil => rfl
  | cons o rest ih =>
    obtain ⟨hrule, hstep⟩ := perform_eq n w o
    rw [List.foldl_cons, ih, hrule, hstep, List.foldl_cons]

variable {rule : ScanRule} {lists : Location → Prop} {calls : List OutsiderCall} {start : Nat}
  {id : ModuleId} {o : Occasion} {s s' : Nat × Holdings} {ρ : Nat → Nat} {m : Module}

/-- An honest module contributes what is its own. -/
theorem Honest.owned (ho : o.Honest lists) (hm : o.call = .arrived m) (rule : ScanRule)
    (serial : Nat) :
    (o.made rule serial m).Owned lists (serial + (o.made rule serial m).providers.length) m.id :=
  Contribution.owned_of_shown (ho m hm rule.folder)

/-- An honest occasion keeps the correspondence of groups and table. -/
theorem corresponds_step (ho : o.Honest lists)
    (hs : Corresponds lists s.1 s.2.groups calls s.2.table) :
    Corresponds lists (o.step rule s).1 (o.step rule s).2.groups calls (o.step rule s).2.table := by
  unfold step
  split
  · rename_i m hm
    exact (hs.mono (Nat.le_add_right _ _)).holdings_take (ho.owned hm rule s.1)
  · exact hs.holdings_drop _

/-- How a course of requests compares with the course that lacks the requests about one module: if
the module is let go of, the holdings are alike up to the numbers of new providers. -/
structure Omits (lists : Location → Prop) (calls : List OutsiderCall) (start : Nat)
    (ρ : Nat → Nat) (id : ModuleId) (s s' : Nat × Holdings) : Prop where
  corresponds : Corresponds lists s.1 s.2.groups calls s.2.table
  numbered : start ≤ s.1
  numbered' : start ≤ s'.1
  alike : (s.2.drop id).renumber ρ = s'.2.renumber ρ

/-- No occasion gives numbers back. -/
theorem le_fst_step : s.1 ≤ (o.step rule s).1 := by
  unfold step
  split
  · exact Nat.le_add_right _ _
  · exact Nat.le_refl _

/-- A request about the module itself makes no difference. -/
theorem Omits.own (h : Omits lists calls start ρ id s s') (ho : o.Honest lists)
    (hid : o.call.subject = id) : Omits lists calls start ρ id (o.step rule s) s' where
  corresponds := corresponds_step ho h.corresponds
  numbered := Nat.le_trans h.numbered le_fst_step
  numbered' := h.numbered'
  alike := by
    rw [← h.alike]
    subst hid
    unfold step
    cases hcall : o.call with
    | arrived m =>
      have howned := ho.owned hcall rule s.1
      -- Once the module is let go of, nothing is listed where it can have descriptors.
      have hgone := h.corresponds.holdings_drop m.id
      refine congrArg _ (Holdings.drop_take_self h.corresponds.tight howned.nodup
        fun service q hq => hgone.not_names ?_ howned hq)
      rw [Holdings.groups_drop, Dict.get?_erase, if_pos rfl]
    | departed id => exact congrArg _ Holdings.drop_drop_self

/-- A request about another module makes the same difference to both. -/
theorem Omits.other (h : Omits lists calls start ρ id s s') (ho : o.Honest lists)
    (hρ : ∀ a b, start ≤ a → start ≤ b → ρ a = ρ b) (hid : o.call.subject ≠ id) :
    Omits lists calls start ρ id (o.step rule s) (o.step rule s') where
  corresponds := corresponds_step ho h.corresponds
  numbered := Nat.le_trans h.numbered le_fst_step
  numbered' := Nat.le_trans h.numbered' le_fst_step
  alike := by
    have htight := h.corresponds.tight
    unfold step
    cases hcall : o.call with
    | arrived m =>
      have howned := ho.owned hcall rule s.1
      have hne : (o.made rule s.1 m).module ≠ id := fun hm => hid (hcall ▸ hm)
      have hown : (o.made rule s.1 m).Own := ⟨howned.nodup, fun p hp => (howned.owner p hp).2⟩
      have hmade : (o.made rule s.1 m).renumber ρ = (o.made rule s'.1 m).renumber ρ :=
        rule.renumber_contribution hρ m h.numbered h.numbered' _
      dsimp only
      rw [Holdings.drop_take_of_ne htight hown hne fun _ _ => h.corresponds.owner_of_names,
        Holdings.renumber_take, Holdings.renumber_take, h.alike, hmade]
    | departed id' =>
      dsimp only
      rw [Holdings.drop_comm htight, Holdings.renumber_drop, h.alike, Holdings.renumber_drop]

/-- So a course of requests can be compared with that which lacks the requests about one module. -/
theorem Omits.course (h : Omits lists calls start ρ id s s') (rule : ScanRule)
    {os : List Occasion} (hos : ∀ o ∈ os, o.Honest lists)
    (hρ : ∀ a b, start ≤ a → start ≤ b → ρ a = ρ b) :
    Omits lists calls start ρ id (os.foldl (step rule) s)
      ((os.filter fun o => o.call.subject ≠ id).foldl (step rule) s') := by
  induction os generalizing s s' with
  | nil => exact h
  | cons o rest ih =>
    obtain ⟨ho, hrest⟩ := List.forall_mem_cons.1 hos
    by_cases hid : o.call.subject = id
    · rw [List.filter_cons_of_neg (by simpa using hid)]
      exact ih (h.own ho hid) hrest
    · rw [List.filter_cons_of_pos (by simpa using hid)]
      exact ih (h.other ho hρ hid) hrest

/-- An occasion leaves the groups of other modules. -/
theorem get?_step_of_ne (hid : o.call.subject ≠ id) :
    (o.step rule s).2.groups.get? id = s.2.groups.get? id := by
  unfold step
  cases hcall : o.call with
  | arrived m =>
    rw [hcall] at hid
    rw [Holdings.groups_take, Dict.get?_insert, if_neg]
    exact Ne.symm hid
  | departed id' =>
    rw [hcall] at hid
    rw [Holdings.groups_drop, Dict.get?_erase, if_neg]
    exact Ne.symm hid

/-- A module is not taken up if the last request about it takes it away. -/
theorem untracked_of_last (hs : s.2.groups.get? id = none) (rule : ScanRule)
    {os : List Occasion} (hlast : ∀ o, (os.filter fun o => o.call.subject = id).getLast? = some o →
      o.call = .departed id) :
    (os.foldl (step rule) s).2.groups.get? id = none := by
  -- The last request decides, so the induction is on the end of the course.
  induction os using List.reverseRecOn with
  | nil => exact hs
  | append_singleton os o ih =>
    rw [List.filter_append] at hlast
    rw [List.foldl_append, List.foldl_cons, List.foldl_nil]
    by_cases hid : o.call.subject = id
    · rw [List.filter_cons_of_pos (by simpa using hid), List.filter_nil] at hlast
      unfold step
      rw [hlast o (by simp)]
      dsimp only
      rw [Holdings.groups_drop, Dict.get?_erase, if_pos rfl]
    · rw [List.filter_cons_of_neg (by simpa using hid), List.filter_nil, List.append_nil] at hlast
      rw [get?_step_of_ne hid]
      exact ih hlast

end Occasion

namespace Cast

variable {cast : Cast} {n : Nat} {w : World}

/-- In every state that is reached from a world in which nothing is registered, a follower can be
asked directly to take up modules and to let go of modules, in any order. If the last request about
a module that was not taken up before lets it go, the holdings are as if no request about it had
been made. Providers that were there before are the same, under their numbers; later ones are
compared by everything but their numbers. -/
theorem traceless_of_reached (hplays : cast.Plays n w)
    (hgroups : (w.follower n).groups = .empty) (htable : w.tableOf (w.follower n) = .empty)
    {g : Stage World Signal (List OutsiderCall)}
    (hg : Relation.ReflTransGen (Stage.Step (cast.Begins n) (cast.Acts n)) ⟨(w, []), []⟩ g)
    {id : ModuleId} (hid : id ∉ (g.state.1.follower n).tracked) {os : List Occasion}
    (hos : ∀ o ∈ os, o.Honest cast.locations)
    (hlast : ∀ o, (os.filter fun o => o.call.subject = id).getLast? = some o →
      o.call = .departed id) :
    ((os.foldl (Occasion.perform n) g.state.1).holdings n).renumber (min g.state.1.nextSerial) =
      (((os.filter fun o => o.call.subject ≠ id).foldl (Occasion.perform n) g.state.1).holdings
        n).renumber (min g.state.1.nextSerial) := by
  have hholds := (hplays.holds hgroups htable).reached hg
  have hnone : (g.state.1.follower n).groups.get? id = none := by
    rw [Option.eq_none_iff_forall_ne_some]
    exact fun c hc => hid (Dict.mem_keys_iff.2 ⟨c, hc⟩)
  have homits : Occasion.Omits cast.locations g.state.2 g.state.1.nextSerial
      (min g.state.1.nextSerial) id (g.state.1.nextSerial, g.state.1.holdings n)
      (g.state.1.nextSerial, g.state.1.holdings n) :=
    ⟨hholds.corresponds, Nat.le_refl _, Nat.le_refl _,
      congrArg _ (Holdings.drop_of_untracked hnone)⟩
  have hcourse := homits.course (g.state.1.follower n).rule hos fun a b ha hb => by
    rw [Nat.min_eq_left ha, Nat.min_eq_left hb]
  have huntracked := Occasion.untracked_of_last
    (s := (g.state.1.nextSerial, g.state.1.holdings n)) hnone (g.state.1.follower n).rule hlast
  have halike := hcourse.alike
  rw [Holdings.drop_of_untracked huntracked] at halike
  rw [← Occasion.foldl_perform_eq, ← Occasion.foldl_perform_eq] at halike
  exact halike

/-! A follower has taken up a module. Another module comes and goes, and in between the first one is
taken up once more. -/

section Example

/-- The module that comes and goes. -/
def visitor : InMemory := .build ⟨2⟩ [.service "Greeter" default]

/-- Its object. -/
def visitorModule : Module := ⟨1, ⟨2⟩, "module-2"⟩

/-- A request while both modules are there. -/
def visiting (call : DirectCall) : Occasion :=
  ⟨call, {}, ⟨[{ content := .inMemory greeting }, { content := .inMemory visitor }]⟩⟩

/-- The second module comes and goes, and in between the first one is taken up once more. -/
def visit : List Occasion :=
  [visiting (.arrived visitorModule), visiting (.arrived greetingModule), visiting (.departed ⟨2⟩)]

/-- All locations of modules are theirs. -/
def visitingCast : Cast := { greetingCast with locations := fun l => l.owner?.isSome = true }

/-- The modules and outsiders of the example keep to their parts. -/
theorem plays_visiting : visitingCast.Plays 0 greetingWorld where
  honest m hm folder l hl := by
    have howner : l.owner? = some m.id := (plays_greeting.honest m hm folder l hl).2
    exact ⟨Option.isSome_iff_exists.2 ⟨m.id, howner⟩, howner⟩
  hosted h e he := absurd he List.not_mem_nil
  listening h l hl := absurd hl List.not_mem_nil
  apart k hk := hk.elim

/-- All that happens in the example is honest. -/
theorem honest_visit : ∀ o ∈ visit, o.Honest visitingCast.locations := by
  have hown {m : InMemory} {folder : List Char} {l : Location} (hl : l ∈ m.list folder) :
      l.owner?.isSome = true ∧ l.owner? = some m.id := by
    have howner := InMemory.owner?_of_mem_list hl
    exact ⟨Option.isSome_iff_exists.2 ⟨m.id, howner⟩, howner⟩
  simp only [visit, List.forall_mem_cons]
  refine ⟨?_, ?_, ?_, nofun⟩
  · rintro _ ⟨⟩ folder l hl
    exact hown (m := visitor) (ScanRule.mem_descriptors.1 hl).1
  · rintro _ ⟨⟩ folder l hl
    exact hown (m := greeting) (ScanRule.mem_descriptors.1 hl).1
  · rintro _ ⟨⟩

/-- After the visit the first module's provider is listed alone, as if the visitor had never
come. -/
theorem traceless_of_reached_visitor : ∃ w : World,
    (w.follower 0).tracked = [⟨1⟩] ∧
    ((visit.foldl (Occasion.perform 0) w).holdings 0).renumber (min w.nextSerial) =
      (([visiting (.arrived greetingModule)].foldl (Occasion.perform 0) w).holdings 0).renumber
        (min w.nextSerial) := by
  have hreached : ∃ g : Stage World Signal (List OutsiderCall),
      Relation.ReflTransGen (Stage.Step (visitingCast.Begins 0) (visitingCast.Acts 0))
        ⟨(greetingWorld, []), []⟩ g ∧ (g.state.1.follower 0).tracked = [⟨1⟩] :=
    ⟨_, .tail (.single (.begin (.arrived (.inl rfl) rfl))) (.resume [] []), rfl⟩
  obtain ⟨g, hg, htracked⟩ := hreached
  have hid : (⟨2⟩ : ModuleId) ∉ (g.state.1.follower 0).tracked := by
    rw [htracked]
    decide
  exact ⟨g.state.1, htracked, traceless_of_reached plays_visiting rfl rfl hg hid honest_visit
    fun o ho => by cases ho; rfl⟩

end Example

end Cast

end ServiceRegistry
