import ServiceRegistry.Proofs.HostCalls
import ServiceRegistry.Proofs.Lifetimes
import ServiceRegistry.Proofs.Stage
import ServiceRegistry.World.Search

/-!
# Answers that stand

Locating one type stops at the first candidate that will do, so it leaves the candidates behind it
unresolved, and when another call comes to resolve these their modules may have changed. That does
not matter if failures are remembered: what is remembered of the candidates up to the one that was
taken settles every later answer (`Stock.settledFirst?`), and what is remembered of all of them
settles what locating all types gives (`Stock.settledEach?`). No provider ever forgets
(`Stock.Recalls`), so what is once settled stays so.

Meanwhile anything can happen that leaves alone the candidates of the service, what is pinned for it
and what providers remember. Other services can be located and found, and a search can be suspended
at its listing and go on later. `standing_of_reached` says that all answers on the service are the
first ones.
-/

namespace ServiceRegistry

open Relation (ReflTransGen)

namespace Stock

/-- No provider forgets. -/
def Recalls (s s' : Stock) : Prop := ∀ p r, s.memo p = some r → s'.memo p = some r

/-- What locating one type gives, if what is remembered settles it. -/
def settledFirst? (s : Stock) (pin : Option String) : List Provider → Option (Option LoadedType)
  | [] => some none
  | p :: rest =>
    match s.memo p with
    | none => none
    | some (.error _) => settledFirst? s pin rest
    | some (.ok t) => if agrees pin t then some (some t) else settledFirst? s pin rest

/-- What locating all types gives, if what is remembered settles it. -/
def settledEach? (s : Stock) : List Provider → Option (List LoadedType)
  | [] => some []
  | p :: rest =>
    match s.memo p with
    | none => none
    | some r => (settledEach? s rest).map (r.toOption.toList ++ ·)

variable {s s' s'' : Stock} {ps : List Provider} {p : Provider} {c : Contract}
  {pin : Option String} {a : Option LoadedType} {ts : List LoadedType}

/-! ## What is remembered -/

/-- A stock recalls what it recalls. -/
theorem Recalls.refl (s : Stock) : Recalls s s := fun _ _ h => h

/-- What is recalled by a stock that recalls an earlier one is recalled from there on. -/
theorem Recalls.trans (h : Recalls s s') (h' : Recalls s' s'') : Recalls s s'' :=
  fun p r hr => h' p r (h p r hr)

/-- A stock in which all memories are the same recalls them. -/
theorem Recalls.of_memo (h : ∀ p, s'.memo p = s.memo p) : Recalls s s' :=
  fun p _ hr => (h p).trans hr

/-- Resolving forgets nothing. -/
theorem recalls_resolve (s : Stock) (p : Provider) : Recalls s (s.resolve p).2 := by
  intro q r hr
  rw [memo_resolve]
  split
  · rename_i h
    -- Providers of one number share their memory.
    have hnone : s.memo q = none := by rw [memo, h.2, ← memo, h.1]
    rw [hnone] at hr
    cases hr
  · exact hr

/-- Checking a contract forgets nothing. -/
theorem recalls_accepts (s : Stock) (c : Contract) (p : Provider) :
    Recalls s (s.accepts c p).2 := by
  unfold accepts
  cases c.origin with
  | none => exact .refl s
  | some origin => exact .of_memo fun _ => rfl

/-- Locating one type forgets nothing. -/
theorem recalls_locateFirst (pin : Option String) (c : Contract) (ps : List Provider)
    (s : Stock) : Recalls s (locateFirst pin c ps s).2 := by
  induction ps generalizing s with
  | nil => exact .refl s
  | cons p rest ih =>
    have hresolve := s.recalls_resolve p
    rw [locateFirst]
    generalize s.resolve p = resolved at *
    obtain ⟨e | t, s₁⟩ := resolved
    · exact hresolve.trans (ih s₁)
    · dsimp only
      split
      · have haccepts := s₁.recalls_accepts c p
        generalize s₁.accepts c p = accepted at *
        obtain ⟨_ | _, s₂⟩ := accepted
        · exact (hresolve.trans haccepts).trans (ih s₂)
        · exact hresolve.trans haccepts
      · exact hresolve.trans (ih s₁)

/-- Locating all types forgets nothing. -/
theorem recalls_locateEach (c : Contract) (ps : List Provider) (s : Stock) :
    Recalls s (locateEach c ps s).2 := by
  induction ps generalizing s with
  | nil => exact .refl s
  | cons p rest ih =>
    have hresolve := s.recalls_resolve p
    rw [locateEach]
    generalize s.resolve p = resolved at *
    obtain ⟨e | t, s₁⟩ := resolved
    · exact hresolve.trans (ih s₁)
    · dsimp only
      have haccepts := s₁.recalls_accepts c p
      generalize s₁.accepts c p = accepted at *
      obtain ⟨_ | _, s₂⟩ := accepted
      · exact (hresolve.trans haccepts).trans (ih s₂)
      · exact (hresolve.trans haccepts).trans (ih s₂)

/-- What is settled stays settled. -/
theorem Recalls.settledFirst? (h : Recalls s s') (hs : s.settledFirst? pin ps = some a) :
    s'.settledFirst? pin ps = some a := by
  induction ps with
  | nil => exact hs
  | cons p rest ih =>
    rw [Stock.settledFirst?] at hs ⊢
    cases hmemo : s.memo p with
    | none =>
      rw [hmemo] at hs
      cases hs
    | some r =>
      rw [hmemo] at hs
      rw [h p r hmemo]
      cases r with
      | error e => exact ih hs
      | ok t =>
        dsimp only at hs ⊢
        split at hs
        · rwa [if_pos ‹_›]
        · rw [if_neg ‹_›]
          exact ih hs

/-- What memories settle remains settled while nothing is forgotten. -/
theorem Recalls.settledEach? (h : Recalls s s') (hs : s.settledEach? ps = some ts) :
    s'.settledEach? ps = some ts := by
  induction ps generalizing ts with
  | nil => exact hs
  | cons p rest ih =>
    rw [Stock.settledEach?] at hs ⊢
    cases hmemo : s.memo p with
    | none =>
      rw [hmemo] at hs
      cases hs
    | some r =>
      rw [hmemo] at hs
      obtain ⟨us, hus, rfl⟩ := Option.map_eq_some_iff.1 hs
      rw [h p r hmemo]
      exact congrArg (Option.map _) (ih hus)

/-! ## Providers that remember failures -/

/-- A provider that remembers failures remembers every answer. -/
theorem memo_resolve_of_cacheFailures (s : Stock) (hcache : p.cacheFailures = true) :
    (s.resolve p).2.memo p = some (s.resolve p).1 := by
  rw [memo_resolve_self]
  cases hmemo : s.memo p with
  | some r => rw [resolve_of_memo hmemo, Option.some_or]
  | none => simp [Provider.remember, hcache]

/-- Without an origin every module meets a contract. -/
theorem accepts_of_origin (s : Stock) (hc : c.origin = none) (p : Provider) :
    s.accepts c p = (true, s) := by
  rw [accepts, hc]

variable (hcache : ∀ p ∈ ps, p.cacheFailures = true) (hc : c.origin = none)
include hcache hc

/-- Locating one type settles the answer. -/
theorem settledFirst?_locateFirst (s : Stock) :
    (locateFirst pin c ps s).2.settledFirst? pin ps = some (locateFirst pin c ps s).1 := by
  induction ps generalizing s with
  | nil => rfl
  | cons p rest ih =>
    obtain ⟨hp, hrest⟩ := List.forall_mem_cons.1 hcache
    have hmemo := s.memo_resolve_of_cacheFailures hp
    rw [locateFirst]
    generalize s.resolve p = resolved at *
    obtain ⟨e | t, s₁⟩ := resolved
    · rw [settledFirst?, recalls_locateFirst pin c rest s₁ p _ hmemo]
      exact ih hrest s₁
    · dsimp only
      rw [s₁.accepts_of_origin hc]
      cases hagrees : agrees pin t with
      | true =>
        dsimp only at hmemo ⊢
        simp [settledFirst?, hmemo, hagrees]
      | false =>
        have hlater := recalls_locateFirst pin c rest s₁ p _ hmemo
        simp only [Bool.false_eq_true, if_false, settledFirst?, hlater, hagrees]
        exact ih hrest s₁

/-- Locating all types settles the answer. -/
theorem settledEach?_locateEach (s : Stock) :
    (locateEach c ps s).2.settledEach? ps = some (locateEach c ps s).1 := by
  induction ps generalizing s with
  | nil => rfl
  | cons p rest ih =>
    obtain ⟨hp, hrest⟩ := List.forall_mem_cons.1 hcache
    have hmemo := s.memo_resolve_of_cacheFailures hp
    rw [locateEach]
    generalize s.resolve p = resolved at *
    obtain ⟨e | t, s₁⟩ := resolved
    · rw [settledEach?, recalls_locateEach c rest s₁ p _ hmemo]
      exact congrArg (Option.map _) (ih hrest s₁)
    · dsimp only
      rw [s₁.accepts_of_origin hc]
      dsimp only
      rw [settledEach?, recalls_locateEach c rest s₁ p _ hmemo]
      exact congrArg (Option.map _) (ih hrest s₁)

end Stock

/-! ## What can happen meanwhile -/

/-- What was answered about a service, oldest first. -/
structure Answers where
  /-- What locating one type gave. -/
  one : List (Option LoadedType) := []
  /-- What locating all types gave. -/
  all : List (List LoadedType) := []

/-- What can happen while the registration for a service stands in a catalog. What is answered about
the service is noted. -/
inductive Meanwhile (n : Nat) (service : String) : World × Answers → World × Answers → Prop where
  /-- One type is located for the service. -/
  | locate {w : World} {a : Answers} :
    Meanwhile n service (w, a) ((w.locate n { name := service } service).2,
      { a with one := a.one ++ [(w.locate n { name := service } service).1] })
  /-- All types are located for the service. -/
  | locateAll {w : World} {a : Answers} :
    Meanwhile n service (w, a) ((w.locateAll n { name := service } service).2,
      { a with all := a.all ++ [(w.locateAll n { name := service } service).1] })
  /-- One type is located somewhere under a contract. -/
  | locateAs (k : Nat) (c : Contract) (id : String) {w : World} {a : Answers} :
    Meanwhile n service (w, a) ((w.locate k c id).2, a)
  /-- All types are located somewhere under a contract. -/
  | locateAllAs (k : Nat) (c : Contract) (id : String) {w : World} {a : Answers} :
    Meanwhile n service (w, a) ((w.locateAll k c id).2, a)
  /-- A provider is resolved. -/
  | resolve (p : Provider) {w : World} {a : Answers} :
    Meanwhile n service (w, a) ((World.onStock (·.resolve p) w).2, a)
  /-- Anything else happens, to modules, files, hosts or catalogs. -/
  | change {w w' : World} {a : Answers}
    (hmemo : ∀ p, w'.stock.memo p = w.stock.memo p)
    (hcandidates :
      (w'.catalog n).table.candidates service = (w.catalog n).table.candidates service)
    (hpin : (w'.catalog n).pins.lookup w'.environment service =
      (w.catalog n).pins.lookup w.environment service) :
    Meanwhile n service (w, a) (w', a)

/-- The operation is a search for an implementation. -/
def Searches (op : Work Unit) : Prop :=
  ∃ f id fallback, op = (World.find f id fallback).forget

namespace World

/-- Catalogs and variables are as before, and no provider has forgotten. -/
structure Onward (w w' : World) : Prop where
  environment : w'.environment = w.environment
  catalogs : w'.catalogs = w.catalogs
  stock : w.stock.Recalls w'.stock

variable {w w' w'' : World} {n : Nat} {service : String} {a : Answers}

/-- Steps onward follow one another. -/
theorem Onward.trans (h : Onward w w') (h' : Onward w' w'') : Onward w w'' :=
  ⟨h'.environment.trans h.environment, h'.catalogs.trans h.catalogs, h.stock.trans h'.stock⟩

/-- A question to the stock is a step onward if it forgets nothing. -/
theorem onward_onStock {α : Type} {f : Stock → α × Stock} (hf : ∀ s, Stock.Recalls s (f s).2)
    (w : World) : Onward w (onStock f w).2 :=
  ⟨rfl, rfl, hf w.stock⟩

/-- Locating one type is a step onward. -/
theorem onward_locate (k : Nat) (c : Contract) (id : String) (w : World) :
    Onward w (w.locate k c id).2 :=
  onward_onStock (Stock.recalls_locateFirst _ c _) w

/-- Locating all types is a step onward. -/
theorem onward_locateAll (k : Nat) (c : Contract) (id : String) (w : World) :
    Onward w (w.locateAll k c id).2 :=
  onward_onStock (Stock.recalls_locateEach c _) w

/-- Loading a type is a step onward. -/
theorem onward_loadType (m : Module) (name : String) (w : World) :
    Onward w (onStock (·.loadType m name) w).2 :=
  onward_onStock (fun _ => .of_memo fun _ => rfl) w

/-- The first stage of a search is a step onward. -/
theorem onward_findInCatalog (f : Finder) (id : String) (w : World) :
    Onward w (findInCatalog f id w).2 := by
  unfold findInCatalog
  have hcontract (s : Stock) : s.Recalls (s.contractFor f.context id).2 := by
    unfold Stock.contractFor Stock.loadType
    cases (s.view f.context).loadType id <;> exact .of_memo fun _ => rfl
  exact (onward_onStock hcontract w).trans (onward_locate f.catalog _ id _)

/-- The second stage of a search is a step onward. -/
theorem onward_findOwn (f : Finder) (id : String) (listing : Except Fault (List Location))
    (w : World) : Onward w (findOwn f id listing w).2 := by
  unfold findOwn
  cases listing with
  | error fault => exact ⟨rfl, rfl, .refl _⟩
  | ok locations =>
    dsimp only
    split
    · exact ⟨rfl, rfl, Stock.recalls_resolve w.stock _⟩
    · exact ⟨rfl, rfl, .refl _⟩

/-- The third stage of a search is a step onward. -/
theorem onward_findPinned (f : Finder) (id : String) (w : World) :
    Onward w (findPinned f id w).2 := by
  unfold findPinned
  cases (w.catalog f.catalog).pins.lookup w.environment id with
  | none => exact ⟨rfl, rfl, .refl _⟩
  | some name => exact onward_loadType f.context name w

/-- The last stage of a search is a step onward. -/
theorem onward_findFallback (f : Finder) (id : String) (fallback : Option String) (w : World) :
    Onward w (findFallback f id fallback w).2 := by
  unfold findFallback
  cases fallback with
  | none => exact ⟨rfl, rfl, .refl _⟩
  | some name => exact onward_loadType f.context name w

/-! ## The answers -/

/-- The candidates of a service and its pin are as they were, and all that was answered is
settled. -/
structure Standing (n : Nat) (service : String) (ps : List Provider) (pin : Option String)
    (u : World × Answers) : Prop where
  candidates : (u.1.catalog n).table.candidates service = ps
  pinned : (u.1.catalog n).pins.lookup u.1.environment service = pin
  one : ∀ t ∈ u.2.one, u.1.stock.settledFirst? pin ps = some t
  all : ∀ ts ∈ u.2.all, u.1.stock.settledEach? ps = some ts

namespace Standing

variable {ps : List Provider} {pin : Option String} {u v : World × Answers}

/-- The answers stand after a step onward. -/
theorem onward (hu : Standing n service ps pin (w, a)) (h : Onward w w') :
    Standing n service ps pin (w', a) := by
  have hcatalog : w'.catalog n = w.catalog n := by rw [catalog, h.catalogs, ← catalog]
  refine ⟨?_, ?_, fun t ht => h.stock.settledFirst? (hu.one t ht),
    fun ts hts => h.stock.settledEach? (hu.all ts hts)⟩
  · rw [hcatalog]
    exact hu.candidates
  · rw [hcatalog, h.environment]
    exact hu.pinned

variable (hcache : ∀ p ∈ ps, p.cacheFailures = true)
include hcache

/-- Locating one type adds an answer that is settled. -/
theorem locate (hu : Standing n service ps pin (w, a)) :
    Standing n service ps pin ((w.locate n { name := service } service).2,
      { a with one := a.one ++ [(w.locate n { name := service } service).1] }) := by
  have hlater := hu.onward (onward_locate n { name := service } service w)
  refine ⟨hlater.candidates, hlater.pinned, fun t ht => ?_, hlater.all⟩
  rcases List.mem_append.1 ht with ht | ht
  · exact hlater.one t ht
  · obtain rfl := List.mem_singleton.1 ht
    obtain ⟨rfl, rfl, -, -⟩ := hu
    exact Stock.settledFirst?_locateFirst (c := { name := service }) hcache rfl w.stock

/-- Locating all types adds an answer that is settled. -/
theorem locateAll (hu : Standing n service ps pin (w, a)) :
    Standing n service ps pin ((w.locateAll n { name := service } service).2,
      { a with all := a.all ++ [(w.locateAll n { name := service } service).1] }) := by
  have hlater := hu.onward (onward_locateAll n { name := service } service w)
  refine ⟨hlater.candidates, hlater.pinned, hlater.one, fun ts hts => ?_⟩
  rcases List.mem_append.1 hts with hts | hts
  · exact hlater.all ts hts
  · obtain rfl := List.mem_singleton.1 hts
    obtain ⟨rfl, -, -, -⟩ := hu
    exact Stock.settledEach?_locateEach (c := { name := service }) hcache rfl w.stock

/-- Whatever happens meanwhile, the answers stand. -/
theorem meanwhile (hu : Standing n service ps pin u) (h : Meanwhile n service u v) :
    Standing n service ps pin v := by
  cases h with
  | locate => exact hu.locate hcache
  | locateAll => exact hu.locateAll hcache
  | locateAs k c id => exact hu.onward (onward_locate k c id _)
  | locateAllAs k c id => exact hu.onward (onward_locateAll k c id _)
  | resolve p => exact hu.onward (onward_onStock (Stock.recalls_resolve · p) _)
  | change hmemo hcandidates hpin =>
    have hrecalls := Stock.Recalls.of_memo hmemo
    exact ⟨hcandidates.trans hu.candidates, hpin.trans hu.pinned,
      fun t ht => hrecalls.settledFirst? (hu.one t ht),
      fun ts hts => hrecalls.settledEach? (hu.all ts hts)⟩

end Standing

section Search

open Interruptible

variable {ps : List Provider} {pin : Option String} {u : World × Answers}

/-- A search goes on from answers that stand and leaves them so. -/
abbrev Leaves (n : Nat) (service : String) (ps : List Provider) (pin : Option String) {α : Type}
    (op : Work α) (u : World × Answers) : Prop :=
  op.Safe (Standing n service ps pin) (fun _ _ => True) (fun _ => Standing n service ps pin) u

/-- An act that is a step onward leaves the answers standing. -/
theorem leaves_act {α : Type} {f : World → α × World} (hf : ∀ w, Onward w (f w).2)
    (hu : Standing n service ps pin u) : Leaves n service ps pin (act f) u :=
  safe_act trivial (hu.onward (hf u.1))

/-- Asking for a listing leaves the answers standing. -/
theorem leaves_list (m : Module) (folder : String) (hu : Standing n service ps pin u) :
    Leaves n service ps pin (list m folder) u := by
  refine (leaves_act (onward_onStock fun _ => .of_memo fun _ => rfl) hu).bind fun listing v hv => ?_
  exact (safe_interrupt hv fun _ h => h).bind fun _ _ h => safe_pure h

/-- A search can be interrupted anywhere, and the answers stand. -/
theorem leaves_find (f : Finder) (id : String) (fallback : Option String)
    (hu : Standing n service ps pin u) : Leaves n service ps pin (find f id fallback) u := by
  refine (leaves_act (onward_findInCatalog f id) hu).bind fun found v hv => ?_
  cases found with
  | some t => exact safe_pure hv
  | none =>
    refine (leaves_list f.context f.folder hv).bind fun listing v hv => ?_
    refine (leaves_act (onward_findOwn f id listing) hv).bind fun own v hv => ?_
    cases own with
    | some t => exact safe_pure hv
    | none =>
      refine (leaves_act (onward_findPinned f id) hv).bind fun pinned v hv => ?_
      cases pinned with
      | some t => exact safe_pure hv
      | none => exact leaves_act (onward_findFallback f id fallback) hv

/-- A search leaves the answers standing. -/
theorem leaves_searches {op : Work Unit} (hop : Searches op) (hu : Standing n service ps pin u) :
    Leaves n service ps pin op u := by
  obtain ⟨f, id, fallback, rfl⟩ := hop
  exact (leaves_find f id fallback hu).bind fun _ _ h => safe_pure h

end Search

end World

/-- As long as the registration for a service stands, with candidates that remember failures, all
answers on the service are the same, whatever becomes of the modules. -/
theorem standing_of_reached {w : World} {n : Nat} {service : String}
    (hcache : ∀ p ∈ (w.catalog n).table.candidates service, p.cacheFailures = true)
    {g : Stage World Signal Answers}
    (hg : ReflTransGen (Stage.Step Searches (Meanwhile n service)) ⟨(w, {}), []⟩ g) :
    (∀ t ∈ g.state.2.one, g.state.2.one.head? = some t) ∧
    (∀ ts ∈ g.state.2.all, g.state.2.all.head? = some ts) := by
  have hstart : World.Standing n service ((w.catalog n).table.candidates service)
      ((w.catalog n).pins.lookup w.environment service) (w, {}) := ⟨rfl, rfl, nofun, nofun⟩
  have hstanding := Stage.invariant (fun op hop u hu => ⟨u.1, World.leaves_searches hop hu⟩)
    (fun u v h hu => hu.meanwhile hcache h) hstart hg
  -- Two answers that are settled by the same memories are the same.
  have hsame {α : Type} {answers : List α} {settled : Option α}
      (h : ∀ t ∈ answers, settled = some t) : ∀ t ∈ answers, answers.head? = some t := by
    intro t ht
    cases answers with
    | nil => cases ht
    | cons first rest => rw [List.head?_cons, ← h first List.mem_cons_self, h t ht]
  exact ⟨hsame hstanding.one, hsame hstanding.all⟩

/-! Of three candidates the first has no descriptor, and the second is taken. While the module is
searched for another service it is replaced: now the first has a descriptor, the type of the second
is refused, and the third, which nobody has looked at yet, has changed too. -/

section Example

namespace Answers

/-- The candidates differ in their entries. -/
def offered (serial : Nat) (entry : String) : Provider :=
  ⟨serial, "Greeter", ⟨"module://1/" ++ entry⟩, ⟨0, ⟨1⟩, "module-1"⟩, true⟩

/-- The module, with the names in some entries, where only some types can be loaded. -/
def edition (names : List (String × Bytes)) (types : List String) : ModuleObject where
  content := .fixed ⟨⟨1⟩, "module-1", .ok [],
    names.map fun (entry, bytes) => ("module://1/" ++ entry, .ok (.ofBytes bytes)),
    { defined := SortedSet.ofList types }⟩

/-- A catalog with three candidates, and others for another service. -/
def catalogOf (others : List Provider) : Catalog where
  table := (Dict.empty.insert "Greeter" [offered 0 "a", offered 1 "b", offered 2 "c"]).insert
    "Other" others

/-- A world with the first edition of the module. -/
def firstEdition : World where
  stock := { objects := ⟨[edition [("b", [72, 105]), ("c", [72, 101, 121])] ["Hi", "Hey"]]⟩ }
  catalogs := ⟨[catalogOf []]⟩

/-- The module is replaced, and a provider is registered for another service. -/
def revise (w : World) : World :=
  { w with
    stock := { w.stock with objects :=
      ⟨[edition [("a", [89, 111]), ("b", [72, 105]), ("c", [79, 105])] ["Yo", "Oi"]]⟩ }
    catalogs := ⟨[catalogOf [offered 3 "d"]]⟩ }

/-- The revision of the module can come in between. -/
theorem meanwhile_revise {w : World} {a : Answers} (hcatalogs : w.catalogs = ⟨[catalogOf []]⟩) :
    Meanwhile 0 "Greeter" (w, a) (revise w, a) := by
  have hcatalog : w.catalog 0 = catalogOf [] := by
    rw [World.catalog, hcatalogs]
    rfl
  refine .change (fun _ => rfl) ?_ ?_
  · rw [hcatalog]
    rfl
  · rw [hcatalog]
    rfl

/-- The answers are those that the first edition gave, or that its memories leave open. -/
theorem standing_of_reached_revised : ∃ g : Stage World Signal Answers,
    ReflTransGen (Stage.Step Searches (Meanwhile 0 "Greeter")) ⟨(firstEdition, {}), []⟩ g ∧
    g.state.2.one = [some ⟨"Hi", ⟨1⟩⟩, some ⟨"Hi", ⟨1⟩⟩] ∧
    g.state.2.all = [[⟨"Hi", ⟨1⟩⟩, ⟨"Oi", ⟨1⟩⟩], [⟨"Hi", ⟨1⟩⟩, ⟨"Oi", ⟨1⟩⟩]] ∧
    (∀ t ∈ g.state.2.one, g.state.2.one.head? = some t) ∧
    (∀ ts ∈ g.state.2.all, g.state.2.all.head? = some ts) := by
  have hcache : ∀ p ∈ (firstEdition.catalog 0).table.candidates "Greeter",
      p.cacheFailures = true := by decide
  obtain ⟨g, hg, hone, hall⟩ : ∃ g : Stage World Signal Answers,
      ReflTransGen (Stage.Step Searches (Meanwhile 0 "Greeter")) ⟨(firstEdition, {}), []⟩ g ∧
      g.state.2.one = [some ⟨"Hi", ⟨1⟩⟩, some ⟨"Hi", ⟨1⟩⟩] ∧
      g.state.2.all = [[⟨"Hi", ⟨1⟩⟩, ⟨"Oi", ⟨1⟩⟩], [⟨"Hi", ⟨1⟩⟩, ⟨"Oi", ⟨1⟩⟩]] := by
    exact ⟨_, .tail (.tail (.tail (.tail (.tail (.tail
      (.single (.act .locate))
      (.begin ⟨⟨0, ⟨0, ⟨1⟩, "module-1"⟩, "services"⟩, "Other", none, rfl⟩))
      (.act (meanwhile_revise (by exact rfl)))) (.act .locate)) (.resume [] [])) (.act .locateAll))
      (.act .locateAll), rfl, rfl⟩
  exact ⟨g, hg, hone, hall, standing_of_reached hcache hg⟩

end Answers

end Example

end ServiceRegistry
