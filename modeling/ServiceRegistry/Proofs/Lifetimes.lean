import Mathlib.Algebra.BigOperators.Group.List.Basic
import Mathlib.Algebra.GroupWithZero.Nat
import ServiceRegistry.Proofs.Locating

/-!
# The life of a provider

A provider is resolved again and again, and between two calls its module can change in any way; only
what the provider remembers is its own. A `Life` is such a sequence of calls. What is kept of them
(`Provider.kept`) is what the provider remembers, and that tells what the next call does: it fetches
anew as long as nothing is kept, and else repeats what is kept and leaves the module alone.

`lasting_of_life` says what follows for a provider that remembers failures and for one that does
not.
-/

namespace ServiceRegistry

/-- A call to resolve a provider: what it finds, what it answers and what it leaves. -/
structure Resolving where
  before : Stock
  answer : Resolution
  after : Stock

namespace Resolving

/-- The call in a stock. -/
def of (p : Provider) (s : Stock) : Resolving := ⟨s, (s.resolve p).1, (s.resolve p).2⟩

/-- How often the call asks a module for the bytes of an entry. -/
def opened (m : Module) (c : Resolving) : Nat :=
  (c.after.objects.get m.object).opened - (c.before.objects.get m.object).opened

/-- How often the call asks a module for a type. -/
def loaded (m : Module) (c : Resolving) : Nat :=
  (c.after.objects.get m.object).loaded - (c.before.objects.get m.object).loaded

end Resolving

/-- The calls that a provider has had, in order, and a stock after them. -/
inductive Life (p : Provider) : List Resolving → Stock → Prop where
  /-- At first nothing is remembered. -/
  | fresh {s : Stock} (hs : s.memo p = none) : Life p [] s
  /-- Anything can happen but to what the provider remembers. -/
  | outside {calls : List Resolving} {s s' : Stock} (h : Life p calls s)
      (hmemo : s'.memo p = s.memo p) : Life p calls s'
  /-- The provider is resolved. -/
  | resolve {calls : List Resolving} {s : Stock} (h : Life p calls s) :
    Life p (calls ++ [.of p s]) (s.resolve p).2

/-- What a provider remembers of some calls. -/
def Provider.kept (p : Provider) (calls : List Resolving) : Memo :=
  calls.findSome? fun c => p.remember c.answer

/-- The first success among some calls. -/
def Resolving.firstSuccess? (calls : List Resolving) : Option LoadedType :=
  calls.findSome? fun c => c.answer.toOption

variable {p : Provider} {calls earlier later : List Resolving} {c : Resolving} {s : Stock}
  {r : Resolution}

/-! ## Single calls -/

namespace Stock

/-- What is remembered is answered again, and nothing changes. -/
theorem resolve_of_memo (h : s.memo p = some r) : s.resolve p = (r, s) := by
  unfold resolve
  rw [h]

/-- A question that is not remembered opens the descriptor once, and asks for a type as often as the
descriptor names one. -/
theorem objects_resolve (h : s.memo p = none) : (s.resolve p).2.objects.get p.module.object =
    { s.objects.get p.module.object with
      opened := (s.objects.get p.module.object).opened + 1
      loaded := (s.objects.get p.module.object).loaded + p.typeLoads (s.view p.module) } := by
  unfold resolve
  rw [h]
  exact Store.get_set_self s.objects p.module.object _

/-- After a call the provider remembers what it did, or else as much of the answer as it is to. -/
theorem memo_resolve_self (s : Stock) (p : Provider) :
    (s.resolve p).2.memo p = (s.memo p).or (p.remember (s.resolve p).1) := by
  cases h : s.memo p with
  | some r => rw [resolve_of_memo h, h, Option.some_or]
  | none => rw [memo_resolve, if_pos ⟨h, rfl⟩, fst_resolve, Option.none_or]

end Stock

/-- Reading a descriptor asks for one type at most. -/
theorem Provider.typeLoads_le_one (p : Provider) (v : ModuleView) : p.typeLoads v ≤ 1 := by
  unfold typeLoads
  split <;> decide

namespace Resolving

/-- A call that finds nothing remembered fetches what the module has. -/
theorem of_forgetful (h : s.memo p = none) :
    (of p s).answer = p.fetch (s.view p.module) ∧ (of p s).opened p.module = 1 ∧
      (of p s).loaded p.module = p.typeLoads (s.view p.module) := by
  refine ⟨?_, ?_, ?_⟩
  · rw [of, Stock.fst_resolve, Stock.outcome, h, Option.getD_none]
  · simp [of, opened, Stock.objects_resolve h]
  · simp [of, loaded, Stock.objects_resolve h]

/-- A call that finds something remembered repeats it and changes nothing. -/
theorem of_memo (h : s.memo p = some r) : of p s = ⟨s, r, s⟩ := by
  rw [of, Stock.resolve_of_memo h]

end Resolving

/-! ## All calls -/

/-- A call adds what it remembers, unless something was kept before. -/
theorem Provider.kept_append (p : Provider) (calls : List Resolving) (c : Resolving) :
    p.kept (calls ++ [c]) = (p.kept calls).or (p.remember c.answer) := by
  simp [Provider.kept, List.findSome?_append]

namespace Life

/-- A provider remembers what is kept of its calls. -/
theorem memo_eq (h : Life p calls s) : s.memo p = p.kept calls := by
  induction h with
  | fresh hs => exact hs
  | outside h hmemo ih => exact hmemo.trans ih
  | @resolve calls s h ih => rw [Stock.memo_resolve_self, Provider.kept_append, ih, Resolving.of]

/-- Each call finds what is kept of the earlier ones. -/
theorem call (h : Life p calls s) (hsplit : calls = earlier ++ c :: later) :
    c = .of p c.before ∧ c.before.memo p = p.kept earlier := by
  induction h generalizing later with
  | fresh hs => simp at hsplit
  | outside h hmemo ih => exact ih hsplit
  | @resolve calls s h ih =>
    rcases List.eq_nil_or_concat later with rfl | ⟨later, last, rfl⟩
    · obtain ⟨rfl, hc⟩ := List.append_inj' hsplit rfl
      cases hc
      exact ⟨rfl, h.memo_eq⟩
    · have hsnoc : calls ++ [Resolving.of p s] = (earlier ++ c :: later) ++ [last] := by
        simpa using hsplit
      exact ih (List.append_inj' hsnoc rfl).1

/-- As long as nothing is kept, a call fetches what the module has. -/
theorem fetched (h : Life p calls s) (hsplit : calls = earlier ++ c :: later)
    (hkept : p.kept earlier = none) :
    c.answer = p.fetch (c.before.view p.module) ∧ c.opened p.module = 1 ∧
      c.loaded p.module = p.typeLoads (c.before.view p.module) := by
  obtain ⟨hc, hmemo⟩ := h.call hsplit
  rw [hc]
  exact Resolving.of_forgetful (hmemo.trans hkept)

/-- As soon as something is kept, a call repeats it and changes nothing. -/
theorem repeated (h : Life p calls s) (hsplit : calls = earlier ++ c :: later)
    (hkept : p.kept earlier = some r) : c.answer = r ∧ c.after = c.before := by
  obtain ⟨hc, hmemo⟩ := h.call hsplit
  rw [hc, Resolving.of_memo (hmemo.trans hkept)]
  exact ⟨rfl, rfl⟩

end Life

/-! ## Providers that remember failures, and others -/

/-- Successes are remembered, and failures if the provider caches them. -/
theorem Provider.isSome_remember (p : Provider) (r : Resolution) :
    (p.remember r).isSome = true ↔ r.isOk = true ∨ p.cacheFailures = true := by
  unfold remember
  split
  · simp_all
  · simp_all

/-- Something is kept of calls if one of them succeeded, or if failures are kept and there was a
call. -/
theorem Provider.isSome_kept (p : Provider) (calls : List Resolving) :
    (p.kept calls).isSome = true ↔
    (∃ c ∈ calls, c.answer.isOk = true) ∨ (p.cacheFailures = true ∧ calls ≠ []) := by
  simp only [Provider.kept, List.findSome?_isSome_iff, Provider.isSome_remember]
  constructor
  · rintro ⟨c, hc, hok | hcache⟩
    · exact .inl ⟨c, hc, hok⟩
    · exact .inr ⟨hcache, List.ne_nil_of_mem hc⟩
  · rintro (⟨c, hc, hok⟩ | ⟨hcache, hne⟩)
    · exact ⟨c, hc, .inl hok⟩
    · obtain ⟨c, hc⟩ := List.exists_mem_of_ne_nil calls hne
      exact ⟨c, hc, .inr hcache⟩

/-- With failures kept, the first answer is. -/
theorem Provider.kept_cons_of_cacheFailures (p : Provider) (hcache : p.cacheFailures = true)
    (c : Resolving) (calls : List Resolving) : p.kept (c :: calls) = some c.answer := by
  simp [Provider.kept, Provider.remember, hcache]

/-- Without failures, the first success is kept. -/
theorem Provider.kept_eq_firstSuccess? (p : Provider) (hcache : p.cacheFailures = false)
    (calls : List Resolving) : p.kept calls = (Resolving.firstSuccess? calls).map .ok := by
  induction calls with
  | nil => rfl
  | cons c rest ih =>
    unfold Provider.kept Resolving.firstSuccess? at ih ⊢
    rw [List.findSome?_cons, List.findSome?_cons, ih]
    cases c.answer with
    | ok t => simp [Provider.remember, Except.isOk, Except.toBool, Except.toOption]
    | error e => simp [Provider.remember, hcache, Except.isOk, Except.toBool, Except.toOption]

/-- The first call fetches what the module has at that moment. All calls answer the same, and
together they ask for the descriptor and for a type at most once. -/
structure AnswersOnce (p : Provider) (calls : List Resolving) : Prop where
  first : ∀ c later, calls = c :: later → c.answer = p.fetch (c.before.view p.module)
  same : ∀ c ∈ calls, calls.head?.map (·.answer) = some c.answer
  settled : ∀ c ∈ calls.tail, c.after = c.before
  opened : (calls.map (·.opened p.module)).sum ≤ 1
  loaded : (calls.map (·.loaded p.module)).sum ≤ 1

/-- Through the first success each call fetches what the module has at that moment, and asks for the
descriptor once; each later call repeats the success and leaves everything as it is. -/
structure AnswersUntilSuccess (p : Provider) (calls : List Resolving) : Prop where
  fetched : ∀ earlier c later, calls = earlier ++ c :: later →
    Resolving.firstSuccess? earlier = none →
      c.answer = p.fetch (c.before.view p.module) ∧ c.opened p.module = 1
  settled : ∀ earlier c later t, calls = earlier ++ c :: later →
    Resolving.firstSuccess? earlier = some t → c.answer = .ok t ∧ c.after = c.before

namespace Life

/-- A provider that remembers failures makes up its mind once and for all. -/
theorem answersOnce (h : Life p calls s) (hcache : p.cacheFailures = true) :
    AnswersOnce p calls := by
  cases hcalls : calls with
  | nil => exact ⟨nofun, nofun, nofun, Nat.zero_le 1, Nat.zero_le 1⟩
  | cons c later =>
    have hfirst : calls = [] ++ c :: later := hcalls
    obtain ⟨hfetch, hopened, hloaded⟩ := h.fetched hfirst rfl
    have hlater : ∀ d ∈ later, d.answer = c.answer ∧ d.after = d.before := by
      intro d hd
      obtain ⟨between, rest, rfl⟩ := List.append_of_mem hd
      have hsplit : calls = (c :: between) ++ d :: rest := hcalls
      exact h.repeated hsplit (p.kept_cons_of_cacheFailures hcache c between)
    have hnone {count : Resolving → Nat} (hcount : ∀ d, d.after = d.before → count d = 0) :
        (later.map count).sum = 0 := by
      refine List.sum_eq_zero fun n hn => ?_
      obtain ⟨d, hd, rfl⟩ := List.mem_map.1 hn
      exact hcount d (hlater d hd).2
    refine ⟨fun c' later' heq => ?_, fun d hd => ?_, fun d hd => (hlater d hd).2, ?_, ?_⟩
    · cases heq
      exact hfetch
    · rcases List.mem_cons.1 hd with rfl | hd
      · rfl
      · exact congrArg some (hlater d hd).1.symm
    · have hrest : (later.map (·.opened p.module)).sum = 0 :=
        hnone fun d hd => by simp [Resolving.opened, hd]
      rw [List.map_cons, List.sum_cons, hrest]
      exact Nat.le_of_eq hopened
    · have hrest : (later.map (·.loaded p.module)).sum = 0 :=
        hnone fun d hd => by simp [Resolving.loaded, hd]
      rw [List.map_cons, List.sum_cons, hloaded, hrest]
      exact p.typeLoads_le_one _

/-- A provider that forgets failures tries until it succeeds. -/
theorem answersUntilSuccess (h : Life p calls s) (hcache : p.cacheFailures = false) :
    AnswersUntilSuccess p calls := by
  have hkept := p.kept_eq_firstSuccess? hcache
  refine ⟨fun earlier c later hsplit hnone => ?_, fun earlier c later t hsplit hsome => ?_⟩
  · obtain ⟨hfetch, hopened, -⟩ := h.fetched hsplit (by rw [hkept, hnone, Option.map_none])
    exact ⟨hfetch, hopened⟩
  · exact h.repeated hsplit (by rw [hkept, hsome, Option.map_some])

end Life

/-- Whatever becomes of its module between the calls, a provider that remembers failures answers all
calls as the first, one that does not tries until it succeeds, and it counts as resolved if it has
succeeded or if its failures count. -/
theorem lasting_of_life (h : Life p calls s) :
    (p.cacheFailures = true → AnswersOnce p calls) ∧
    (p.cacheFailures = false → AnswersUntilSuccess p calls) ∧
    ((s.memo p).isSome = true ↔
      (∃ c ∈ calls, c.answer.isOk = true) ∨ (p.cacheFailures = true ∧ calls ≠ [])) :=
  ⟨h.answersOnce, h.answersUntilSuccess, h.memo_eq ▸ p.isSome_kept calls⟩

/-! The module has no descriptor at first, then it has one, and at last its type is refused. One
provider forgets its failures, the other remembers them. -/

section Example

namespace Life

/-- A provider that caches failures or does not. -/
def reading (cacheFailures : Bool) : Provider :=
  ⟨0, "Greeter", ⟨"module://1/Greeter"⟩, ⟨0, ⟨1⟩, "module-1"⟩, cacheFailures⟩

/-- The provider's module, with some entries and types. -/
def moment (streams : List (String × Except Fault Stream)) (types : TypeSpace) (memo : Memo) :
    Stock where
  objects := ⟨[{ content := .fixed ⟨⟨1⟩, "module-1", .ok [], streams, types⟩ }]⟩
  memos := ⟨[memo]⟩

/-- The moment at which there is no descriptor. -/
def bare (memo : Memo) : Stock := moment [] {} memo

/-- The moment at which the descriptor is there and its type can be loaded. -/
def describing (memo : Memo) : Stock :=
  moment [("module://1/Greeter", .ok (.ofBytes [72, 105, 10]))]
    { defined := Dict.empty.insert "Hi" () } memo

/-- The moment at which the type is refused. -/
def refusing (memo : Memo) : Stock :=
  moment [("module://1/Greeter", .ok (.ofBytes [72, 105, 10]))]
    { rejected := Dict.empty.insert "Hi" "out of use" } memo

/-- The answer when there is no descriptor. -/
def missing : Resolution := .error (.unreadable ⟨"module://1/Greeter"⟩ "module://1/Greeter")

/-- The answer when the type can be loaded. -/
def greeting : Resolution := .ok ⟨"Hi", ⟨1⟩⟩

/-- The calls to a provider, and what it remembers at the second and the third. -/
def threeCalls (cacheFailures : Bool) (second third : Memo) : List Resolving :=
  [.of (reading cacheFailures) (bare none), .of (reading cacheFailures) (describing second),
    .of (reading cacheFailures) (refusing third)]

/-- Three calls of one provider: the descriptor is missing, then there, then its type is refused. -/
theorem life_threeCalls (cacheFailures : Bool) (second third : Memo)
    (hsecond : second = ((bare none).resolve (reading cacheFailures)).2.memo
      (reading cacheFailures))
    (hthird : third = ((describing second).resolve (reading cacheFailures)).2.memo
      (reading cacheFailures)) :
    Life (reading cacheFailures) (threeCalls cacheFailures second third)
      ((refusing third).resolve (reading cacheFailures)).2 := by
  have hbare : Life (reading cacheFailures) [] (bare none) := .fresh rfl
  have hdescribing : Life (reading cacheFailures) _ (describing second) :=
    hbare.resolve.outside hsecond
  have hrefusing : Life (reading cacheFailures) _ (refusing third) :=
    hdescribing.resolve.outside hthird
  exact hrefusing.resolve

/-- Without a cache for failures the second of three calls succeeds and the third repeats it; with
one the first failure is all there is. -/
theorem lasting_of_life_threeCalls :
    (∃ s, Life (reading false) (threeCalls false none (some greeting)) s ∧
      AnswersUntilSuccess (reading false) (threeCalls false none (some greeting)) ∧
      (s.memo (reading false)).isSome = true) ∧
    (threeCalls false none (some greeting)).map (·.answer) = [missing, greeting, greeting] ∧
    (∃ s, Life (reading true) (threeCalls true (some missing) (some missing)) s ∧
      AnswersOnce (reading true) (threeCalls true (some missing) (some missing)) ∧
      (s.memo (reading true)).isSome = true) ∧
    (threeCalls true (some missing) (some missing)).map (·.answer) =
      [missing, missing, missing] := by
  have hpatient := life_threeCalls false none (some greeting) rfl rfl
  have hstubborn := life_threeCalls true (some missing) (some missing) rfl rfl
  obtain ⟨-, huntil, hresolved⟩ := lasting_of_life hpatient
  obtain ⟨honce, -, hresolved'⟩ := lasting_of_life hstubborn
  refine ⟨⟨_, hpatient, huntil rfl, hresolved.2 (.inl ⟨_, .tail _ (.head _), rfl⟩)⟩, rfl,
    ⟨_, hstubborn, honce rfl, hresolved'.2 (.inr ⟨rfl, List.cons_ne_nil _ _⟩)⟩, rfl⟩

end Life

end Example

end ServiceRegistry
