import Mathlib.Data.List.TakeWhile
import ServiceRegistry.Proofs.Locating
import ServiceRegistry.Proofs.Utf8

/-!
# What a provider reads of its descriptor

A descriptor arrives in chunks of any size, with interrupted attempts and faults between them.
`Stream.items` forgets the chunks, and what reading a line gives is said of the items alone
(`Stream.Line`). A provider that remembers nothing resolves to what this line says
(`Provider.Says`), so neither the chunks nor what follows the first line feed can be told from the
outcome (`Stock.says_of_opened`).

A carriage return ends the name as well, but not the line, and all of the line has to be text.
`Stock.resolve_eq_iff_of_splits` says what this comes to for two descriptors with the same name.
-/

namespace ServiceRegistry

/-! ## Lines of what is delivered -/

/-- What one attempt delivers: its bytes, or a fault that ends the reading. An interrupted attempt
delivers nothing. -/
def Chunk.items : Chunk → List (Except Fault UInt8)
  | .bytes content => content.map .ok
  | .fault reason => if reason.kind = .interrupted then [] else [.error reason]

namespace Stream

/-- What the attempts to read deliver, byte by byte. -/
def items (s : Stream) : List (Except Fault UInt8) := s.flatMap Chunk.items

/-- What reading a line finds in what is delivered. -/
inductive Line : List (Except Fault UInt8) → Except Fault Bytes → Prop where
  /-- A fault that comes before any line feed. -/
  | broken {front : Bytes} {fault : Fault} {rest : List (Except Fault UInt8)}
      (hfront : lineFeed ∉ front) : Line (front.map .ok ++ .error fault :: rest) (.error fault)
  /-- The bytes through the first line feed, whatever follows. -/
  | ended {front : Bytes} {rest : List (Except Fault UInt8)} (hfront : lineFeed ∉ front) :
    Line (front.map .ok ++ .ok lineFeed :: rest) (.ok (front ++ [lineFeed]))
  /-- All bytes, if there is no line feed. -/
  | last {front : Bytes} (hfront : lineFeed ∉ front) : Line (front.map .ok) (.ok front)

/-- Two streams deliver the same, or at least the same through some line feed. -/
def SameLine (s s' : Stream) : Prop :=
  ∃ front rest rest', s.items = front ++ rest ∧ s'.items = front ++ rest' ∧
    (rest = rest' ∨ .ok lineFeed ∈ front)

variable {s s' : Stream} {content line front : Bytes} {delivered : List (Except Fault UInt8)}
  {r : Except Fault Bytes} {fault : Fault}

/-- No attempts deliver nothing. -/
@[simp] theorem items_nil : items [] = [] := rfl

/-- An attempt that delivers bytes delivers them before those of the later attempts. -/
@[simp] theorem items_bytes_cons (content : Bytes) (s : Stream) :
    items (.bytes content :: s) = content.map .ok ++ items s := rfl

/-- An interrupted attempt delivers nothing. -/
theorem items_interrupted_cons (h : fault.kind = .interrupted) (s : Stream) :
    items (.fault fault :: s) = items s := by
  simp [items, Chunk.items, h]

/-- Any other fault is delivered after the bytes before it. -/
theorem items_fault_cons (h : fault.kind ≠ .interrupted) (s : Stream) :
    items (.fault fault :: s) = .error fault :: items s := by
  simp [items, Chunk.items, h]

/-- No line ends in bytes without a line feed. -/
theorem throughLineFeed?_eq_none_iff : throughLineFeed? content = none ↔ lineFeed ∉ content := by
  induction content with
  | nil => simp [throughLineFeed?]
  | cons b rest ih =>
    rw [throughLineFeed?]
    by_cases hb : b = lineFeed
    · simp [hb]
    · simp [hb, ih, Ne.symm hb]

/-- A line goes through the first line feed. -/
theorem throughLineFeed?_eq_some_iff : throughLineFeed? content = some line ↔
    ∃ front rest, content = front ++ lineFeed :: rest ∧ lineFeed ∉ front ∧
      line = front ++ [lineFeed] := by
  induction content generalizing line with
  | nil => simp [throughLineFeed?]
  | cons b more ih =>
    rw [throughLineFeed?]
    by_cases hb : b = lineFeed
    · rw [if_pos hb, hb]
      constructor
      · intro h
        exact ⟨[], more, rfl, List.not_mem_nil, (Option.some.inj h).symm⟩
      · rintro ⟨front, rest, hsplit, hfront, rfl⟩
        cases front with
        | nil => rfl
        | cons a front =>
          obtain ⟨rfl, -⟩ := List.cons.inj hsplit
          exact absurd List.mem_cons_self hfront
    · rw [if_neg hb, Option.map_eq_some_iff]
      constructor
      · rintro ⟨line, hline, rfl⟩
        obtain ⟨front, rest, rfl, hfront, rfl⟩ := ih.1 hline
        exact ⟨b :: front, rest, rfl, by simp [hfront, Ne.symm hb], rfl⟩
      · rintro ⟨front, rest, hsplit, hfront, rfl⟩
        cases front with
        | nil => exact absurd (List.cons.inj hsplit).1 hb
        | cons a front =>
          obtain ⟨rfl, rfl⟩ := List.cons.inj hsplit
          rw [List.mem_cons, not_or] at hfront
          exact ⟨front ++ [lineFeed], ih.2 ⟨front, rest, rfl, hfront.2, rfl⟩, rfl⟩

/-- Bytes without a line feed come before the rest of the line. -/
theorem Line.prepend (hcontent : lineFeed ∉ content) (h : Line delivered r) :
    Line (content.map .ok ++ delivered) (r.map (content ++ ·)) := by
  have hfeed {front : Bytes} (hfront : lineFeed ∉ front) : lineFeed ∉ content ++ front := by
    simp [hcontent, hfront]
  cases h with
  | broken hfront =>
    rw [← List.append_assoc, ← List.map_append]
    exact .broken (hfeed hfront)
  | ended hfront =>
    rw [← List.append_assoc, ← List.map_append, Except.map, ← List.append_assoc]
    exact .ended (hfeed hfront)
  | last hfront =>
    rw [← List.map_append]
    exact .last (hfeed hfront)

/-- Reading a line finds the line in what is delivered. -/
theorem line_readLine (s : Stream) : Line s.items s.readLine := by
  induction s with
  | nil => exact @Line.last [] List.not_mem_nil
  | cons chunk rest ih =>
    cases chunk with
    | bytes content =>
      rw [items_bytes_cons, readLine]
      cases hline : throughLineFeed? content with
      | some line =>
        obtain ⟨front, more, rfl, hfront, rfl⟩ := throughLineFeed?_eq_some_iff.1 hline
        rw [List.map_append, List.map_cons, List.append_assoc, List.cons_append]
        exact .ended hfront
      | none => exact ih.prepend (throughLineFeed?_eq_none_iff.1 hline)
    | fault fault =>
      rw [readLine]
      by_cases hkind : fault.kind = .interrupted
      · rw [items_interrupted_cons hkind, if_pos hkind]
        exact ih
      · rw [items_fault_cons hkind, if_neg hkind]
        exact @Line.broken [] fault _ List.not_mem_nil

/-- The line in what is delivered, item by item. -/
def lineOf : List (Except Fault UInt8) → Except Fault Bytes
  | [] => .ok []
  | .error fault :: _ => .error fault
  | .ok b :: rest => if b = lineFeed then .ok [lineFeed] else (lineOf rest).map (b :: ·)

/-- Bytes without a line feed are part of the line. -/
theorem lineOf_append (hfront : lineFeed ∉ front) (rest : List (Except Fault UInt8)) :
    lineOf (front.map .ok ++ rest) = (lineOf rest).map (front ++ ·) := by
  induction front with
  | nil => cases h : lineOf rest <;> simp [h, Except.map]
  | cons b front ih =>
    rw [List.mem_cons, not_or] at hfront
    rw [List.map_cons, List.cons_append, lineOf, if_neg (Ne.symm hfront.1), ih hfront.2]
    cases lineOf rest <;> rfl

/-- Whatever follows a line feed is not. -/
theorem lineOf_append_of_mem (hfeed : .ok lineFeed ∈ delivered)
    (rest rest' : List (Except Fault UInt8)) :
    lineOf (delivered ++ rest) = lineOf (delivered ++ rest') := by
  induction delivered with
  | nil => exact absurd hfeed List.not_mem_nil
  | cons item delivered ih =>
    cases item with
    | error fault => rfl
    | ok b =>
      rw [List.cons_append, List.cons_append, lineOf, lineOf]
      by_cases hb : b = lineFeed
      · rw [if_pos hb, if_pos hb]
      · rw [if_neg hb, if_neg hb, ih (by simpa [Ne.symm hb] using hfeed)]

/-- Nothing but one line is found in what is delivered. -/
theorem Line.lineOf_eq (h : Line delivered r) : lineOf delivered = r := by
  cases h with
  | broken hfront =>
    rw [lineOf_append hfront]
    rfl
  | ended hfront =>
    rw [lineOf_append hfront]
    rfl
  | @last front hfront =>
    rw [← List.append_nil (front.map _), lineOf_append hfront]
    simp [lineOf, Except.map]

/-- What reading a line gives is fixed by what is delivered. -/
theorem readLine_eq_lineOf (s : Stream) : s.readLine = lineOf s.items :=
  (line_readLine s).lineOf_eq.symm

/-- A line that is read is the one that is found in what is delivered, however it is cut into
attempts. -/
theorem readLine_eq_iff : s.readLine = r ↔ Line s.items r :=
  ⟨fun h => h ▸ line_readLine s, fun h => (readLine_eq_lineOf s).trans h.lineOf_eq⟩

/-- Streams that deliver the same through a line feed have the same line. -/
theorem SameLine.readLine_eq (h : SameLine s s') : s'.readLine = s.readLine := by
  obtain ⟨front, rest, rest', hs, hs', hsame⟩ := h
  rw [readLine_eq_lineOf, readLine_eq_lineOf, hs, hs']
  rcases hsame with rfl | hfeed
  · rfl
  · exact lineOf_append_of_mem hfeed rest' rest

end Stream

/-! ## Providers that remember nothing -/

namespace Provider

/-- A text names what it has before its first carriage return or line feed. -/
def Names (text name : String) : Prop :=
  '\r' ∉ name.toList ∧ '\n' ∉ name.toList ∧
    ∃ rest, text.toList = name.toList ++ rest ∧ ∀ c ∈ rest.head?, c = '\r' ∨ c = '\n'

/-- What a line says of a provider whose module loads types in a given way. -/
inductive Says (p : Provider) (load : String → Except TypeFault LoadedType) :
    Except Fault Bytes → Resolution → Prop where
  /-- The fault's own text says why there is no line. -/
  | broken {fault : Fault} :
    p.Says load (.error fault) (.error (.unreadable p.location fault.text))
  /-- The line has to be text. -/
  | garbled {line : Bytes} (hline : line.text? = none) :
    p.Says load (.ok line)
      (.error (.unreadable p.location "stream did not contain valid UTF-8"))
  /-- The name cannot be empty. -/
  | unnamed {line : Bytes} {text : String} (hline : line.text? = some text)
      (hname : Names text "") : p.Says load (.ok line) (.error (.emptyDescriptor p.location))
  /-- With any other name, the module has the last word. -/
  | named {line : Bytes} {text name : String} (hline : line.text? = some text)
      (hname : Names text name) (hne : name ≠ "") :
    p.Says load (.ok line) ((load name).mapError .typeLoad)

variable {p : Provider} {v : ModuleView} {text name : String} {stream : Stream}
  {r : Resolution}

/-- A name ends at a carriage return or at a line feed. -/
theorem endsName_iff {c : Char} : endsName c = true ↔ c = '\r' ∨ c = '\n' := by
  simp [endsName]

/-- What is taken from a line is the name in it. -/
theorem names_nameOfLine (text : String) : Names text (nameOfLine text) := by
  have hplain {c : Char} (hc : c ∈ (nameOfLine text).toList) : endsName c = false := by
    rw [nameOfLine, String.toList_ofList] at hc
    simpa using List.mem_takeWhile_imp hc
  refine ⟨fun hc => absurd (hplain hc) (by decide), fun hc => absurd (hplain hc) (by decide),
    text.toList.dropWhile fun c => !endsName c, ?_, fun c hc => ?_⟩
  · rw [nameOfLine, String.toList_ofList, List.takeWhile_append_dropWhile]
  · have hends := List.head?_dropWhile_not (fun c => !endsName c) text.toList
    rw [Option.mem_def.1 hc] at hends
    exact endsName_iff.1 (by simpa using hends)

/-- A line has one name in it. -/
theorem Names.nameOfLine_eq (h : Names text name) : nameOfLine text = name := by
  obtain ⟨hreturn, hfeed, rest, hsplit, hrest⟩ := h
  have hname : ∀ c ∈ name.toList, (!endsName c) = true := by
    intro c hc
    rw [Bool.not_eq_true', Bool.eq_false_iff, ne_eq, endsName_iff]
    rintro (rfl | rfl)
    · exact hreturn hc
    · exact hfeed hc
  have hstop : rest.takeWhile (fun c => !endsName c) = [] := by
    cases rest with
    | nil => rfl
    | cons c rest => simp [endsName_iff.2 (hrest c rfl)]
  rw [nameOfLine, hsplit, List.takeWhile_append_of_pos hname, hstop, List.append_nil,
    String.ofList_toList]

/-- A fault in the first line is what reading the name comes to. -/
theorem firstName_of_error {fault : Fault} (hread : stream.readLine = .error fault) :
    firstName (.ok stream) = .error fault := by
  unfold firstName
  simp only [bind, Except.bind, hread]

/-- A first line that is no text has no name. -/
theorem firstName_of_garbled {line : Bytes} (hread : stream.readLine = .ok line)
    (htext : line.text? = none) : firstName (.ok stream) = .error .notText := by
  unfold firstName
  simp only [bind, Except.bind, hread, htext]

/-- The name is that in the text of the first line. -/
theorem firstName_of_names {line : Bytes} (hread : stream.readLine = .ok line)
    (htext : line.text? = some text) (hname : Names text name) :
    firstName (.ok stream) = .ok name := by
  unfold firstName
  simp only [bind, Except.bind, hread, htext, hname.nameOfLine_eq]

/-- What a provider fetches of an opened descriptor is what the first line says. -/
theorem fetch_eq_iff (hopen : v.openEntry p.location = .ok stream) :
    p.fetch v = r ↔ p.Says v.loadType stream.readLine r := by
  unfold fetch readName
  rw [hopen]
  constructor
  · rintro rfl
    cases hread : stream.readLine with
    | error fault =>
      rw [firstName_of_error hread]
      exact .broken
    | ok line =>
      cases htext : line.text? with
      | none =>
        rw [firstName_of_garbled hread htext]
        exact .garbled htext
      | some text =>
        have hname := names_nameOfLine text
        rw [firstName_of_names hread htext hname]
        by_cases hempty : nameOfLine text = ""
        · rw [hempty] at hname ⊢
          exact .unnamed htext hname
        · simp only [String.isEmpty_iff, hempty, if_false]
          exact .named htext hname hempty
  · intro h
    generalize hread : stream.readLine = line at h
    cases h with
    | broken => rw [firstName_of_error hread]
    | garbled htext =>
      rw [firstName_of_garbled hread htext]
      rfl
    | unnamed htext hname =>
      rw [firstName_of_names hread htext hname]
      rfl
    | named htext hname hne =>
      rw [firstName_of_names hread htext hname]
      simp only [String.isEmpty_iff, hne, if_false]

end Provider

namespace Stock

variable {s : Stock} {p : Provider}

/-- A provider that remembers nothing reads its descriptor. -/
theorem fst_resolve_of_fresh (hfresh : s.memo p = none) :
    (s.resolve p).1 = p.fetch (s.view p.module) := by
  rw [fst_resolve, outcome, hfresh, Option.getD_none]

/-- A provider that remembers nothing resolves to what the first line says of it, and this line is
fixed by what the opened descriptor delivers, at most through the first line feed. -/
theorem says_of_opened {stream : Stream} (hfresh : s.memo p = none)
    (hopen : (s.view p.module).openEntry p.location = .ok stream) :
    (∀ r, (s.resolve p).1 = r ↔
      ∃ line, Stream.Line stream.items line ∧ p.Says (s.view p.module).loadType line r) ∧
    ∀ (s' : Stock) (stream' : Stream), s'.memo p = none →
      (s'.view p.module).openEntry p.location = .ok stream' →
      (s'.view p.module).loadType = (s.view p.module).loadType →
      stream.SameLine stream' → (s'.resolve p).1 = (s.resolve p).1 := by
  have hread {s : Stock} {stream : Stream} {r : Resolution} (hfresh : s.memo p = none)
      (hopen : (s.view p.module).openEntry p.location = .ok stream) :
      (s.resolve p).1 = r ↔ p.Says (s.view p.module).loadType stream.readLine r := by
    rw [fst_resolve_of_fresh hfresh]
    exact Provider.fetch_eq_iff hopen
  refine ⟨fun r => ?_, fun s' stream' hfresh' hopen' hload hsame => ?_⟩
  · rw [hread hfresh hopen]
    constructor
    · exact fun h => ⟨_, stream.line_readLine, h⟩
    · rintro ⟨line, hline, h⟩
      rwa [Stream.readLine_eq_iff.2 hline]
  · rw [hread hfresh' hopen', hload, hsame.readLine_eq, ← hread hfresh hopen]

/-! The descriptor names a type of two bytes. They arrive one by one with an interruption between
them, the carriage return comes without its line feed, and what follows the line cannot be read. -/

section Example

/-- A stream whose bytes come one by one. -/
def interrupted : Stream :=
  [.bytes [0xC3], .fault ⟨.interrupted, "again"⟩, .bytes [0xA9, 13], .bytes [10],
    .fault ⟨.other, "lost"⟩]

/-- A stream with the bytes of the line in one piece. -/
def atOnce : Stream := [.bytes [0xC3, 0xA9, 13, 10]]

/-- One module, which has one entry and defines one type. -/
def delivering (type : String) (stream : Stream) : Stock where
  objects := ⟨[{ content := .fixed {
    id := ⟨1⟩
    name := "module-1"
    entries := .ok []
    streams := [("module://1/Greeter", .ok stream)]
    types := { defined := Dict.empty.insert type () } } }]⟩

/-- The provider of the descriptor. -/
def reader : Provider := ⟨0, "Greeter", ⟨"module://1/Greeter"⟩, ⟨0, ⟨1⟩, "module-1"⟩, true⟩

/-- An interruption in the middle of a character changes nothing in what a descriptor says. -/
theorem says_of_opened_interrupted :
    (delivering "é" interrupted).memo reader = none ∧
    ((delivering "é" interrupted).view reader.module).openEntry reader.location = .ok interrupted ∧
    Stream.SameLine interrupted atOnce ∧
    ((delivering "é" interrupted).resolve reader).1 = .ok ⟨"é", ⟨1⟩⟩ ∧
    ((delivering "é" atOnce).resolve reader).1 =
      ((delivering "é" interrupted).resolve reader).1 := by
  have hline : Stream.Line interrupted.items (.ok [0xC3, 0xA9, 13, 10]) :=
    @Stream.Line.ended [0xC3, 0xA9, 13] [.error ⟨.other, "lost"⟩] (by decide)
  have htext : Bytes.text? [0xC3, 0xA9, 13, 10] = some "é\r\n" :=
    Bytes.text?_eq_some_iff.2 (by decide)
  have hname : Provider.Names "é\r\n" "é" :=
    ⟨by decide, by decide, ['\r', '\n'], by decide, by simp⟩
  have hsame : Stream.SameLine interrupted atOnce :=
    ⟨atOnce.items, [.error ⟨.other, "lost"⟩], [], rfl, rfl, .inr (by decide)⟩
  have h := says_of_opened (s := delivering "é" interrupted) (p := reader) rfl rfl
  exact ⟨rfl, rfl, hsame, (h.1 _).2 ⟨_, hline, .named htext hname (by decide)⟩,
    h.2 (delivering "é" atOnce) atOnce rfl rfl rfl hsame⟩

end Example

end Stock

/-! ## What follows the name -/

namespace Stream

/-- The byte that ends names as a line feed does, but not lines. -/
def carriageReturn : UInt8 := 13

/-- The bytes through the first line feed, all if there is none. -/
def firstLine (content : Bytes) : Bytes := (throughLineFeed? content).getD content

/-- A stream delivers a name without a fault, and then what starts with a carriage return or a line
feed. -/
structure Splits (s : Stream) (name rest : Bytes) : Prop where
  items : s.items = (name ++ rest).map .ok
  noReturn : carriageReturn ∉ name
  noFeed : lineFeed ∉ name
  ends : ∃ b more, rest = b :: more ∧ (b = carriageReturn ∨ b = lineFeed)

variable {s : Stream} {name rest content : Bytes}

/-- The first line of a content is the one that is found in it. -/
theorem line_firstLine (content : Bytes) : Line (content.map .ok) (.ok (firstLine content)) := by
  unfold firstLine
  cases hline : throughLineFeed? content with
  | some line =>
    obtain ⟨front, more, rfl, hfront, rfl⟩ := throughLineFeed?_eq_some_iff.1 hline
    rw [List.map_append, List.map_cons]
    exact .ended hfront
  | none => exact .last (throughLineFeed?_eq_none_iff.1 hline)

/-- The line that is read is the name and what follows through the next line feed. -/
theorem Splits.readLine_eq (h : s.Splits name rest) :
    s.readLine = .ok (name ++ firstLine rest) := by
  rw [readLine_eq_iff, h.items, List.map_append]
  exact (line_firstLine rest).prepend h.noFeed

/-- The first line of what follows the name starts as this does. -/
theorem Splits.firstLine_eq_cons (h : s.Splits name rest) :
    ∃ b more, firstLine rest = b :: more ∧ (b = carriageReturn ∨ b = lineFeed) := by
  obtain ⟨b, more, rfl, hb⟩ := h.ends
  unfold firstLine
  rw [throughLineFeed?]
  split
  · exact ⟨b, [], rfl, hb⟩
  · cases throughLineFeed? more with
    | none => exact ⟨b, more, rfl, hb⟩
    | some line => exact ⟨b, line, rfl, hb⟩

end Stream

namespace Provider

/-- What a provider resolves to if its descriptor has given bytes for a name. -/
def resolveName (p : Provider) (load : String → Except TypeFault LoadedType) (name : Bytes) :
    Resolution :=
  match name.text? with
  | none => .error (.unreadable p.location Fault.notText.text)
  | some text =>
    if text = "" then .error (.emptyDescriptor p.location)
    else (load text).mapError .typeLoad

variable {p : Provider} {v : ModuleView} {stream : Stream} {name rest : Bytes}

/-- Text that starts with a name of text has this name. -/
theorem names_of_text? {b : UInt8} {more : Bytes} {text : String}
    (hreturn : Stream.carriageReturn ∉ name) (hfeed : Stream.lineFeed ∉ name)
    (hb : b = Stream.carriageReturn ∨ b = Stream.lineFeed)
    (htext : (name ++ b :: more).text? = some text) :
    ∃ before, name.text? = some before ∧ Names text before := by
  have hlow : b < 128 := by rcases hb with rfl | rfl <;> decide
  obtain ⟨before, c, after, rfl, hc, hbefore, -⟩ :=
    (Bytes.text?_append_cons_eq_some_iff hlow).1 htext
  refine ⟨before, hbefore, fun hmem => ?_, fun hmem => ?_, c :: after.toList,
    String.toList_ofList, fun d hd => ?_⟩
  · exact hreturn (Bytes.mem_of_mem_text hbefore (by decide) (by decide) hmem)
  · exact hfeed (Bytes.mem_of_mem_text hbefore (by decide) (by decide) hmem)
  · obtain rfl : c = d := Option.some.inj hd
    have heq {d : Char} (hd : b.toNat = d.toNat) : c = d :=
      Char.ext (UInt32.toNat_inj.1 (hc.trans hd))
    rcases hb with rfl | rfl
    · exact .inl (heq (by decide))
    · exact .inr (heq (by decide))

/-- The name decides if the rest of its line is text. -/
theorem fetch_of_splits (hopen : v.openEntry p.location = .ok stream)
    (h : stream.Splits name rest) :
    p.fetch v =
      if (Stream.firstLine rest).text?.isSome then p.resolveName v.loadType name
      else .error (.unreadable p.location Fault.notText.text) := by
  rw [fetch_eq_iff hopen, h.readLine_eq]
  obtain ⟨b, more, hline, hb⟩ := h.firstLine_eq_cons
  rw [hline]
  have hlow : b < 128 := by rcases hb with rfl | rfl <;> decide
  have hboth : (name ++ b :: more).text?.isSome ↔
      name.text?.isSome ∧ (Bytes.text? (b :: more)).isSome := by
    rw [Bytes.isSome_text?_append_cons hlow, Bytes.isSome_text?_cons hlow]
  cases htext : (name ++ b :: more).text? with
  | none =>
    rw [htext, Option.isSome_none] at hboth
    have hgarbled : p.Says v.loadType (.ok (name ++ b :: more))
        (.error (.unreadable p.location Fault.notText.text)) := .garbled htext
    split
    case isTrue hrest =>
      have hname : name.text? = none := by
        simpa [hrest] using hboth
      rw [resolveName, hname]
      exact hgarbled
    case isFalse => exact hgarbled
  | some text =>
    rw [htext, Option.isSome_some, eq_self, true_iff] at hboth
    obtain ⟨before, hbefore, hnames⟩ := names_of_text? h.noReturn h.noFeed hb htext
    rw [if_pos hboth.2, resolveName, hbefore]
    dsimp only
    split
    case isTrue hempty =>
      subst hempty
      exact .unnamed htext hnames
    case isFalse hempty => exact .named htext hnames hempty

/-- A name of text is never what makes a descriptor unreadable. -/
theorem resolveName_ne_unreadable {load : String → Except TypeFault LoadedType}
    {location : Location} {reason : String} (h : name.text?.isSome) :
    p.resolveName load name ≠ .error (.unreadable location reason) := by
  obtain ⟨text, htext⟩ := Option.isSome_iff_exists.1 h
  rw [resolveName, htext]
  dsimp only
  split
  · simp
  · cases load text <;> simp [Except.mapError]

end Provider

namespace Stock

variable {s s' : Stock} {p : Provider} {stream stream' : Stream} {name rest rest' : Bytes}

/-- Two descriptors with one name resolve alike, unless the name is text and the rest of its line,
through the line feed, is text in one of them only. -/
theorem resolve_eq_iff_of_splits (hfresh : s.memo p = none) (hfresh' : s'.memo p = none)
    (hopen : (s.view p.module).openEntry p.location = .ok stream)
    (hopen' : (s'.view p.module).openEntry p.location = .ok stream')
    (hload : (s'.view p.module).loadType = (s.view p.module).loadType)
    (hsplits : stream.Splits name rest) (hsplits' : stream'.Splits name rest') :
    (s.resolve p).1 = (s'.resolve p).1 ↔
      (name.text?.isSome → ((Stream.firstLine rest).text?.isSome ↔
        (Stream.firstLine rest').text?.isSome)) := by
  rw [fst_resolve_of_fresh hfresh, fst_resolve_of_fresh hfresh',
    Provider.fetch_of_splits hopen hsplits, Provider.fetch_of_splits hopen' hsplits', hload]
  by_cases hname : name.text?.isSome
  · have hne : p.resolveName (s.view p.module).loadType name ≠
        .error (.unreadable p.location Fault.notText.text) :=
      Provider.resolveName_ne_unreadable hname
    by_cases hline : (Stream.firstLine rest).text?.isSome <;>
      by_cases hline' : (Stream.firstLine rest').text?.isSome <;>
      simp [hname, hline, hline', hne, hne.symm]
  · have hnone : name.text? = none := by simpa using hname
    have hunreadable : p.resolveName (s.view p.module).loadType name =
        .error (.unreadable p.location Fault.notText.text) := by
      rw [Provider.resolveName, hnone]
    simp [hname, hunreadable]

/-! Both descriptors name the same type and end the name by a carriage return. In one of them a byte
that is not text follows before the line feed. -/

section Example

/-- A descriptor with a name and what follows it. -/
def named (more : Bytes) : Stream := .ofBytes ([105, 109, 112, 108, 46, 65] ++ more)

/-- The descriptor of the example is split at the byte after its name. -/
theorem splits_named {b : UInt8} {more : Bytes}
    (hb : b = Stream.carriageReturn ∨ b = Stream.lineFeed) :
    (named (b :: more)).Splits [105, 109, 112, 108, 46, 65] (b :: more) where
  items := by simp [named, Stream.ofBytes]
  noReturn := by decide
  noFeed := by decide
  ends := ⟨b, more, rfl, hb⟩

/-- Two descriptors with one name before a carriage return say different things, as one of them goes
on with a byte that is no text. -/
theorem resolve_eq_iff_of_splits_garbled :
    (named [13, 10]).Splits [105, 109, 112, 108, 46, 65] [13, 10] ∧
    (named [13, 0xFF, 10]).Splits [105, 109, 112, 108, 46, 65] [13, 0xFF, 10] ∧
    ((delivering "impl.A" (named [13, 10])).resolve reader).1 ≠
      ((delivering "impl.A" (named [13, 0xFF, 10])).resolve reader).1 := by
  have hclean := @splits_named 13 [10] (.inl rfl)
  have hgarbled := @splits_named 13 [0xFF, 10] (.inl rfl)
  have h : ((delivering "impl.A" (named [13, 10])).resolve reader).1 =
      ((delivering "impl.A" (named [13, 0xFF, 10])).resolve reader).1 ↔ _ :=
    resolve_eq_iff_of_splits rfl rfl rfl rfl rfl hclean hgarbled
  refine ⟨hclean, hgarbled, ?_⟩
  rw [ne_eq, h]
  decide

end Example

end Stock

end ServiceRegistry
