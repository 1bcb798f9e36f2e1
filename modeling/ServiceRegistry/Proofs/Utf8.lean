import Mathlib.Tactic.SplitIfs
import ServiceRegistry.Text.Bytes

/-!
# Text and its bytes

Bytes are text just if they are the UTF-8 form of some characters (`Bytes.text?_eq_some_iff`). In
this form a byte below 128 always stands for a character of its own, so text can be cut there:
bytes around such a byte are text just if the parts on both sides are
(`Bytes.text?_append_cons_eq_some_iff`).

The order of texts by their characters is the order of their bytes (`Bytes.ofText_lt_ofText`).
-/

namespace ServiceRegistry.Bytes

variable {bytes front rest : Bytes} {b : UInt8} {c d : Char} {cs ds : List Char} {text : String}

/-- The bytes of a text are those of its characters. -/
theorem data_toByteArray (text : String) :
    text.toByteArray.data.toList = text.toList.flatMap String.utf8EncodeChar := by
  rw [← String.utf8Encode_toList]
  simp [List.utf8Encode]

/-- Bytes are text just if they are the UTF-8 form of its characters. -/
theorem text?_eq_some_iff :
    bytes.text? = some text ↔ text.toList.flatMap String.utf8EncodeChar = bytes := by
  unfold text? String.fromUTF8?
  constructor
  · intro h
    split at h
    · cases h
      exact (data_toByteArray _).symm
    · cases h
  · intro h
    have heq : (⟨bytes.toArray⟩ : ByteArray) = text.toByteArray := by
      ext1
      rw [← h, ← data_toByteArray]
    rw [dif_pos (heq ▸ text.isValidUTF8)]
    simp [heq, String.fromUTF8]

/-- A character below 128 has one byte, its number; all bytes of another are 128 or more. -/
theorem utf8EncodeChar_cases (c : Char) :
    c.toNat < 128 ∧ String.utf8EncodeChar c = [UInt8.ofNat c.toNat] ∨
      128 ≤ c.toNat ∧ ∀ b ∈ String.utf8EncodeChar c, 128 ≤ b := by
  have hhigh {n : Nat} (hn : 128 ≤ n) (hn' : n < 256) : 128 ≤ UInt8.ofNat n := by
    rw [UInt8.le_iff_toNat_le, UInt8.toNat_ofNat_of_lt' hn']
    exact hn
  unfold String.utf8EncodeChar
  dsimp only
  by_cases hone : c.val.toNat ≤ 127
  · rw [if_pos hone]
    exact .inl ⟨Nat.lt_succ_of_le hone, rfl⟩
  · rw [if_neg hone]
    refine .inr ⟨Nat.lt_of_not_le hone, fun b hb => ?_⟩
    -- All numbers that the bytes are made from lie between 128 and 255.
    split at hb
    case isTrue =>
      simp only [List.mem_cons, List.not_mem_nil, or_false] at hb
      rcases hb with rfl | rfl <;> exact hhigh (by omega) (by omega)
    case isFalse =>
      split at hb
      case isTrue =>
        simp only [List.mem_cons, List.not_mem_nil, or_false] at hb
        rcases hb with rfl | rfl | rfl <;> exact hhigh (by omega) (by omega)
      case isFalse =>
        simp only [List.mem_cons, List.not_mem_nil, or_false] at hb
        rcases hb with rfl | rfl | rfl | rfl <;> exact hhigh (by omega) (by omega)

/-- A byte below 128 is all that a character has if it is the character's number. -/
theorem utf8EncodeChar_of_toNat_eq (hb : b < 128) (hc : c.toNat = b.toNat) :
    String.utf8EncodeChar c = [b] := by
  rcases utf8EncodeChar_cases c with ⟨-, hform⟩ | ⟨hle, -⟩
  · rw [hform, hc, UInt8.ofNat_toNat]
  · have hlow : b.toNat < 128 := UInt8.lt_iff_toNat_lt.1 hb
    omega

/-- A byte below 128 is all that the character has to which it belongs, and its number. -/
theorem eq_singleton_of_mem (hb : b < 128) (h : b ∈ String.utf8EncodeChar c) :
    String.utf8EncodeChar c = [b] ∧ c.toNat = b.toNat := by
  rcases utf8EncodeChar_cases c with ⟨hlow, hform⟩ | ⟨-, hhigh⟩
  · rw [hform, List.mem_singleton] at h
    have hnat : b.toNat = c.toNat := by
      rw [h, UInt8.toNat_ofNat_of_lt' (Nat.lt_trans hlow (by decide))]
    exact ⟨by rw [hform, h], hnat.symm⟩
  · exact absurd hb (UInt8.not_lt.2 (hhigh b h))

/-- The form of some characters can be cut at a byte below 128. -/
theorem cut_of_flatMap (hb : b < 128)
    (h : cs.flatMap String.utf8EncodeChar = front ++ b :: rest) :
    ∃ before c after, cs = before ++ c :: after ∧ c.toNat = b.toNat ∧
      before.flatMap String.utf8EncodeChar = front ∧
      after.flatMap String.utf8EncodeChar = rest := by
  induction cs generalizing front with
  | nil => simp at h
  | cons c cs ih =>
    rw [List.flatMap_cons, List.append_eq_append_iff] at h
    rcases h with ⟨more, rfl, hmore⟩ | ⟨more, hc, hmore⟩
    · obtain ⟨before, d, after, rfl, hd, rfl, rfl⟩ := ih hmore
      exact ⟨c :: before, d, after, rfl, hd, rfl, rfl⟩
    · cases more with
      | nil =>
        obtain ⟨before, d, after, rfl, hd, hbefore, rfl⟩ := @ih [] hmore.symm
        exact ⟨c :: before, d, after, rfl, hd, by simp [hbefore, hc], rfl⟩
      | cons b' more =>
        -- The byte is one of the character's, which therefore has no other.
        obtain ⟨rfl, rfl⟩ := List.cons.inj hmore
        have hmem : b ∈ String.utf8EncodeChar c := by simp [hc]
        obtain ⟨hform, hnat⟩ := eq_singleton_of_mem hb hmem
        rw [hform, List.singleton_eq_append_iff] at hc
        rcases hc with ⟨rfl, hsingle⟩ | ⟨-, hnil⟩
        · cases hsingle
          exact ⟨[], c, cs, rfl, hnat, rfl, rfl⟩
        · cases hnil

/-- Bytes around one below 128 are text just if the parts on both sides are. -/
theorem text?_append_cons_eq_some_iff (hb : b < 128) :
    (front ++ b :: rest).text? = some text ↔ ∃ before c after,
      text = String.ofList (before.toList ++ c :: after.toList) ∧ c.toNat = b.toNat ∧
      front.text? = some before ∧ rest.text? = some after := by
  simp only [text?_eq_some_iff]
  constructor
  · intro h
    obtain ⟨before, c, after, htext, hc, rfl, rfl⟩ := cut_of_flatMap hb h
    refine ⟨String.ofList before, c, String.ofList after, ?_, hc, ?_, ?_⟩
    · rw [String.toList_ofList, String.toList_ofList, ← htext, String.ofList_toList]
    · rw [String.toList_ofList]
    · rw [String.toList_ofList]
  · rintro ⟨before, c, after, rfl, hc, rfl, rfl⟩
    rw [String.toList_ofList, List.flatMap_append, List.flatMap_cons,
      utf8EncodeChar_of_toNat_eq hb hc, List.singleton_append]

/-- Bytes around one below 128 are text just if those on both sides are. -/
theorem isSome_text?_append_cons (hb : b < 128) :
    (front ++ b :: rest).text?.isSome ↔ front.text?.isSome ∧ rest.text?.isSome := by
  simp only [Option.isSome_iff_exists]
  constructor
  · rintro ⟨text, htext⟩
    obtain ⟨before, c, after, -, -, hbefore, hafter⟩ :=
      (text?_append_cons_eq_some_iff hb).1 htext
    exact ⟨⟨before, hbefore⟩, ⟨after, hafter⟩⟩
  · rintro ⟨⟨before, hbefore⟩, ⟨after, hafter⟩⟩
    have hc : (Char.ofNat b.toNat).toNat = b.toNat := by
      have hlow : b.toNat < 128 := UInt8.lt_iff_toNat_lt.1 hb
      have hvalid : b.toNat.isValidChar := .inl (Nat.lt_trans hlow (by decide))
      rw [Char.ofNat, dif_pos hvalid]
      rfl
    exact ⟨_, (text?_append_cons_eq_some_iff hb).2
      ⟨before, Char.ofNat b.toNat, after, rfl, hc, hbefore, hafter⟩⟩

/-- A byte below 128 can be left out at the start. -/
theorem isSome_text?_cons (hb : b < 128) :
    (text? (b :: rest)).isSome ↔ rest.text?.isSome := by
  have hnil : text? [] = some "" := text?_eq_some_iff.2 rfl
  have hcut : (text? ([] ++ b :: rest)).isSome ↔ (text? []).isSome ∧ rest.text?.isSome :=
    isSome_text?_append_cons hb
  rwa [List.nil_append, hnil, Option.isSome_some, eq_self, true_and] at hcut

/-- A character below 128 of a text is one of its bytes. -/
theorem mem_of_mem_text (htext : bytes.text? = some text) (hb : b < 128) (hc : c.toNat = b.toNat)
    (hmem : c ∈ text.toList) : b ∈ bytes := by
  rw [text?_eq_some_iff] at htext
  rw [← htext, List.mem_flatMap]
  exact ⟨c, hmem, by simp [utf8EncodeChar_of_toNat_eq hb hc]⟩

/-! ## The order of texts -/

/-- The bytes of an array are those of its data. -/
theorem toList_byteArray (b : ByteArray) : b.toList = b.data.toList := by
  have hloop (i : Nat) (r : List UInt8) :
      ByteArray.toList.loop b i r = r.reverse ++ b.data.toList.drop i := by
    fun_induction ByteArray.toList.loop b i r with
    | case1 i r hi ih =>
      have hget : b.get! i = b.data.toList[i] := getElem!_pos b.data i hi
      rw [ih, List.reverse_cons, hget, List.append_assoc, List.singleton_append,
        ← List.drop_eq_getElem_cons]
    | case2 i r hi =>
      have hnil : b.data.toList.drop i = [] := List.drop_of_length_le (Nat.le_of_not_lt hi)
      rw [hnil, List.append_nil]
  exact (hloop 0 []).trans rfl

/-- The bytes of a text are those of its characters, one after another. -/
theorem ofText_eq (text : String) : ofText text = text.toList.flatMap String.utf8EncodeChar := by
  rw [ofText, String.toUTF8, toList_byteArray, data_toByteArray]

/-- Bytes are ordered as the numbers that they stand for. -/
theorem ofNat_lt_ofNat_iff {m n : Nat} (hm : m < 256) (hn : n < 256) :
    UInt8.ofNat m < UInt8.ofNat n ↔ m < n := by
  rw [UInt8.lt_iff_toNat_lt, UInt8.toNat_ofNat_of_lt' hm, UInt8.toNat_ofNat_of_lt' hn]

/-- Bytes are the same if they stand for the same number. -/
theorem ofNat_eq_ofNat_iff {m n : Nat} (hm : m < 256) (hn : n < 256) :
    UInt8.ofNat m = UInt8.ofNat n ↔ m = n := by
  rw [← UInt8.toNat_inj, UInt8.toNat_ofNat_of_lt' hm, UInt8.toNat_ofNat_of_lt' hn]

/-- Characters are in the order of their bytes, whatever follows. -/
theorem utf8EncodeChar_append_lt (h : c < d) (after after' : Bytes) :
    String.utf8EncodeChar c ++ after < String.utf8EncodeChar d ++ after' := by
  have hnat : c.val.toNat < d.val.toNat := h
  have hlast : d.val.toNat < 1114112 := by
    rcases d.valid with hd | ⟨-, hd⟩
    · exact Nat.lt_trans hd (by decide)
    · exact hd
  have htwo (n : Nat) : n / 4096 = n / 64 / 64 := by rw [Nat.div_div_eq_div_mul]
  have hthree (n : Nat) : n / 262144 = n / 64 / 64 / 64 := by
    rw [Nat.div_div_eq_div_mul, Nat.div_div_eq_div_mul]
  unfold String.utf8EncodeChar
  dsimp only
  generalize c.val.toNat = m at *
  generalize d.val.toNat = n at *
  -- Of two lengths the shorter has the lower first byte; within one length the bytes are the
  -- digits of the numbers, the highest first.
  split_ifs <;>
    simp (disch := omega) only [htwo, hthree, List.cons_append, List.nil_append,
      List.cons_lt_cons_iff, ofNat_lt_ofNat_iff, ofNat_eq_ofNat_iff] <;>
    omega

/-- Encoding keeps the order of lists of characters. -/
theorem flatMap_utf8EncodeChar_lt (h : cs < ds) :
    cs.flatMap String.utf8EncodeChar < ds.flatMap String.utf8EncodeChar := by
  induction h with
  | @nil d ds =>
    cases hd : (d :: ds).flatMap String.utf8EncodeChar with
    | nil => simp at hd
    | cons b bytes => exact List.nil_lt_cons b bytes
  | cons _ ih => exact List.append_left_lt ih
  | rel h => exact utf8EncodeChar_append_lt h _ _

/-- Texts are in the order of their bytes. -/
theorem ofText_lt_ofText {text text' : String} (h : text < text') : ofText text < ofText text' := by
  rw [ofText_eq, ofText_eq]
  exact flatMap_utf8EncodeChar_lt h

end ServiceRegistry.Bytes
