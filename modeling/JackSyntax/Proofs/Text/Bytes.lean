/-
**Texts among bytes.**

The bytes of a text are shown as the text itself, so that different texts are shown differently.
Other bytes are shown as some text too, which may be that of other bytes; but showing adds no
character except the replacement character.  A byte that is a character by itself stands for this
character wherever it is met, and so a text that is cut at such a byte falls into texts.

Main definitions:

* `IsText` — bytes that are those of a text.

Main results:

* `lossy_bytesOf` — **the bytes of a text are shown as the text**;
* `IsText.eq_of_lossy_eq` — different texts are shown differently;
* `mem_of_mem_lossy` — a character that is shown is there, or is the replacement character;
* `ofUInt8_mem_of_mem_bytesOf` — a byte that is a character by itself stands for this character;
* `isText_of_mem_splitOn` — a text that is cut at such a byte falls into texts.
-/

import Mathlib.Data.List.TakeWhile
import Mathlib.Tactic.SplitIfs
import JackSyntax.Text.Bytes

set_option relaxedAutoImplicit false
set_option autoImplicit false

namespace JackSyntax

variable {text other : String} {bytes rest : Bytes} {c : Char} {b : UInt8}

@[simp] theorem bytesOf_empty : bytesOf "" = [] := rfl

@[simp] theorem bytesOf_append (first second : String) :
    bytesOf (first ++ second) = bytesOf first ++ bytesOf second := by
  rw [bytesOf, String.toList_append, List.flatMap_append]
  rfl

/-! ### Characters in front -/

/-- A character is found in front of whatever follows. -/
theorem frontChar?_utf8EncodeChar_append (c : Char) (rest : Bytes) :
    frontChar? (String.utf8EncodeChar c ++ rest) = some c := by
  have short : (String.utf8EncodeChar c).length ≤ 4 := by
    rw [String.length_utf8EncodeChar]
    exact c.utf8Size_le_four
  rw [frontChar?, List.take_append, List.take_of_length_le short, List.toByteArray_append]
  exact ByteArray.utf8DecodeChar?_utf8EncodeChar_append

/-- What is found in front is there. -/
theorem exists_of_frontChar?_eq_some (h : frontChar? bytes = some c) :
    ∃ rest, bytes = String.utf8EncodeChar c ++ rest := by
  obtain ⟨others, front⟩ := ByteArray.exists_of_utf8DecodeChar?_eq_some h
  have first : bytes.take 4 = String.utf8EncodeChar c ++ others.data.toList := by
    have lists := congrArg (fun array => array.data.toList) front
    simpa using lists
  refine ⟨others.data.toList ++ bytes.drop 4, ?_⟩
  rw [← List.append_assoc, ← first, List.take_append_drop]

/-! ### Bytes as they are shown -/

/-- Some bytes are left out before anything is shown. -/
theorem shownAfter_eq_drop (n : Nat) (bytes : Bytes) :
    shownAfter n bytes = shownAfter 0 (bytes.drop n) := by
  induction bytes generalizing n with
  | nil => simp [shownAfter]
  | cons byte bytes ih =>
      cases n with
      | zero => rfl
      | succ n => rw [shownAfter, ih, List.drop_succ_cons]

/-- A character in front is shown first. -/
theorem shownAfter_utf8EncodeChar_append (c : Char) (rest : Bytes) :
    shownAfter 0 (String.utf8EncodeChar c ++ rest) = c :: shownAfter 0 rest := by
  have found := frontChar?_utf8EncodeChar_append c rest
  have size := String.length_utf8EncodeChar c
  obtain ⟨byte, others, encoded⟩ :=
    List.exists_cons_of_ne_nil (String.utf8EncodeChar_ne_nil (c := c))
  rw [encoded, List.length_cons] at size
  rw [encoded, List.cons_append] at found ⊢
  rw [shownAfter, found]
  dsimp only
  rw [shownAfter_eq_drop, ← size, Nat.add_sub_cancel, List.drop_left]

theorem shownAfter_flatMap (chars : List Char) :
    shownAfter 0 (chars.flatMap String.utf8EncodeChar) = chars := by
  induction chars with
  | nil => rfl
  | cons c chars ih => rw [List.flatMap_cons, shownAfter_utf8EncodeChar_append, ih]

/-- **The bytes of a text are shown as the text.** -/
@[simp] theorem lossy_bytesOf (text : String) : lossy (bytesOf text) = text := by
  rw [lossy, bytesOf, shownAfter_flatMap, String.ofList_toList]

theorem bytesOf_inj : bytesOf text = bytesOf other ↔ text = other :=
  ⟨fun same => by rw [← lossy_bytesOf text, same, lossy_bytesOf], congrArg bytesOf⟩

/-- A character that is shown is there, or is the replacement character. -/
theorem mem_of_mem_shownAfter {n : Nat} (h : c ∈ shownAfter n bytes) :
    c = replacement ∨ ∀ b ∈ String.utf8EncodeChar c, b ∈ bytes := by
  induction bytes generalizing n with
  | nil => simp [shownAfter] at h
  | cons byte bytes ih =>
      have later {n : Nat} (h : c ∈ shownAfter n bytes) :
          c = replacement ∨ ∀ b ∈ String.utf8EncodeChar c, b ∈ byte :: bytes :=
        (ih h).imp_right fun all b inside => List.mem_cons_of_mem _ (all b inside)
      cases n with
      | succ n => exact later h
      | zero =>
          rw [shownAfter] at h
          split at h
          · rename_i found
            rcases List.mem_cons.1 h with rfl | h
            · obtain ⟨rest, whole⟩ := exists_of_frontChar?_eq_some found
              exact Or.inr fun b inside => whole ▸ List.mem_append_left _ inside
            · exact later h
          · rcases List.mem_cons.1 h with rfl | h
            · exact Or.inl rfl
            · exact later h

theorem mem_of_mem_lossy (h : c ∈ (lossy bytes).toList) :
    c = replacement ∨ ∀ b ∈ String.utf8EncodeChar c, b ∈ bytes := by
  rw [lossy, String.toList_ofList] at h
  exact mem_of_mem_shownAfter h

/-- Bytes without a slash are shown without one. -/
theorem slash_not_mem_lossy {bytes : Bytes} (clean : slash ∉ bytes) :
    '/' ∉ (lossy bytes).toList := by
  intro shown
  rcases mem_of_mem_lossy shown with impossible | all
  · exact absurd impossible (by decide)
  · exact clean (all slash (by decide))

/-! ### Bytes that are characters by themselves -/

/-- A byte that is a character by itself is part of no other. -/
theorem utf8EncodeChar_eq_of_mem (ascii : b < 0x80) (h : b ∈ String.utf8EncodeChar c) :
    String.utf8EncodeChar c = [b] ∧ c = Char.ofUInt8 b := by
  have small : b.toNat < 128 := UInt8.lt_iff_toNat_lt.1 ascii
  simp only [String.utf8EncodeChar] at h ⊢
  split_ifs at h ⊢ with one two three
  · obtain rfl := List.mem_singleton.1 h
    refine ⟨rfl, Char.ext (UInt32.toNat_inj.1 ?_)⟩
    change _ = (UInt8.toUInt32 _).toNat
    rw [UInt8.toNat_toUInt32, UInt8.toNat_ofNat']
    omega
  all_goals
    exfalso
    simp only [List.mem_cons, List.not_mem_nil, or_false] at h
    rcases h with rfl | rfl | rfl | rfl <;> simp only [UInt8.toNat_ofNat'] at small <;> omega

/-- A byte that is a character by itself stands for this character in a text. -/
theorem ofUInt8_mem_of_mem_bytesOf (ascii : b < 0x80) (h : b ∈ bytesOf text) :
    Char.ofUInt8 b ∈ text.toList := by
  obtain ⟨c, inside, h⟩ := List.mem_flatMap.1 h
  rw [← (utf8EncodeChar_eq_of_mem ascii h).2]
  exact inside

/-! ### Texts -/

/-- Bytes that are those of a text. -/
def IsText (bytes : Bytes) : Prop := ∃ text, bytes = bytesOf text

theorem isText_bytesOf (text : String) : IsText (bytesOf text) := ⟨text, rfl⟩

theorem IsText.bytesOf_lossy (h : IsText bytes) : bytesOf (lossy bytes) = bytes := by
  obtain ⟨text, rfl⟩ := h
  rw [lossy_bytesOf]

/-- Different texts are shown differently. -/
theorem IsText.eq_of_lossy_eq {others : Bytes} (h : IsText bytes) (h' : IsText others)
    (same : lossy bytes = lossy others) : bytes = others := by
  rw [← h.bytesOf_lossy, same, h'.bytesOf_lossy]

/-- A text that is cut at a byte that is a character by itself falls into two texts. -/
theorem isText_of_append_cons {before after : Bytes} (ascii : b < 0x80)
    (h : IsText (before ++ b :: after)) : IsText before ∧ IsText after := by
  obtain ⟨text, whole⟩ := h
  rw [bytesOf] at whole
  -- the cut is behind some characters of the text, in front of the character of this byte
  suffices cut : ∀ (chars : List Char) (before : Bytes),
      before ++ b :: after = chars.flatMap String.utf8EncodeChar → IsText before ∧ IsText after from
    cut _ _ whole
  intro chars
  induction chars with
  | nil => exact fun before whole => absurd whole (by simp)
  | cons c chars ih =>
      intro before whole
      rw [List.flatMap_cons] at whole
      rcases List.append_eq_append_iff.1 whole with ⟨late, front, back⟩ | ⟨late, front, back⟩
      · cases late with
        | nil =>
            rw [List.append_nil] at front
            obtain ⟨-, texts⟩ := ih [] back
            refine ⟨⟨String.singleton c, ?_⟩, texts⟩
            simp [bytesOf, front]
        | cons byte late =>
            obtain ⟨rfl, rest⟩ := List.cons_eq_cons.1 back
            have single := (utf8EncodeChar_eq_of_mem ascii (front ▸ List.mem_append_right _
              List.mem_cons_self)).1
            rw [single] at front
            obtain rfl : before = [] := by
              cases before with
              | nil => rfl
              | cons first before => simp at front
            obtain rfl : late = [] := by simpa using front
            exact ⟨⟨"", rfl⟩, String.ofList chars, by simpa [bytesOf] using rest⟩
      · obtain ⟨⟨first, rfl⟩, texts⟩ := ih late back.symm
        refine ⟨⟨String.singleton c ++ first, ?_⟩, texts⟩
        rw [front, bytesOf_append]
        simp [bytesOf]

/-- A text that is cut at a byte that is a character by itself falls into texts. -/
theorem isText_of_mem_splitOn (ascii : b < 0x80) (h : IsText bytes) {piece : Bytes}
    (inside : piece ∈ bytes.splitOn b) : IsText piece := by
  induction size : bytes.length using Nat.strong_induction_on generalizing bytes with
  | _ n ih =>
      by_cases cut : b ∈ bytes
      · obtain ⟨before, after, rfl⟩ := List.append_of_mem cut
        obtain ⟨first, second⟩ := isText_of_append_cons ascii h
        rw [List.length_append, List.length_cons] at size
        rw [List.splitOn_append_cons_self] at inside
        rcases List.mem_append.1 inside with inside | inside
        · exact ih before.length (by omega) first inside rfl
        · exact ih after.length (by omega) second inside rfl
      · rw [List.splitOn_eq_singleton cut] at inside
        exact List.mem_singleton.1 inside ▸ h

end JackSyntax
