import BuildYard.Bytes
import Mathlib.Data.List.Flatten
import Mathlib.Tactic.IntervalCases

/-!
# Texts that are written in bytes read back

The bytes of a text, read again, give the text (`text?_ofString`): reading takes
off one character after another, each with the one to four bytes that it was
written in (`next_encoded`). A byte without the top bit, such as a zero or a line
feed, stands only where the text has that character (`low_mem_ofString`).
-/

set_option autoImplicit false

namespace BuildYard.Bytes

/-- A text with fewer characters has fewer bytes. -/
theorem ofString_sublist {part whole : String} (kept : part.toList.Sublist whole.toList) :
    (ofString part).Sublist (ofString whole) :=
  kept.flatMap _

/-! ## Bytes of one character -/

/-- The number of a character that is no surrogate and not above the last code point. -/
def IsCode (code : Nat) : Prop :=
  code < 0xD800 ∨ 0xDFFF < code ∧ code < 0x110000

theorem isCode_toNat (c : Char) : IsCode c.toNat :=
  c.valid

theorem isTail_ofNat (bits : Nat) : isTail (UInt8.ofNat (bits % 64 + 0x80)) = true := by
  have small : bits % 64 < 64 := Nat.mod_lt _ (by decide)
  simp only [isTail, Bool.and_eq_true, decide_eq_true_eq, UInt8.le_iff_toNat_le,
    UInt8.toNat_ofNat']
  simp
  omega

theorem shift_ofNat (front bits : Nat) :
    shift front (UInt8.ofNat (bits % 64 + 0x80)) = front * 64 + bits % 64 := by
  simp only [shift, UInt8.toNat_ofNat']
  omega

/-- The second byte of a character of three bytes. -/
theorem isSecond_three {code : Nat} (valid : IsCode code) (more : 0x7FF < code)
    (less : code ≤ 0xFFFF) :
    isSecond (UInt8.ofNat (code / 4096 % 16 + 0xE0)) (UInt8.ofNat (code / 64 % 64 + 0x80)) =
      true := by
  have tail := isTail_ofNat (code / 64)
  have front : code / 4096 % 16 = code / 4096 := Nat.mod_eq_of_lt (by omega)
  have few : code / 4096 < 16 := by omega
  rw [front, isSecond.eq_def]
  unfold IsCode at valid
  generalize equal : code / 4096 = lead at *
  interval_cases lead <;> simp_all [UInt8.le_iff_toNat_le] <;> omega

/-- The second byte of a character of four bytes. -/
theorem isSecond_four {code : Nat} (valid : IsCode code) (more : 0xFFFF < code) :
    isSecond (UInt8.ofNat (code / 262144 % 8 + 0xF0)) (UInt8.ofNat (code / 4096 % 64 + 0x80)) =
      true := by
  have tail := isTail_ofNat (code / 4096)
  unfold IsCode at valid
  have front : code / 262144 % 8 = code / 262144 := Nat.mod_eq_of_lt (by omega)
  have few : code / 262144 < 5 := by omega
  rw [front, isSecond.eq_def]
  generalize equal : code / 262144 = lead at *
  interval_cases lead <;> simp_all [UInt8.le_iff_toNat_le] <;> omega

section Next

variable {first second third fourth : UInt8} {rest : Bytes}

theorem next_one (low : first.toNat < 0x80) :
    next first rest = (some (Char.ofNat first.toNat), rest) := by
  rw [next.eq_def, if_pos (UInt8.lt_iff_toNat_lt.mpr low)]

theorem next_two (low : 0xC2 ≤ first.toNat) (high : first.toNat ≤ 0xDF)
    (tail : isTail second = true) :
    next first (second :: rest) =
      (some (Char.ofNat (shift (first.toNat % 32) second)), rest) := by
  have notOne : ¬ first < 0x80 := by
    rw [UInt8.lt_iff_toNat_lt]
    exact fun less => absurd less (by simp; omega)
  have two : (0xC2 ≤ first && first ≤ 0xDF) = true := by
    simp [UInt8.le_iff_toNat_le, low, high]
  rw [next.eq_def, if_neg notOne, if_pos two]
  simp only [tail, if_true]

theorem next_three (low : 0xE0 ≤ first.toNat) (high : first.toNat ≤ 0xEF)
    (inside : isSecond first second = true) (tail : isTail third = true) :
    next first (second :: third :: rest) =
      (some (Char.ofNat (shift (shift (first.toNat % 16) second) third)), rest) := by
  have notOne : ¬ first < 0x80 := by
    rw [UInt8.lt_iff_toNat_lt]
    exact fun less => absurd less (by simp; omega)
  have notTwo : ¬ (0xC2 ≤ first && first ≤ 0xDF) = true := by
    simp [UInt8.le_iff_toNat_le]
    omega
  have three : (0xE0 ≤ first && first ≤ 0xEF) = true := by
    simp [UInt8.le_iff_toNat_le, low, high]
  rw [next.eq_def, if_neg notOne, if_neg notTwo, if_pos three]
  simp only [inside, tail, if_true]

theorem next_four (low : 0xF0 ≤ first.toNat) (high : first.toNat ≤ 0xF4)
    (inside : isSecond first second = true) (tail : isTail third = true)
    (last : isTail fourth = true) :
    next first (second :: third :: fourth :: rest) =
      (some (Char.ofNat (shift (shift (shift (first.toNat % 8) second) third) fourth)), rest) := by
  have notOne : ¬ first < 0x80 := by
    rw [UInt8.lt_iff_toNat_lt]
    exact fun less => absurd less (by simp; omega)
  have notTwo : ¬ (0xC2 ≤ first && first ≤ 0xDF) = true := by
    simp [UInt8.le_iff_toNat_le]
    omega
  have notThree : ¬ (0xE0 ≤ first && first ≤ 0xEF) = true := by
    simp [UInt8.le_iff_toNat_le]
    omega
  have four : (0xF0 ≤ first && first ≤ 0xF4) = true := by
    simp [UInt8.le_iff_toNat_le, low, high]
  rw [next.eq_def, if_neg notOne, if_neg notTwo, if_neg notThree, if_pos four]
  simp only [inside, tail, last, if_true]

end Next

/-- **A character is read off the bytes that it is written in.** -/
theorem next_encoded (c : Char) (rest : Bytes) :
    ∃ first tail, String.utf8EncodeChar c = first :: tail ∧
      next first (tail ++ rest) = (some c, rest) := by
  have valid := isCode_toNat c
  have code : c.val.toNat = c.toNat := rfl
  have read {bits : Nat} (same : bits = c.toNat) : Char.ofNat bits = c := by
    rw [same, Char.ofNat_toNat]
  simp only [String.utf8EncodeChar, code]
  split
  · next one =>
    have lead := UInt8.toNat_ofNat_of_lt' (show c.toNat < 256 by omega)
    refine ⟨_, _, rfl, (next_one (by omega)).trans ?_⟩
    rw [lead, read rfl, List.nil_append]
  · next more =>
    split
    · next two =>
      have lead := UInt8.toNat_ofNat_of_lt' (show c.toNat / 64 % 0x20 + 0xC0 < 256 by omega)
      refine ⟨_, _, rfl, (next_two (by omega) (by omega) (isTail_ofNat _)).trans ?_⟩
      rw [lead, shift_ofNat, read (by omega)]
      rfl
    · next more =>
      split
      · next three =>
        have lead := UInt8.toNat_ofNat_of_lt' (show c.toNat / 4096 % 0x10 + 0xE0 < 256 by omega)
        refine ⟨_, _, rfl, (next_three (by omega) (by omega)
          (isSecond_three valid (by omega) three) (isTail_ofNat _)).trans ?_⟩
        rw [lead, shift_ofNat, shift_ofNat, read (by omega)]
        rfl
      · next more =>
        have lead := UInt8.toNat_ofNat_of_lt' (show c.toNat / 262144 % 0x08 + 0xF0 < 256 by omega)
        unfold IsCode at valid
        refine ⟨_, _, rfl, (next_four (by omega) (by omega)
          (isSecond_four valid (by omega)) (isTail_ofNat _) (isTail_ofNat _)).trans ?_⟩
        rw [lead, shift_ofNat, shift_ofNat, shift_ofNat, read (by omega)]
        rfl

/-! ## Texts -/

theorem pieces_encoded (chars : List Char) (before : List (Option Char)) :
    pieces before (chars.flatMap String.utf8EncodeChar) = before.reverse ++ chars.map some := by
  induction chars generalizing before with
  | nil => rw [List.flatMap_nil, pieces.eq_def, List.map_nil, List.append_nil]
  | cons c chars ih =>
    obtain ⟨first, tail, bytes, read⟩ := next_encoded c (chars.flatMap String.utf8EncodeChar)
    rw [List.flatMap_cons, bytes, List.cons_append, pieces.eq_def]
    simp only [read]
    rw [ih, List.reverse_cons, List.append_assoc]
    rfl

/-- **The bytes of a text, read again, give the text.** -/
theorem text?_ofString (text : String) : text? (ofString text) = some text := by
  have read : pieces [] (ofString text) = text.toList.map some := pieces_encoded text.toList []
  have all : (text.toList.map some).all Option.isSome = true := by simp
  simp only [text?, read, if_pos all, List.filterMap_map, Function.comp_def, id_eq,
    List.filterMap_some, String.ofList_toList]

theorem ofString_append (front back : String) :
    ofString (front ++ back) = ofString front ++ ofString back := by
  rw [ofString, String.toList_append, List.flatMap_append]
  rfl

/-- Different texts are written in different bytes. -/
theorem ofString_injective : Function.Injective ofString := by
  intro one other same
  have read := text?_ofString one
  rw [same, text?_ofString] at read
  exact (Option.some.inj read).symm

/-- A byte without the top bit is a character of its own. -/
theorem low_mem_encoded {b : UInt8} {c : Char} (low : b.toNat < 0x80)
    (inside : b ∈ String.utf8EncodeChar c) : c = Char.ofNat b.toNat := by
  have code : c.val.toNat = c.toNat := rfl
  simp only [String.utf8EncodeChar, code] at inside
  have number {bits : Nat} (same : b = UInt8.ofNat bits) : bits % 256 = b.toNat := by
    rw [same, UInt8.toNat_ofNat']
  -- only a single byte can be low: of several, each has its top bit set
  repeat' split at inside
  all_goals simp only [List.mem_cons, List.not_mem_nil, or_false] at inside
  · have same := number inside
    rw [← Char.ofNat_toNat c]
    congr 1
    omega
  · rcases inside with same | same <;> have equal := number same <;> omega
  · rcases inside with same | same | same <;> have equal := number same <;> omega
  · rcases inside with same | same | same | same <;> have equal := number same <;> omega

/-- **A text has a byte without the top bit only where it has that character.** -/
theorem low_mem_ofString {b : UInt8} {text : String} (low : b.toNat < 0x80)
    (inside : b ∈ ofString text) : Char.ofNat b.toNat ∈ text.toList := by
  obtain ⟨c, member, encoded⟩ := List.mem_flatMap.mp inside
  exact low_mem_encoded low encoded ▸ member

theorem zero_mem_ofString {text : String} (zero : 0 ∈ ofString text) :
    Char.ofNat 0 ∈ text.toList :=
  low_mem_ofString (by decide) zero

end BuildYard.Bytes
