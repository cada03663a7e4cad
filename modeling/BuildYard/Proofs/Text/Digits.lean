import BuildYard.Text.Digits
import Mathlib.Tactic.IntervalCases

/-!
# Numbers that are written read back

The digits of a number, read again, give the number, and zeros in front do not
matter (`natFrom?_padded`). Different numbers are therefore written differently,
however they are padded.
-/

set_option autoImplicit false

namespace BuildYard.Text

/-- Reading goes on with what the digits in front stand for. -/
theorem natFrom?_append (base value : Nat) (front back : List Char) :
    natFrom? base value (front ++ back) =
      (natFrom? base value front).bind fun read => natFrom? base read back := by
  induction front generalizing value with
  | nil => rfl
  | cons c front ih =>
    simp only [List.cons_append, natFrom?]
    cases digit? c with
    | none => rfl
    | some d =>
      by_cases digit : d < base
      · simp only [if_pos digit]
        exact ih _
      · simp only [if_neg digit]
        rfl

theorem digit?_digitChar {d : Nat} (digit : d < 16) : digit? (digitChar d) = some d := by
  interval_cases d <;> rfl

theorem natFrom?_digitChar {value d : Nat} (digit : d < 10) :
    natFrom? 10 value [digitChar d] = some (value * 10 + d) := by
  simp only [natFrom?, digit?_digitChar (Nat.lt_of_lt_of_le digit (by decide)), if_pos digit]

theorem natFrom?_zeros (count : Nat) :
    natFrom? 10 0 (List.replicate count '0') = some 0 := by
  induction count with
  | zero => rfl
  | succ count ih => exact ih

/-- **The shortest digits of a number stand for it.** -/
theorem natFrom?_shortest {fuel n : Nat} (enough : n < fuel) :
    natFrom? 10 0 (shortest 10 fuel n) = some n := by
  induction fuel generalizing n with
  | zero => exact absurd enough (Nat.not_lt_zero n)
  | succ fuel ih =>
    rw [shortest]
    by_cases digit : n < 10
    · rw [if_pos digit, natFrom?_digitChar digit, Nat.zero_mul, Nat.zero_add]
    · have fewer : n / 10 < fuel := by omega
      have last : n % 10 < 10 := Nat.mod_lt n (by decide)
      rw [if_neg digit, natFrom?_append, ih fewer]
      refine (natFrom?_digitChar last).trans (congrArg some ?_)
      omega

theorem natFrom?_padded (width n : Nat) : natFrom? 10 0 (padded width n).toList = some n := by
  rw [padded, String.toList_ofList, natFrom?_append, natFrom?_zeros]
  exact natFrom?_shortest (Nat.lt_succ_self n)

/-- **Different numbers are written differently.** -/
theorem padded_injective (width : Nat) : Function.Injective (padded width) := by
  intro m n same
  have read := natFrom?_padded width m
  rw [same, natFrom?_padded] at read
  exact (Option.some.inj read).symm

/-! ## Numbers of a fixed width -/

theorem natFrom?_fixed {base : Nat} (some : 0 < base) (few : base ≤ 16) (width n : Nat) :
    natFrom? base 0 (fixed base width n) = .some (n % base ^ width) := by
  induction width generalizing n with
  | zero => rw [fixed, natFrom?, Nat.pow_zero, Nat.mod_one]
  | succ width ih =>
    have last : n % base < base := Nat.mod_lt n some
    rw [fixed, natFrom?_append, ih]
    simp only [Option.bind_some, natFrom?, digit?_digitChar (Nat.lt_of_lt_of_le last few), if_pos last]
    refine congrArg Option.some ?_
    rw [Nat.pow_succ, Nat.mul_comm (base ^ width), Nat.mod_mul, Nat.mul_comm, Nat.add_comm]

theorem length_fixed (base width n : Nat) : (fixed base width n).length = width := by
  induction width generalizing n with
  | zero => rfl
  | succ width ih => rw [fixed, List.length_append, ih, List.length_singleton]

/-- All characters of a number are digits. -/
theorem of_mem_fixed {base width n : Nat} {c : Char} (member : c ∈ fixed base width n) :
    ∃ d, c = digitChar d ∧ (0 < base → d < base) := by
  induction width generalizing n with
  | zero => cases member
  | succ width ih =>
    rcases List.mem_append.mp member with front | last
    · exact ih front
    · exact ⟨_, List.mem_singleton.mp last, Nat.mod_lt n⟩

/-! ## Numbers as they are shown -/

theorem digit?_natDigitChar {d : Nat} (digit : d < 10) : digit? d.digitChar = some d := by
  interval_cases d <;> rfl

/-- **The decimal digits of a number stand for it.** -/
theorem natFrom?_toDigits (n : Nat) : natFrom? 10 0 (Nat.toDigits 10 n) = some n := by
  induction n using Nat.strongRecOn with
  | ind n ih =>
    rw [Nat.toDigits_eq_if (by decide)]
    split
    · next digit =>
      simp only [natFrom?, digit?_natDigitChar digit, if_pos digit, Nat.zero_mul, Nat.zero_add]
    · next more =>
      have last : n % 10 < 10 := Nat.mod_lt n (by decide)
      rw [natFrom?_append, ih (n / 10) (by omega)]
      simp only [Option.bind_some, natFrom?, digit?_natDigitChar last, if_pos last]
      refine congrArg some ?_
      omega

theorem nat?_repr (n : Nat) : nat? 10 n.repr.toList = some n := by
  rw [nat?, Nat.toList_repr, if_neg (by simp [Nat.toDigits_ne_nil]), natFrom?_toDigits]

theorem nat?_minus (digits : List Char) : nat? 10 ('-' :: digits) = none :=
  rfl

end BuildYard.Text
