import BuildYard.MemoryLimit
import BuildYard.Bytes
import Mathlib.Algebra.Ring.Int.Defs
import Mathlib.Data.Nat.Digits.Defs

/-!
# Which texts are memory limits

A limit is a decimal integer of 64 bits, then perhaps the letter of a unit and
perhaps a b, all in lower case and without blanks around it (`Written`). Such a
text is taken apart in one way only, so that it stands for one number of units
and one unit (`Written.unique`), and reading finds exactly that:
`limits_are_read_exactly` says which texts are read and as what, and that everything
else is refused. Both the integer and the product have to fit.

Lower-casing matters only as far as ASCII can tell. `LowerCased` is all that is
assumed of it: outside ASCII two characters become something with a letter of
ASCII in it, the Kelvin sign and the capital I with a dot. So a limit may be
written with a Kelvin sign, and with no other character that is not ASCII.

Where a last character is cut off, it is one byte long. Cutting off the last
byte, as is done with texts in UTF-8, therefore never cuts a character apart.
-/

set_option autoImplicit false

namespace BuildYard

namespace Text

/-! ## Decimal integers -/

/-- The number that decimal digits stand for. -/
def decimal (digits : List Char) : Nat :=
  Nat.ofDigits 10 (digits.reverse.map fun c => c.toNat - '0'.toNat)

/-- Decimal digits, and at least one. -/
def IsDecimal (digits : List Char) : Prop :=
  digits ≠ [] ∧ ∀ c ∈ digits, c.isDigit = true

/-- A decimal integer as it is written: digits, perhaps with a sign in front of them. -/
inductive Numeral : List Char → Int → Prop where
  | unsigned {digits : List Char} (is : IsDecimal digits) : Numeral digits (decimal digits)
  | plus {digits : List Char} (is : IsDecimal digits) : Numeral ('+' :: digits) (decimal digits)
  | minus {digits : List Char} (is : IsDecimal digits) :
      Numeral ('-' :: digits) (-(decimal digits : Int))

/-- The signed numbers of 64 bits. -/
def Fits (n : Int) : Prop :=
  -2 ^ 63 ≤ n ∧ n < 2 ^ 63

instance (n : Int) : Decidable (Fits n) :=
  inferInstanceAs (Decidable (_ ∧ _))

theorem fitsInt64_iff {n : Int} : fitsInt64 n = true ↔ Fits n := by
  rw [fitsInt64, Bool.and_eq_true, decide_eq_true_iff, decide_eq_true_iff, minInt64, maxInt64, Fits]
  omega

theorem decimal_cons (c : Char) (digits : List Char) :
    decimal (c :: digits) = (c.toNat - '0'.toNat) * 10 ^ digits.length + decimal digits := by
  rw [decimal, List.reverse_cons, List.map_append, Nat.ofDigits_append, List.map_singleton,
    Nat.ofDigits_singleton, List.length_map, List.length_reverse, Nat.add_comm, Nat.mul_comm]
  rfl

theorem isDigit_iff {c : Char} : c.isDigit = true ↔ 48 ≤ c.toNat ∧ c.toNat ≤ 57 := by
  simp only [Char.isDigit, Bool.and_eq_true, decide_eq_true_eq, ge_iff_le, UInt32.le_iff_toNat_le]
  exact Iff.rfl

theorem digit?_of_isDigit {c : Char} (digit : c.isDigit = true) :
    digit? c = some (c.toNat - 48) := by
  have range := isDigit_iff.mp digit
  rw [digit?]
  simp only [decide_eq_true range.1, decide_eq_true range.2, Bool.and_self, if_true]

theorem isDigit_of_digit? {c : Char} {d : Nat} (read : digit? c = some d) (less : d < 10) :
    c.isDigit = true := by
  rw [isDigit_iff]
  simp only [digit?, Bool.and_eq_true, decide_eq_true_eq] at read
  split at read
  · assumption
  · split at read
    · obtain rfl := Option.some.inj read
      omega
    · split at read
      · obtain rfl := Option.some.inj read
        omega
      · cases read

/-- **Reading goes over digits only**, and each counts for ten times what follows it. -/
theorem natFrom?_eq_some_iff {value n : Nat} {cs : List Char} :
    natFrom? 10 value cs = some n ↔
      (∀ c ∈ cs, c.isDigit = true) ∧ n = value * 10 ^ cs.length + decimal cs := by
  induction cs generalizing value with
  | nil =>
    have zero : decimal [] = 0 := rfl
    simp only [natFrom?, zero, List.length_nil, Nat.pow_zero, Nat.mul_one, Nat.add_zero,
      Option.some.injEq, List.not_mem_nil, false_implies, implies_true, true_and]
    exact eq_comm
  | cons c cs ih =>
    rw [List.forall_mem_cons]
    by_cases digit : c.isDigit = true
    · have less : c.toNat - 48 < 10 := by
        have range := isDigit_iff.mp digit
        omega
      have shifted : (value * 10 + (c.toNat - 48)) * 10 ^ cs.length + decimal cs =
          value * 10 ^ (c :: cs).length + decimal (c :: cs) := by
        rw [decimal_cons, List.length_cons, Nat.pow_succ', Nat.add_mul, Nat.mul_assoc, Nat.add_assoc]
        rfl
      simp only [natFrom?, digit?_of_isDigit digit, if_pos less, ih, shifted, digit, true_and]
    · refine iff_of_false (fun read => ?_) fun all => digit all.1.1
      simp only [natFrom?] at read
      cases found : digit? c with
      | none => simp [found] at read
      | some d =>
        by_cases less : d < 10
        · exact digit (isDigit_of_digit? found less)
        · simp [found, less] at read

theorem nat?_eq_some_iff {n : Nat} {cs : List Char} :
    nat? 10 cs = some n ↔ IsDecimal cs ∧ n = decimal cs := by
  rw [nat?, IsDecimal]
  cases cs with
  | nil => simp
  | cons c cs =>
    rw [if_neg (by simp), natFrom?_eq_some_iff, Nat.zero_mul, Nat.zero_add]
    simp

theorem IsDecimal.head {c : Char} {cs : List Char} (is : IsDecimal (c :: cs)) : c.isDigit = true :=
  is.2 c List.mem_cons_self

/-- Digits as an integer, once they are read. -/
theorem map_nat?_eq_some_iff {sign : Nat → Int} {n : Int} {cs : List Char} :
    (nat? 10 cs).map sign = some n ↔ IsDecimal cs ∧ sign (decimal cs) = n := by
  rw [Option.map_eq_some_iff]
  constructor
  · rintro ⟨m, read, rfl⟩
    obtain ⟨is, rfl⟩ := nat?_eq_some_iff.mp read
    exact ⟨is, rfl⟩
  · rintro ⟨is, rfl⟩
    exact ⟨_, nat?_eq_some_iff.mpr ⟨is, rfl⟩, rfl⟩

theorem bind_fits_eq_some_iff {found : Option Int} {n : Int} :
    (found.bind fun n => if fitsInt64 n then some n else none) = some n ↔
      found = some n ∧ Fits n := by
  cases found with
  | none => simp
  | some m =>
    rw [Option.bind_some, ← fitsInt64_iff]
    by_cases fits : fitsInt64 m = true
    · rw [if_pos fits, Option.some.injEq]
      exact ⟨fun same => ⟨same, same ▸ fits⟩, And.left⟩
    · rw [if_neg fits]
      refine iff_of_false nofun ?_
      rintro ⟨⟨⟩, other⟩
      exact fits other

/-- **Which texts are read as integers**: those that are written as one, if it fits. -/
theorem int64?_eq_some_iff {n : Int} {cs : List Char} :
    int64? cs = some n ↔ Numeral cs n ∧ Fits n := by
  rw [int64?.eq_def, bind_fits_eq_some_iff]
  refine and_congr_left fun _ => ?_
  split
  · next rest =>
    have negated : ((nat? 10 rest >>= fun m => pure (m : Int)).map fun m => -m) =
        (nat? 10 rest).map fun m : Nat => -(m : Int) := by
      cases nat? 10 rest <;> rfl
    refine (iff_of_eq (congrArg (· = some n) negated)).trans (map_nat?_eq_some_iff.trans ?_)
    constructor
    · rintro ⟨is, rfl⟩
      exact .minus is
    · intro numeral
      cases numeral with
      | unsigned is => exact absurd is.head (by decide)
      | minus is => exact ⟨is, rfl⟩
  · next rest =>
    refine map_nat?_eq_some_iff.trans ?_
    constructor
    · rintro ⟨is, rfl⟩
      exact .plus is
    · intro numeral
      cases numeral with
      | unsigned is => exact absurd is.head (by decide)
      | plus is => exact ⟨is, rfl⟩
  · next minus plus =>
    refine map_nat?_eq_some_iff.trans ?_
    constructor
    · rintro ⟨is, rfl⟩
      exact .unsigned is
    · intro numeral
      cases numeral with
      | unsigned is => exact ⟨is, rfl⟩
      | plus is => exact absurd rfl (plus _)
      | minus is => exact absurd rfl (minus _)

/-- An integer ends with a digit. -/
theorem Numeral.last {cs : List Char} {n : Int} (numeral : Numeral cs n) :
    ∃ front digit, cs = front ++ [digit] ∧ digit.isDigit = true := by
  have ended {digits : List Char} (is : IsDecimal digits) :
      ∃ front digit, digits = front ++ [digit] ∧ digit.isDigit = true := by
    obtain ⟨front, digit, rfl⟩ := (List.eq_nil_or_concat digits).resolve_left is.1
    rw [List.concat_eq_append] at is ⊢
    exact ⟨front, digit, rfl, is.2 digit (List.mem_append_right _ (List.mem_singleton_self _))⟩
  cases numeral with
  | unsigned is => exact ended is
  | plus is =>
    obtain ⟨front, digit, rfl, digits⟩ := ended is
    exact ⟨'+' :: front, digit, rfl, digits⟩
  | minus is =>
    obtain ⟨front, digit, rfl, digits⟩ := ended is
    exact ⟨'-' :: front, digit, rfl, digits⟩

/-- A text is written for one integer only. -/
theorem Numeral.unique {cs : List Char} {n m : Int} (first : Numeral cs n) (second : Numeral cs m) :
    n = m := by
  cases first with
  | unsigned is =>
    cases second with
    | unsigned => rfl
    | plus => exact absurd is.head (by decide)
    | minus => exact absurd is.head (by decide)
  | plus =>
    cases second with
    | unsigned is => exact absurd is.head (by decide)
    | plus => rfl
  | minus =>
    cases second with
    | unsigned is => exact absurd is.head (by decide)
    | minus => rfl

/-- An integer is below zero if it begins with a minus sign and is not zero. -/
theorem Numeral.neg_iff {cs : List Char} {n : Int} (numeral : Numeral cs n) :
    n < 0 ↔ cs.head? = some '-' ∧ n ≠ 0 := by
  cases numeral with
  | unsigned is =>
    refine iff_of_false (Int.not_lt.mpr (Int.natCast_nonneg _)) ?_
    rintro ⟨first, -⟩
    obtain ⟨rest, rfl⟩ := List.head?_eq_some_iff.mp first
    exact absurd is.head (by decide)
  | plus is => exact iff_of_false (Int.not_lt.mpr (Int.natCast_nonneg _)) nofun
  | minus is =>
    rw [List.head?_cons, and_iff_right rfl]
    omega

/-! ## Lower case -/

/-- What lower-casing may make of a character. Of what is not ASCII it is only said that it stays
so, but for the two characters of which a letter of ASCII becomes a part. -/
inductive Lowers : Char → List Char → Prop where
  | ascii {c : Char} (ascii : c.toNat < 128) : Lowers c [c.toLower]
  | dotted : Lowers (Char.ofNat 0x130) ['i', Char.ofNat 0x307]
  | kelvin : Lowers (Char.ofNat 0x212A) ['k']
  | other {c : Char} {lower : List Char} (outside : 128 ≤ c.toNat) (undotted : c ≠ Char.ofNat 0x130)
      (unkelvin : c ≠ Char.ofNat 0x212A) (some : lower ≠ []) (stays : ∀ d ∈ lower, 128 ≤ d.toNat) :
      Lowers c lower

/-- A text in lower case, as far as ASCII can tell: that of its characters one after another. -/
inductive LowerCased : List Char → List Char → Prop where
  | nil : LowerCased [] []
  | cons {c : Char} {piece cs lower : List Char} (here : Lowers c piece)
      (later : LowerCased cs lower) : LowerCased (c :: cs) (piece ++ lower)

theorem lowers_foldChar (c : Char) : Lowers c (foldChar c) := by
  have named {code : Nat} (same : c.toNat = code) : c = Char.ofNat code := by
    rw [← same, Char.ofNat_toNat]
  rw [foldChar]
  by_cases dotted : c.toNat = 0x130
  · rw [if_pos (beq_iff_eq.mpr dotted), named dotted]
    exact .dotted
  · rw [if_neg (by simpa using dotted)]
    by_cases kelvin : c.toNat = 0x212A
    · rw [if_pos (beq_iff_eq.mpr kelvin), named kelvin]
      exact .kelvin
    · rw [if_neg (by simpa using kelvin)]
      by_cases ascii : c.toNat < 128
      · exact .ascii ascii
      · have outside : 128 ≤ c.toNat := Nat.le_of_not_lt ascii
        have same : c.toLower = c := by
          refine dif_neg ?_
          rintro ⟨-, less⟩
          exact ascii (Nat.lt_of_le_of_lt (UInt32.le_iff_toNat_le.mp less) (by decide))
        rw [same]
        refine .other outside ?_ ?_ (List.cons_ne_nil _ _) (List.forall_mem_singleton.mpr outside)
        · rintro rfl
          exact dotted rfl
        · rintro rfl
          exact kelvin rfl

/-- **Folding is lower-casing.** -/
theorem lowerCased_fold (cs : List Char) : LowerCased cs (fold cs) := by
  induction cs with
  | nil => exact .nil
  | cons c cs ih => exact .cons (lowers_foldChar c) ih

theorem toLower_eq_minus_iff {c : Char} : c.toLower = '-' ↔ c = '-' := by
  unfold Char.toLower
  split
  · next upper =>
    have low : 65 ≤ c.val := upper.1
    refine iff_of_false (fun same => ?_) ?_
    · have shifted : c.val + 32 = 45 := congrArg Char.val same
      grind
    · rintro rfl
      exact absurd low (by decide)
  · exact Iff.rfl

/-- A minus sign has no other case, and no character becomes one. -/
theorem head?_fold_minus {cs : List Char} :
    (fold cs).head? = some '-' ↔ cs.head? = some '-' := by
  cases cs with
  | nil => exact Iff.rfl
  | cons c cs =>
    rw [fold, List.flatMap_cons, List.head?_cons, Option.some.injEq]
    have lowers := lowers_foldChar c
    generalize foldChar c = piece at lowers
    cases lowers with
    | ascii => simpa using toLower_eq_minus_iff
    | dotted => exact iff_of_false nofun nofun
    | kelvin => exact iff_of_false nofun nofun
    | other outside _ _ some stays =>
      obtain ⟨d, rest, rfl⟩ := List.exists_cons_of_ne_nil some
      refine iff_of_false ?_ ?_
      · rintro ⟨⟩
        exact absurd (stays _ List.mem_cons_self) (by decide)
      · rintro rfl
        exact absurd outside (by decide)

theorem Lowers.eq_of_ascii {c : Char} {piece piece' : List Char} (first : Lowers c piece)
    (second : Lowers c piece') (ascii : ∀ d ∈ piece, d.toNat < 128) : piece' = piece := by
  cases first with
  | ascii low =>
    cases second with
    | ascii => rfl
    | dotted => exact absurd low (by decide)
    | kelvin => exact absurd low (by decide)
    | other outside => exact absurd low (Nat.not_lt.mpr outside)
  | dotted => exact absurd (ascii _ (List.mem_cons_of_mem _ (List.mem_singleton_self _))) (by decide)
  | kelvin =>
    generalize same : Char.ofNat 0x212A = c at second
    cases second with
    | ascii low => exact absurd low (same ▸ by decide)
    | dotted => exact absurd same (by decide)
    | kelvin => rfl
    | other _ _ unkelvin => exact absurd same.symm unkelvin
  | other _ _ _ some stays =>
    obtain ⟨d, member⟩ := List.exists_mem_of_ne_nil _ some
    exact absurd (ascii d member) (Nat.not_lt.mpr (stays d member))

/-- **A text whose lower case is ASCII has no other lower case.** -/
theorem LowerCased.eq_of_ascii {cs lower lower' : List Char} (first : LowerCased cs lower)
    (second : LowerCased cs lower') (ascii : ∀ d ∈ lower, d.toNat < 128) : lower' = lower := by
  induction first generalizing lower' with
  | nil =>
    cases second
    rfl
  | cons here later ih =>
    obtain ⟨front, back⟩ := List.forall_mem_append.mp ascii
    cases second with
    | cons here' later' => rw [here.eq_of_ascii here' front, ih later' back]

end Text

namespace MemoryLimit

open Text

/-! ## Limits -/

/-- What stands for a unit behind a number, and its number of bytes. -/
inductive UnitOf : List Char → Int → Prop where
  | byte : UnitOf [] 1
  | kilo : UnitOf ['k'] (2 ^ 10)
  | mega : UnitOf ['m'] (2 ^ 20)
  | giga : UnitOf ['g'] (2 ^ 30)

/-- A limit without the b at its end: so many units of so many bytes. -/
inductive Counted : List Char → Int → Int → Prop where
  | intro {number unit : List Char} {n factor : Int} (numeral : Numeral number n)
      (unitOf : UnitOf unit factor) : Counted (number ++ unit) n factor

/-- A limit as it is written in lower case, whether or not the number of bytes fits. -/
inductive Written : List Char → Int → Int → Prop where
  | plain {cs : List Char} {n factor : Int} (counted : Counted cs n factor) : Written cs n factor
  | marked {cs : List Char} {n factor : Int} (counted : Counted cs n factor) :
      Written (cs ++ ['b']) n factor

section Limits

variable {cs number unit : List Char} {c : Char} {n m factor factor' : Int}

theorem unit?_eq_some_iff : unit? c = some factor ↔ UnitOf [c] factor := by
  constructor
  · intro found
    unfold unit? at found
    split at found
    · cases found
      exact .kilo
    · cases found
      exact .mega
    · cases found
      exact .giga
    · cases found
  · intro unitOf
    cases unitOf <;> rfl

theorem unit?_of_isDigit (digit : c.isDigit = true) : unit? c = none := by
  cases found : unit? c with
  | none => rfl
  | some factor =>
    cases unit?_eq_some_iff.mp found <;> cases digit

theorem scaled?_eq_some_iff {v : Int} :
    scaled? n factor = some v ↔ Fits (n * factor) ∧ v = n * factor := by
  rw [scaled?, ← fitsInt64_iff]
  by_cases fits : fitsInt64 (n * factor) = true
  · rw [if_pos fits, Option.some.injEq, eq_comm]
    exact (and_iff_right fits).symm
  · rw [if_neg fits]
    exact iff_of_false nofun fun both => fits both.1

/-- The last character of a counted text is a digit or the letter of the unit. -/
theorem Counted.last (counted : Counted cs n factor) :
    ∃ front c, cs = front ++ [c] ∧
      (c.isDigit = true ∧ Numeral cs n ∧ factor = 1 ∨ UnitOf [c] factor ∧ Numeral front n) := by
  cases counted with
  | @intro number unit _ _ numeral unitOf =>
    cases unitOf with
    | byte =>
      rw [List.append_nil]
      obtain ⟨front, digit, same, digits⟩ := numeral.last
      exact ⟨front, digit, same, .inl ⟨digits, numeral, rfl⟩⟩
    | kilo => exact ⟨number, 'k', rfl, .inr ⟨.kilo, numeral⟩⟩
    | mega => exact ⟨number, 'm', rfl, .inr ⟨.mega, numeral⟩⟩
    | giga => exact ⟨number, 'g', rfl, .inr ⟨.giga, numeral⟩⟩

theorem Counted.of_concat {front : List Char} (counted : Counted (front ++ [c]) n factor) :
    c.isDigit = true ∧ Numeral (front ++ [c]) n ∧ factor = 1 ∨
      UnitOf [c] factor ∧ Numeral front n := by
  obtain ⟨front', c', same, last⟩ := counted.last
  obtain ⟨rfl, single⟩ := List.append_inj' same rfl
  obtain rfl := List.singleton_inj.mp single
  exact last

/-- A text counts one number of units of one size. -/
theorem Counted.unique (first : Counted cs n factor) (second : Counted cs m factor') :
    n = m ∧ factor = factor' := by
  obtain ⟨front, c, rfl, one⟩ := first.last
  rcases one with ⟨digit, numeral, rfl⟩ | ⟨unit, numeral⟩ <;>
    rcases second.of_concat with ⟨digit', numeral', rfl⟩ | ⟨unit', numeral'⟩
  · exact ⟨numeral.unique numeral', rfl⟩
  · exact absurd ((unit?_of_isDigit digit).symm.trans (unit?_eq_some_iff.mpr unit')) nofun
  · exact absurd ((unit?_of_isDigit digit').symm.trans (unit?_eq_some_iff.mpr unit)) nofun
  · refine ⟨numeral.unique numeral', ?_⟩
    exact Option.some.inj
      ((unit?_eq_some_iff.mpr unit).symm.trans (unit?_eq_some_iff.mpr unit'))

theorem Counted.last_ne (counted : Counted cs n factor) : cs.getLast? ≠ some 'b' := by
  obtain ⟨front, c, rfl, last⟩ := counted.last
  rw [List.getLast?_concat]
  rintro ⟨⟩
  rcases last with ⟨digit, -⟩ | ⟨unit, -⟩
  · cases digit
  · cases unit

/-- Without the b at its end a limit is counted. -/
theorem written_iff : Written cs n factor ↔ Counted (dropByteMark cs) n factor := by
  constructor
  · intro written
    cases written with
    | plain counted => rwa [dropByteMark, if_neg counted.last_ne]
    | marked counted => rwa [dropByteMark, if_pos List.getLast?_concat, List.dropLast_concat]
  · intro counted
    rw [dropByteMark] at counted
    split at counted
    · next marked =>
      obtain ⟨front, rfl⟩ := List.getLast?_eq_some_iff.mp marked
      rw [List.dropLast_concat] at counted
      exact .marked counted
    · exact .plain counted

/-- **A limit is taken apart in one way only.** -/
theorem Written.unique (first : Written cs n factor) (second : Written cs m factor') :
    n = m ∧ factor = factor' :=
  (written_iff.mp first).unique (written_iff.mp second)

theorem Counted.ascii (counted : Counted cs n factor) : ∀ c ∈ cs, c.toNat < 128 := by
  have digits {digits : List Char} (is : IsDecimal digits) : ∀ c ∈ digits, c.toNat < 128 :=
    fun c member => Nat.lt_of_le_of_lt (isDigit_iff.mp (is.2 c member)).2 (by decide)
  cases counted with
  | intro numeral unitOf =>
    refine List.forall_mem_append.mpr ⟨?_, ?_⟩
    · cases numeral with
      | unsigned is => exact digits is
      | plus is => exact List.forall_mem_cons.mpr ⟨by decide, digits is⟩
      | minus is => exact List.forall_mem_cons.mpr ⟨by decide, digits is⟩
    · cases unitOf with
      | byte => exact List.forall_mem_nil _
      | kilo => exact List.forall_mem_singleton.mpr (by decide)
      | mega => exact List.forall_mem_singleton.mpr (by decide)
      | giga => exact List.forall_mem_singleton.mpr (by decide)

/-- Every character of a limit in lower case is ASCII. -/
theorem Written.ascii (written : Written cs n factor) : ∀ c ∈ cs, c.toNat < 128 := by
  cases written with
  | plain counted => exact counted.ascii
  | marked counted =>
    exact List.forall_mem_append.mpr ⟨counted.ascii, List.forall_mem_singleton.mpr (by decide)⟩

theorem Counted.ne_nil (counted : Counted cs n factor) : cs ≠ [] := by
  obtain ⟨front, c, rfl, -⟩ := counted.last
  exact List.append_ne_nil_of_right_ne_nil front (List.cons_ne_nil c [])

theorem Written.ne_nil (written : Written cs n factor) : cs ≠ [] := by
  cases written with
  | plain counted => exact counted.ne_nil
  | marked => exact List.append_ne_nil_of_right_ne_nil _ (List.cons_ne_nil _ _)

end Limits

/-! ## Reading -/

section Reading

variable {text : String} {lower : List Char} {v : Int}

/-- Both numbers fit, and the second is what is read. -/
def Amounts (n factor v : Int) : Prop :=
  Fits n ∧ Fits (n * factor) ∧ v = n * factor

theorem parse?_eq_some_iff_fold :
    parse? text = some v ↔
      ∃ n factor, Written (fold (strip text.toList)) n factor ∧ Amounts n factor v := by
  simp only [parse?, written_iff]
  generalize dropByteMark (fold (strip text.toList)) = cs
  rcases List.eq_nil_or_concat cs with rfl | ⟨front, c, rfl⟩
  · refine iff_of_false nofun ?_
    rintro ⟨n, factor, counted, -⟩
    exact counted.ne_nil rfl
  · simp only [List.concat_eq_append, List.getLast?_concat, List.dropLast_concat]
    cases found : unit? c with
    | some factor =>
      have unit := unit?_eq_some_iff.mp found
      simp only [Option.bind_eq_some_iff, int64?_eq_some_iff, scaled?_eq_some_iff]
      constructor
      · rintro ⟨n, ⟨numeral, fits⟩, product⟩
        exact ⟨n, factor, .intro numeral unit, fits, product⟩
      · rintro ⟨n, factor', counted, fits, product⟩
        rcases counted.of_concat with ⟨digit, -⟩ | ⟨unit', numeral⟩
        · cases found.symm.trans (unit?_of_isDigit digit)
        · obtain rfl := Option.some.inj (found.symm.trans (unit?_eq_some_iff.mpr unit'))
          exact ⟨n, ⟨numeral, fits⟩, product⟩
    | none =>
      simp only [int64?_eq_some_iff]
      constructor
      · rintro ⟨numeral, fits⟩
        have counted : Counted (front ++ [c]) v 1 := by
          rw [← List.append_nil (front ++ [c])]
          exact .intro numeral .byte
        exact ⟨v, 1, counted, fits, (Int.mul_one v).symm ▸ fits, (Int.mul_one v).symm⟩
      · rintro ⟨n, factor, counted, fits, -, rfl⟩
        rcases counted.of_concat with ⟨-, numeral, rfl⟩ | ⟨unit, -⟩
        · rw [Int.mul_one]
          exact ⟨numeral, fits⟩
        · cases found.symm.trans (unit?_eq_some_iff.mpr unit)

/-- Whatever else lower-casing does, it leaves the same limits. -/
theorem written_lower_iff {cs : List Char} {n factor : Int} (lowered : LowerCased cs lower) :
    Written lower n factor ↔ Written (fold cs) n factor := by
  constructor
  · intro written
    rwa [lowered.eq_of_ascii (lowerCased_fold cs) written.ascii]
  · intro written
    rwa [(lowerCased_fold cs).eq_of_ascii lowered written.ascii]

/-- **Which texts are read as limits**, whatever else lower-casing does. -/
theorem parse?_eq_some_iff (lowered : LowerCased (strip text.toList) lower) :
    parse? text = some v ↔ ∃ n factor, Written lower n factor ∧ Amounts n factor v := by
  simp only [written_lower_iff lowered]
  exact parse?_eq_some_iff_fold

/-- A limit of which one of the numbers does not fit is refused. -/
theorem parse?_eq_none_of_overflow {n factor : Int} (lowered : LowerCased (strip text.toList) lower)
    (written : Written lower n factor) (large : ¬ (Fits n ∧ Fits (n * factor))) :
    parse? text = none := by
  refine Option.eq_none_iff_forall_ne_some.mpr fun v read => ?_
  obtain ⟨m, factor', written', fits, product, -⟩ := (parse?_eq_some_iff lowered).mp read
  obtain ⟨rfl, rfl⟩ := written.unique written'
  exact large ⟨fits, product⟩

/-- A text that is no limit is refused. -/
theorem parse?_eq_none_of_unwritten (lowered : LowerCased (strip text.toList) lower)
    (unwritten : ∀ n factor, ¬ Written lower n factor) : parse? text = none := by
  refine Option.eq_none_iff_forall_ne_some.mpr fun v read => ?_
  obtain ⟨n, factor, written, -⟩ := (parse?_eq_some_iff lowered).mp read
  exact unwritten n factor written

end Reading

/-! ## Limits below zero -/

theorem UnitOf.pos {unit : List Char} {factor : Int} (unitOf : UnitOf unit factor) :
    0 < factor := by
  cases unitOf <;> decide

/-- What is written begins with its number. -/
theorem Written.head {cs : List Char} {n factor : Int} (written : Written cs n factor) :
    0 < factor ∧ ∃ number, Numeral number n ∧ cs.head? = number.head? := by
  have counted {cs : List Char} (counted : Counted cs n factor) :
      0 < factor ∧ ∃ number rest, Numeral number n ∧ cs = number ++ rest := by
    cases counted with
    | @intro number unit _ _ numeral unitOf => exact ⟨unitOf.pos, number, unit, numeral, rfl⟩
  have begins {number rest : List Char} (numeral : Numeral number n) :
      (number ++ rest).head? = number.head? := by
    obtain ⟨front, digit, rfl, -⟩ := numeral.last
    cases front <;> rfl
  cases written with
  | plain whole =>
    obtain ⟨pos, number, rest, numeral, rfl⟩ := counted whole
    exact ⟨pos, number, numeral, begins numeral⟩
  | marked whole =>
    obtain ⟨pos, number, rest, numeral, rfl⟩ := counted whole
    rw [List.append_assoc]
    exact ⟨pos, number, numeral, begins numeral⟩

/-- **A limit is below zero if it is written with a minus sign** and is not zero. -/
theorem parse?_neg_iff {text : String} {v : Int} (read : parse? text = some v) :
    v < 0 ↔ (strip text.toList).head? = some '-' ∧ v ≠ 0 := by
  obtain ⟨n, factor, written, -, -, rfl⟩ := parse?_eq_some_iff_fold.mp read
  obtain ⟨pos, number, numeral, begins⟩ := written.head
  have sign : n * factor < 0 * factor ↔ n < 0 := Int.mul_lt_mul_right pos
  rw [Int.zero_mul] at sign
  rw [← head?_fold_minus, begins, sign, numeral.neg_iff, Ne, Ne, Int.mul_eq_zero,
    or_iff_left (Int.ne_of_gt pos)]

/-! ## Cutting off a letter -/

/-- The bytes of a text without its last character are its bytes without the last one, if that
character is the letter of a unit. -/
theorem bytes_dropLast {cs : List Char} {c : Char} {factor : Int} (ends : cs.getLast? = some c)
    (unit : unit? c = some factor) :
    Bytes.ofString (String.ofList cs.dropLast) = (Bytes.ofString (String.ofList cs)).dropLast := by
  obtain ⟨front, rfl⟩ := List.getLast?_eq_some_iff.mp ends
  have single : ∃ byte, String.utf8EncodeChar c = [byte] := by
    cases unit?_eq_some_iff.mp unit with
    | kilo => exact ⟨_, rfl⟩
    | mega => exact ⟨_, rfl⟩
    | giga => exact ⟨_, rfl⟩
  obtain ⟨byte, single⟩ := single
  simp only [Bytes.ofString, String.toList_ofList, List.dropLast_concat, List.flatMap_append,
    List.flatMap_singleton, single]

/-! ## Every text -/

/-- **Limits are read exactly.** A text is read as `v` if and only if it is, without its blanks and
in lower case, written as a limit of which both numbers fit and the second is `v`. A text that is
written as one is thus read as its one product or, when a number does not fit, refused; one that
is not is refused, as are nothing at all and what ends outside ASCII in lower case. The letter of
a unit is cut off between two characters. -/
theorem limits_are_read_exactly {text : String} {lower : List Char}
    (lowered : LowerCased (strip text.toList) lower) :
    (∀ v, parse? text = some v ↔ ∃ n factor, Written lower n factor ∧ Amounts n factor v) ∧
    (∀ n factor, Written lower n factor →
      parse? text = if Fits n ∧ Fits (n * factor) then some (n * factor) else none) ∧
    ((∀ n factor, ¬ Written lower n factor) → parse? text = none) ∧
    (lower = [] → parse? text = none) ∧
    (∀ c, lower.getLast? = some c → 128 ≤ c.toNat → parse? text = none) ∧
    ∀ c factor, (dropByteMark lower).getLast? = some c → unit? c = some factor →
      Bytes.ofString (String.ofList (dropByteMark lower).dropLast) =
        (Bytes.ofString (String.ofList (dropByteMark lower))).dropLast := by
  refine ⟨fun v => parse?_eq_some_iff lowered, fun n factor written => ?_,
    parse?_eq_none_of_unwritten lowered, fun empty => ?_, fun c ends outside => ?_,
    fun c factor ends unit => bytes_dropLast ends unit⟩
  · split
    · next fits =>
      exact (parse?_eq_some_iff lowered).mpr ⟨n, factor, written, fits.1, fits.2, rfl⟩
    · next large => exact parse?_eq_none_of_overflow lowered written large
  · exact parse?_eq_none_of_unwritten lowered fun n factor written => written.ne_nil empty
  · refine parse?_eq_none_of_unwritten lowered fun n factor written => ?_
    exact absurd (written.ascii c (List.mem_of_getLast? ends)) (Nat.not_lt.mpr outside)

/-- Five kibibytes, written with a Kelvin sign. -/
theorem limits_are_read_exactly_kelvin :
    LowerCased (strip " 5\u212AB ".toList) ['5', 'k', 'b'] ∧
    Written ['5', 'k', 'b'] 5 (2 ^ 10) ∧ parse? " 5\u212AB " = some 5120 := by
  have lowered : LowerCased (strip " 5\u212AB ".toList) ['5', 'k', 'b'] := by
    have stripped : strip " 5\u212AB ".toList = ['5', Char.ofNat 0x212A, 'B'] := by decide
    rw [stripped]
    exact .cons (.ascii (by decide)) (.cons .kelvin (.cons (.ascii (by decide)) .nil))
  have five : Numeral ['5'] 5 := .unsigned ⟨nofun, List.forall_mem_singleton.mpr rfl⟩
  have written : Written ['5', 'k', 'b'] 5 (2 ^ 10) := .marked (.intro five .kilo)
  refine ⟨lowered, written, ?_⟩
  rw [(limits_are_read_exactly lowered).2.1 5 (2 ^ 10) written]
  rfl

end MemoryLimit

end BuildYard
