/-!
# Numbers written in digits

Reading and writing of natural numbers in a base, and of integers with an
optional sign and a range.
-/

set_option autoImplicit false

namespace BuildYard.Text

/-- The value of a digit in bases up to sixteen, in either case. -/
def digit? (c : Char) : Option Nat :=
  let n := c.toNat
  if 48 ≤ n && n ≤ 57 then some (n - 48)
  else if 97 ≤ n && n ≤ 102 then some (n - 87)
  else if 65 ≤ n && n ≤ 70 then some (n - 55)
  else none

/-- The value of the digits `cs` in `base` below `value`; `none` at anything that
is no digit of that base. -/
def natFrom? (base value : Nat) : List Char → Option Nat
  | [] => some value
  | c :: cs =>
    match digit? c with
    | some d => if d < base then natFrom? base (value * base + d) cs else none
    | none => none

/-- The number that a non-empty run of digits stands for. -/
def nat? (base : Nat) (cs : List Char) : Option Nat :=
  if cs.isEmpty then none else natFrom? base 0 cs

/-- A number with an optional plus sign that is below `limit`. -/
def natBelow? (base limit : Nat) (cs : List Char) : Option Nat :=
  let found := match cs with
    | '+' :: rest => nat? base rest
    | _ => nat? base cs
  found.bind fun n => if n < limit then some n else none

/-- The least signed number of 64 bits. -/
def minInt64 : Int := -9223372036854775808

/-- The greatest signed number of 64 bits. -/
def maxInt64 : Int := 9223372036854775807

/-- Whether a number fits into 64 signed bits. -/
def fitsInt64 (n : Int) : Bool :=
  minInt64 ≤ n && n ≤ maxInt64

/-- A decimal number with an optional sign that fits into 64 signed bits. -/
def int64? (cs : List Char) : Option Int :=
  let found : Option Int := match cs with
    | '-' :: rest => (nat? 10 rest).map fun n => -(n : Int)
    | '+' :: rest => (nat? 10 rest).map Int.ofNat
    | _ => (nat? 10 cs).map Int.ofNat
  found.bind fun n => if fitsInt64 n then some n else none

/-- The character of a digit below sixteen, in lower case. -/
def digitChar (d : Nat) : Char :=
  if d < 10 then Char.ofNat (48 + d) else Char.ofNat (87 + d)

/-- The lowest `width` digits of `n` in `base`, with leading zeros. -/
def fixed (base : Nat) : Nat → Nat → List Char
  | 0, _ => []
  | width + 1, n => fixed base width (n / base) ++ [digitChar (n % base)]

/-- The digits of `n` in `base`, shortest form; `fuel` bounds their number. -/
def shortest (base : Nat) : Nat → Nat → List Char
  | 0, _ => []
  | fuel + 1, n =>
    if n < base then [digitChar n] else shortest base fuel (n / base) ++ [digitChar (n % base)]

/-- A number in base eight. -/
def octal (n : Nat) : String :=
  String.ofList (shortest 8 (n + 1) n)

/-- A number in base sixteen with at least one digit, in lower case. -/
def hex (n : Nat) : String :=
  String.ofList (shortest 16 (n + 1) n)

/-- A number in base ten with at least `width` digits. -/
def padded (width n : Nat) : String :=
  let digits := shortest 10 (n + 1) n
  String.ofList (List.replicate (width - digits.length) '0' ++ digits)

end BuildYard.Text
