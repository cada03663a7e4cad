import BuildYard.Text.Blank
import BuildYard.Text.Digits

/-!
# Memory limits

A limit is a decimal integer, perhaps with one of the units k, m and g (powers
of 1024) and perhaps with a closing b, in either case and with blanks around
it. The number of bytes has to fit into 64 signed bits; a sign is allowed.
-/

set_option autoImplicit false

namespace BuildYard.MemoryLimit

/-- The number of bytes of a unit. -/
def unit? : Char → Option Int
  | 'k' => some 1024
  | 'm' => some (1024 * 1024)
  | 'g' => some (1024 * 1024 * 1024)
  | _ => none

/-- A text without the letter b at its end, if it ends so. -/
def dropByteMark (cs : List Char) : List Char :=
  if cs.getLast? = some 'b' then cs.dropLast else cs

/-- The product, if it fits into 64 signed bits. -/
def scaled? (count factor : Int) : Option Int :=
  if Text.fitsInt64 (count * factor) then some (count * factor) else none

/-- The number of bytes that a limit stands for. -/
def parse? (text : String) : Option Int :=
  let cs := dropByteMark (Text.fold (Text.strip text.toList))
  match cs.getLast? with
  | none => none
  | some last =>
    match unit? last with
    | some factor => (Text.int64? cs.dropLast).bind (scaled? · factor)
    | none => Text.int64? cs

end BuildYard.MemoryLimit
