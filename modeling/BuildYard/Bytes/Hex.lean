import BuildYard.Bytes
import BuildYard.Text.Digits

/-!
# Bytes in base sixteen

Where bytes that are no text have to pass through text, each is written as
two digits in base sixteen. Reading takes digits of either case.
-/

set_option autoImplicit false

namespace BuildYard.Bytes

/-- The two digits of each byte. -/
def hexDigits (bytes : Bytes) : List Char :=
  bytes.flatMap fun b => Text.fixed 16 2 b.toNat

/-- Bytes as digits. -/
def hex (bytes : Bytes) : String :=
  String.ofList (hexDigits bytes)

/-- The bytes that pairs of digits stand for. -/
def ofHexDigits? : List Char → Option Bytes
  | [] => some []
  | [_] => none
  | a :: b :: rest => do
    let high ← Text.digit? a
    let low ← Text.digit? b
    let bytes ← ofHexDigits? rest
    some (UInt8.ofNat (high * 16 + low) :: bytes)

/-- The bytes that a text of digits stands for. -/
def ofHex? (text : String) : Option Bytes :=
  ofHexDigits? text.toList

end BuildYard.Bytes
