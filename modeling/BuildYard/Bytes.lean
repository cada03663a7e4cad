/-!
# Bytes and their text

Archives, streams and files are lists of bytes. A text is written in UTF-8
(`Bytes.ofString`). Reading goes byte by byte: `Bytes.next` takes the first
character off, or the longest piece that cannot start one, so that strict
reading (`Bytes.text?`) and reading with a replacement character
(`Bytes.textLossy`) are the same walk.
-/

set_option autoImplicit false

namespace BuildYard

/-- A sequence of bytes. -/
abbrev Bytes := List UInt8

namespace Bytes

/-- The bytes of a text in UTF-8. -/
def ofString (s : String) : Bytes :=
  s.toList.flatMap String.utf8EncodeChar

/-- `n` bytes of value zero. -/
def zeros (n : Nat) : Bytes :=
  List.replicate n 0

/-- Whether `b` can only follow another byte of its character. -/
def isTail (b : UInt8) : Bool :=
  0x80 ≤ b && b ≤ 0xBF

/-- Whether `b` may stand second after `lead` in a character of three or four
bytes: no overlong form, no surrogate, nothing above the last code point. -/
def isSecond (lead b : UInt8) : Bool :=
  match lead with
  | 0xE0 => 0xA0 ≤ b && b ≤ 0xBF
  | 0xED => 0x80 ≤ b && b ≤ 0x9F
  | 0xF0 => 0x90 ≤ b && b ≤ 0xBF
  | 0xF4 => 0x80 ≤ b && b ≤ 0x8F
  | _ => isTail b

/-- The low six bits of a tail byte, below the bits read so far. -/
def shift (bits : Nat) (b : UInt8) : Nat :=
  bits * 64 + b.toNat % 64

/-- The first character of `b :: rest`, or `none` for the longest piece of it
that is no character, and what follows. -/
def next (b : UInt8) (rest : Bytes) : Option Char × Bytes :=
  if b < 0x80 then (some (Char.ofNat b.toNat), rest)
  else if 0xC2 ≤ b && b ≤ 0xDF then
    match rest with
    | c :: r =>
      if isTail c then (some (Char.ofNat (shift (b.toNat % 32) c)), r) else (none, rest)
    | [] => (none, [])
  else if 0xE0 ≤ b && b ≤ 0xEF then
    match rest with
    | c :: r =>
      if isSecond b c then
        match r with
        | d :: s =>
          if isTail d then (some (Char.ofNat (shift (shift (b.toNat % 16) c) d)), s)
          else (none, r)
        | [] => (none, [])
      else (none, rest)
    | [] => (none, [])
  else if 0xF0 ≤ b && b ≤ 0xF4 then
    match rest with
    | c :: r =>
      if isSecond b c then
        match r with
        | d :: s =>
          if isTail d then
            match s with
            | e :: t =>
              if isTail e then
                (some (Char.ofNat (shift (shift (shift (b.toNat % 8) c) d) e)), t)
              else (none, s)
            | [] => (none, [])
          else (none, r)
        | [] => (none, [])
      else (none, rest)
    | [] => (none, [])
  else (none, rest)

/-- Reading one piece leaves no more than what followed its first byte. -/
theorem length_next_le (b : UInt8) (rest : Bytes) : (next b rest).2.length ≤ rest.length := by
  unfold next
  repeat' split
  all_goals (try simp) <;> omega

/-- The pieces of a byte sequence in order, after those in `read`, newest first. -/
def pieces (read : List (Option Char)) (bytes : Bytes) : List (Option Char) :=
  match bytes with
  | [] => read.reverse
  | b :: rest =>
    let piece := next b rest
    pieces (piece.1 :: read) piece.2
termination_by bytes.length
decreasing_by
  have := length_next_le b rest
  simp only [List.length_cons]
  omega

/-- The text of a byte sequence that is UTF-8 throughout. -/
def text? (bytes : Bytes) : Option String :=
  let found := pieces [] bytes
  if found.all Option.isSome then some (String.ofList (found.filterMap id)) else none

/-- The text of a byte sequence, each piece that is no character replaced by U+FFFD. -/
def textLossy (bytes : Bytes) : String :=
  String.ofList ((pieces [] bytes).map (·.getD (Char.ofNat 0xFFFD)))

/-- The lines of a byte sequence: each ends with a line feed, which may be left out at
the end; a carriage return before it belongs to the line end. -/
def splitLines (bytes : Bytes) : List Bytes :=
  go [] bytes
where
  /-- The lines that begin with `read`, given last byte first. -/
  go (read : Bytes) : Bytes → List Bytes
    | [] => if read.isEmpty then [] else [read.reverse]
    | b :: rest =>
      if b = 10 then
        (if read.head? == some 13 then read.tail else read).reverse :: go [] rest
      else go (b :: read) rest

end Bytes

end BuildYard
