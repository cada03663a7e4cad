import BuildYard.Bytes
import BuildYard.Path
import BuildYard.Text.Digits

/-!
# Headers of tar archives

An archive is a sequence of blocks of 512 bytes. Each member begins with a
header block of fixed fields; numbers are octal digits, a size that does not
fit is written in binary with the top bit set, and a checksum covers the
block. This is the form that GNU tar writes: a name or link that does not fit
into its field goes into a member of its own in front.
-/

set_option autoImplicit false

namespace BuildYard.Archive

/-- The size of a block. -/
def blockSize : Nat := 512

/-- The size of the fields for a name and for a link. -/
def nameRoom : Nat := 100

/-- A name that no member can have. -/
inductive NameFault where
  | tooLong
  | holdsNul
  | absolute
  | climbs
  | empty
  deriving DecidableEq, Repr

/-- What is said of a name that no member can have. -/
def NameFault.message : NameFault → String
  | tooLong => "provided value is too long"
  | holdsNul => "provided value contains a nul byte"
  | absolute => "paths in archives must be relative"
  | climbs => "paths in archives must not climb"
  | empty => "paths in archives must have at least one part"

/-- What a name field is for. -/
inductive NameRole where
  /-- the name of a member -/
  | name
  /-- the beginning of a name that stands in full in front; it may end in two points -/
  | cutName
  /-- the target of a link, which may lead anywhere -/
  | link
  deriving DecidableEq, Repr

/-- The parts of a member's name; a point at the front says nothing unless it
is the whole name. -/
def nameParts (role : NameRole) (path : String) : Except NameFault (List String) :=
  let parts := Path.parts path
  let climbing := if role == .cutName then parts.dropLast else parts
  if Path.isAbsolute path then .error .absolute
  else if climbing.contains ".." then .error .climbs
  else if parts == ["."] then .ok parts
  else .ok (parts.filter (· ≠ "."))

/-- The text of a name field, its parts joined by single slashes. -/
def fieldText (role : NameRole) (path : String) : Except NameFault String :=
  let closing := if path.endsWith "/" then "/" else ""
  match role with
  | .link =>
    let parts := Path.parts path
    if Path.isAbsolute path then
      .ok ("/" ++ Text.join "/" parts ++ closing)
    else if parts.isEmpty then .error .empty
    else .ok (Text.join "/" parts ++ closing)
  | _ => do
    let parts ← nameParts role path
    if parts.isEmpty then .error .empty else .ok (Text.join "/" parts ++ closing)

/-- The bytes of a name field. -/
def fieldBytes (role : NameRole) (path : String) : Except NameFault Bytes := do
  let bytes := Bytes.ofString (← fieldText role path)
  if nameRoom < bytes.length then .error .tooLong
  else if bytes.contains 0 then .error .holdsNul
  else .ok bytes

/-- The fields of a header that a writer sets. -/
structure Header where
  /-- the bytes of the name field -/
  name : Bytes
  mode : Nat
  /-- whether the numbers of user and group are written -/
  owned : Bool
  size : Nat
  /-- the byte that says what the member is -/
  kind : UInt8
  /-- the bytes of the link field -/
  link : Bytes := []
  deriving DecidableEq, Repr

/-- Bytes made up to `n` with zeros. -/
def field (n : Nat) (bytes : Bytes) : Bytes :=
  bytes.take n ++ Bytes.zeros (n - bytes.length)

/-- The last octal digits of a number and a closing zero, `n` bytes in all. -/
def octalField (n value : Nat) : Bytes :=
  Bytes.ofString (String.ofList (Text.fixed 8 (n - 1) value)) ++ [0]

/-- The first size that does not fit into eleven octal digits. -/
def octalSizeLimit : Nat := 8589934592

/-- The lowest `n` bytes of a number, the highest of them first. -/
def bigEndian : Nat → Nat → Bytes
  | 0, _ => []
  | n + 1, value => bigEndian n (value / 256) ++ [UInt8.ofNat (value % 256)]

/-- The field of a size. -/
def sizeField (size : Nat) : Bytes :=
  if size < octalSizeLimit then octalField 12 size
  else [0x80, 0, 0, 0] ++ bigEndian 8 size

/-- The sum of bytes. -/
def byteSum (bytes : Bytes) : Nat :=
  bytes.foldl (fun sum b => sum + b.toNat) 0

namespace Header

/-- The bytes before the checksum. -/
def front (header : Header) : Bytes :=
  let owner := if header.owned then octalField 8 0 else Bytes.zeros 8
  field 100 header.name ++ octalField 8 header.mode ++ owner ++ owner ++
    sizeField header.size ++ octalField 12 0

/-- The bytes after the checksum. -/
def back (header : Header) : Bytes :=
  header.kind :: field 100 header.link ++ Bytes.ofString "ustar  " ++ [0] ++ Bytes.zeros 247

/-- The checksum: the sum of all bytes, its own field counted as blanks. -/
def checksum (header : Header) : Nat :=
  byteSum header.front + 8 * 32 + byteSum header.back

/-- The block of a header. -/
def block (header : Header) : Bytes :=
  header.front ++ octalField 8 header.checksum ++ header.back

end Header

/-- What makes `length` a multiple of the block size. -/
def padding (length : Nat) : Bytes :=
  Bytes.zeros ((blockSize - length % blockSize) % blockSize)

/-- Data and what fills its last block. -/
def padded (data : Bytes) : Bytes :=
  data ++ padding data.length

/-- The two empty blocks that end an archive. -/
def ending : Bytes :=
  Bytes.zeros (2 * blockSize)

end BuildYard.Archive
