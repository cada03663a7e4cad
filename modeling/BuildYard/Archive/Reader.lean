import BuildYard.Archive.Writer
import BuildYard.Text.Blank

/-!
# Reading archives

`Archive.next?` takes one member off the front of an archive. It passes over
the members that only announce the name, the link or the size of the next
one. Where the archive stops inside a member's data, the data are what is
there; only the step to the member after that fails.

Of a sparse file only parts are stored, one behind the other. Which parts of
the file they are is told by a map, which begins in the header and may go on in
blocks of its own behind it (`readMap`).
-/

set_option autoImplicit false

namespace BuildYard.Archive

/-- Why the map of a sparse file cannot be. -/
inductive MapFault where
  /-- the header is of a form without maps -/
  | noMap
  /-- a part does not begin at a block -/
  | unaligned
  /-- a part begins before the end of the one in front of it -/
  | disordered
  /-- a part ends beyond 64 bits -/
  | endless
  /-- the parts are longer than what is stored -/
  | surplus
  /-- a block of the map is missing -/
  | missing
  /-- the last part does not end where the file does -/
  | wrongEnd
  /-- the parts are shorter than what is stored -/
  | remains
  deriving DecidableEq, Repr

/-- What is said of a map that cannot be. -/
def MapFault.message : MapFault → String
  | noMap => "sparse entry type listed but not GNU header"
  | unaligned => "previous block in sparse file was not aligned to 512-byte boundary"
  | disordered => "out of order or overlapping sparse blocks"
  | endless => "more bytes listed in sparse file than u64 can hold"
  | surplus => "sparse file consumed more data than the header listed"
  | missing => "failed to read extension"
  | wrongEnd => "mismatch in sparse file chunks and size in header"
  | remains => "mismatch in sparse file chunks and entry size in header"

/-- Why an archive cannot be read on. -/
inductive Fault where
  /-- a header block is cut off -/
  | shortBlock
  /-- the archive ends where a member's data should go on -/
  | shortData
  /-- the checksum of a header is not its sum -/
  | checksum
  /-- a field that should be a number is none -/
  | number
  /-- a size reaches beyond 64 bits -/
  | overflow
  /-- two announcements of one kind for one member -/
  | twice
  /-- an announcement for a member that does not come -/
  | unfollowed
  /-- the map of a sparse file cannot be -/
  | map (fault : MapFault)
  /-- there is no regular file -/
  | noFile
  deriving DecidableEq, Repr

/-- What is said of an archive that cannot be read on. -/
def Fault.message : Fault → String
  | shortBlock => "failed to read entire block"
  | shortData => "unexpected end during skip"
  | checksum => "archive header checksum mismatch"
  | number => "numeric field was not a number"
  | overflow => "size overflow"
  | twice => "two announcements describing the same member"
  | unfollowed => "members found describing a future member but no future member found"
  | map fault => fault.message
  | noFile => "archive contains no regular file"

/-- A member as it is read. -/
structure Found where
  /-- its header block -/
  header : Bytes
  /-- the size that holds for its data -/
  size : Nat
  /-- the data that are there, at most as many as the size says -/
  data : Bytes
  /-- the name announced for it -/
  longName : Option Bytes := none
  /-- the link announced for it -/
  longLink : Option Bytes := none
  deriving DecidableEq, Repr

/-- A field of a header block. -/
def slice (start length : Nat) (block : Bytes) : Bytes :=
  (block.drop start).take length

/-- Bytes up to the first zero. -/
def upToZero (bytes : Bytes) : Bytes :=
  bytes.takeWhile (· != 0)

/-- A number in octal digits, blanks around it allowed. -/
def octal? (bytes : Bytes) : Option Nat :=
  (Bytes.text? (upToZero bytes)).bind fun text =>
    Text.natBelow? 8 UInt64.size (Text.strip text.toList)

/-- A number in octal digits, or in binary when the top bit is set. -/
def numeric? (bytes : Bytes) : Option Nat :=
  match bytes with
  | first :: _ =>
    if 0x80 ≤ first then some ((bytes.drop 4).foldl (fun n b => n * 256 + b.toNat) 0)
    else octal? bytes
  | [] => none

namespace Found

/-- The byte that says what the member is. -/
def kind (found : Found) : UInt8 :=
  (slice 156 1 found.header).head?.getD 0

/-- Whether the header is of the form that GNU tar writes. -/
def isGnu (found : Found) : Bool :=
  slice 257 8 found.header == Bytes.ofString "ustar  " ++ [0]

/-- Whether the header is of one of the two forms with announcements. -/
def isRecognized (found : Found) : Bool :=
  found.isGnu || slice 257 8 found.header == Bytes.ofString "ustar" ++ [0, 0x30, 0x30]

/-- Whether the member is a regular file. -/
def isFile (found : Found) : Bool :=
  found.kind == 0 || found.kind == fileKind

/-- Whether the member is a sparse file. -/
def isSparse (found : Found) : Bool :=
  found.kind == 0x53

/-- The bytes of the member's name. -/
def nameBytes (found : Found) : Bytes :=
  match found.longName with
  | some name => if name.getLast? == some 0 then name.dropLast else name
  | none => upToZero (slice 0 100 found.header)

/-- The bytes of the member's link. -/
def linkBytes (found : Found) : Bytes :=
  match found.longLink with
  | some link => if link.getLast? == some 0 then link.dropLast else link
  | none => upToZero (slice 157 100 found.header)

/-- The permission bits. -/
def mode (found : Found) : Nat :=
  (octal? (slice 100 8 found.header)).getD 0 % 0o10000

end Found

/-- What is left of an archive: the bytes, their place in the whole, and how many
of them belong to the member read last. -/
structure Rest where
  bytes : Bytes
  place : Nat := 0
  toSkip : Nat := 0
  deriving DecidableEq, Repr

/-- The number of bytes of whole blocks that hold `size` bytes. -/
def roundUp (size : Nat) : Nat :=
  (size + (blockSize - 1)) / blockSize * blockSize

/-- The next member with announcements, or none at the end. `announced` is the size
announced for it. -/
def nextRaw (announced : Option Nat) (rest : Rest) : Except Fault (Option (Found × Rest)) :=
  let block := (rest.bytes.drop rest.toSkip).take blockSize
  if rest.bytes.length < rest.toSkip then .error .shortData
  else if block.isEmpty then .ok none
  else if block.length < blockSize then .error .shortBlock
  else if block.all (· == 0) then .ok none
  else
    match octal? (slice 148 8 block) with
    | none => .error .number
    | some sum =>
      if byteSum (block.take 148) + 8 * 32 + byteSum (block.drop 156) ≠ sum % UInt32.size then
        .error .checksum
      else
        match numeric? (slice 124 12 block) with
        | none => .error .number
        | some written =>
          let size := if written = 0 then announced.getD 0 else written
          let after := rest.bytes.drop (rest.toSkip + blockSize)
          let place := rest.place + rest.toSkip + blockSize
          if UInt64.size ≤ size + (blockSize - 1) || UInt64.size ≤ place + roundUp size then
            .error .overflow
          else
            .ok (some ({ header := block, size, data := after.take size },
              { bytes := after, place, toSkip := roundUp size }))

/-- The size that an announcement of extended fields gives. -/
def announcedSize? (data : Bytes) : Option Nat :=
  let rec go : List (List Char) → Option Nat
    | [] => none
    | line :: lines =>
      if line.isEmpty then none
      else
        match Text.splitFirst? ' ' line with
        | none => none
        | some (count, pair) =>
          if Text.natBelow? 10 UInt64.size count ≠ some (line.length + 1) then none
          else
            match Text.splitFirst? '=' pair with
            | none => none
            | some (key, value) =>
              if key = "size".toList then Text.natBelow? 10 UInt64.size value else go lines
  go (Text.splitOn (· == '\n') (data.map fun b => Char.ofNat b.toNat))

/-- Announcements met on the way to a member. -/
structure Announced where
  name : Option Bytes := none
  link : Option Bytes := none
  /-- the extended fields -/
  fields : Option Bytes := none
  deriving DecidableEq, Repr

/-- Whether nothing was announced. -/
def Announced.isNone (met : Announced) : Bool :=
  met.name.isNone && met.link.isNone && met.fields.isNone

/-- The announcements with that of a member added, if the member is one. -/
def Announced.add? (met : Announced) (found : Found) : Option (Except Fault Announced) :=
  if !found.isRecognized then none
  else if found.kind == longNameKind then
    some (if met.name.isSome then .error .twice else .ok { met with name := some found.data })
  else if found.kind == longLinkKind then
    some (if met.link.isSome then .error .twice else .ok { met with link := some found.data })
  else if found.kind == 0x78 then
    some (if met.fields.isSome then .error .twice else .ok { met with fields := some found.data })
  else none

/-! ## Sparse files -/

/-- How far the parts of a sparse file have been gone through. -/
structure Covered where
  /-- where the last part ends in the file -/
  reached : Nat := 0
  /-- how many of the stored bytes belong to parts that follow -/
  left : Nat
  deriving DecidableEq, Repr

/-- The fields of `count` parts from `start` on: where each begins and how long it is. -/
def partFields (start count : Nat) (block : Bytes) : List (Bytes × Bytes) :=
  (List.range count).map fun i =>
    (slice (start + 24 * i) 12 block, slice (start + 24 * i + 12) 12 block)

/-- Goes on over a part, for which `stored` bytes are stored with all others. Fields that begin
with a zero are of none. -/
def Covered.add (stored : Nat) (covered : Covered) (fields : Bytes × Bytes) :
    Except Fault Covered :=
  if fields.1.head? == some 0 || fields.2.head? == some 0 then .ok covered
  else
    match octal? fields.1, octal? fields.2 with
    | some start, some length =>
      if length ≠ 0 ∧ (stored - covered.left) % blockSize ≠ 0 then .error (.map .unaligned)
      else if start < covered.reached then .error (.map .disordered)
      else if UInt64.size ≤ start + length then .error (.map .endless)
      else if covered.left < length then .error (.map .surplus)
      else .ok { reached := start + length, left := covered.left - length }
    | _, _ => .error .number

/-- Goes on over the parts that a block lists. -/
def Covered.addAll (stored : Nat) (covered : Covered) (fields : List (Bytes × Bytes)) :
    Except Fault Covered :=
  fields.foldlM (Covered.add stored) covered

/-- Whether a block with the mark at `mark` says that another one goes on with the map. -/
def goesOn (mark : Nat) (block : Bytes) : Bool :=
  (slice mark 1 block).head? == some 1

/-- What is left behind the first block. -/
def Rest.pastBlock (rest : Rest) : Rest :=
  { rest with bytes := rest.bytes.drop blockSize, place := rest.place + blockSize }

/-- Goes through the blocks that go on with a map, if there are `more`, and yields what is left
behind them. Each step takes a block. -/
def followMap (stored : Nat) : (fuel : Nat) → (more : Bool) → Covered → Rest →
    Except Fault (Covered × Rest)
  | _, false, covered, rest => .ok (covered, rest)
  | 0, true, _, _ => .error .shortData
  | fuel + 1, true, covered, rest =>
    let block := rest.bytes.take blockSize
    if block.isEmpty then .error (.map .missing)
    else if block.length < blockSize then .error .shortBlock
    else
      match covered.addAll stored (partFields 0 21 block) with
      | .error fault => .error fault
      | .ok covered => followMap stored fuel (goesOn 504 block) covered rest.pastBlock

/-- A sparse file with the data that are stored of it, which stand behind the whole map. -/
def readMap (fuel : Nat) (found : Found) (rest : Rest) : Except Fault (Found × Rest) :=
  if !found.isGnu then .error (.map .noMap)
  else
    match Covered.addAll found.size { left := found.size } (partFields 386 4 found.header) with
    | .error fault => .error fault
    | .ok covered =>
      match followMap found.size fuel (goesOn 482 found.header) covered rest with
      | .error fault => .error fault
      | .ok (covered, rest) =>
        match octal? (slice 483 12 found.header) with
        | none => .error .number
        | some whole =>
          if covered.reached ≠ whole then .error (.map .wrongEnd)
          else if 0 < covered.left then .error (.map .remains)
          else .ok ({ found with data := rest.bytes.take found.size }, rest)

/-! ## Members -/

/-- The next member, or none at the end. Each step takes a block at least, so `fuel`
above the number of blocks never runs out. -/
def next? (fuel : Nat) (met : Announced) (rest : Rest) : Except Fault (Option (Found × Rest)) :=
  match fuel with
  | 0 => .error .shortData
  | fuel + 1 =>
    match nextRaw (met.fields.bind announcedSize?) rest with
    | .error fault => .error fault
    | .ok none => if met.isNone then .ok none else .error .unfollowed
    | .ok (some (found, rest)) =>
      match met.add? found with
      | some (.error fault) => .error fault
      | some (.ok met) => next? fuel met rest
      | none =>
        let named := { found with longName := met.name, longLink := met.link }
        if found.isSparse then (readMap fuel named rest).map some else .ok (some (named, rest))

/-- The data of the first regular file from `rest` on. -/
def firstFileFrom (fuel : Nat) (rest : Rest) : Except Fault Bytes :=
  match fuel with
  | 0 => .error .shortData
  | fuel + 1 =>
    match next? (fuel + 1) {} rest with
    | .error fault => .error fault
    | .ok none => .error .noFile
    | .ok (some (found, rest)) => if found.isFile then .ok found.data else firstFileFrom fuel rest

/-- All members from `rest` on. -/
def membersFrom (fuel : Nat) (rest : Rest) : Except Fault (List Found) :=
  match fuel with
  | 0 => .error .shortData
  | fuel + 1 =>
    match next? (fuel + 1) {} rest with
    | .error fault => .error fault
    | .ok none => .ok []
    | .ok (some (found, rest)) => (membersFrom fuel rest).map (found :: ·)

/-- More than the number of blocks of an archive. -/
def blockCount (archive : Bytes) : Nat :=
  archive.length / blockSize + 2

/-- The data of the first regular file of an archive. -/
def firstFile (archive : Bytes) : Except Fault Bytes :=
  firstFileFrom (blockCount archive) { bytes := archive }

/-- All members of an archive in order. -/
def members (archive : Bytes) : Except Fault (List Found) :=
  membersFrom (blockCount archive) { bytes := archive }

end BuildYard.Archive
