import BuildYard.Archive.Header

/-!
# Writing archives

A member is a file, a directory or a link. Its name field keeps the name's
parts; a name that does not fit stands in full, as it was given, in a member
in front, and the field keeps its beginning.
-/

set_option autoImplicit false

namespace BuildYard.Archive

/-- What a member is. -/
inductive Content where
  | file (data : Bytes)
  | directory
  | link (target : String)
  deriving DecidableEq, Repr, Inhabited

/-- A member of an archive to be written. -/
structure Member where
  name : String
  mode : Nat
  content : Content
  deriving DecidableEq, Repr, Inhabited

/-- The byte for a regular file. -/
def fileKind : UInt8 := 0x30

/-- The byte for a symbolic link. -/
def linkKind : UInt8 := 0x32

/-- The byte for a directory. -/
def directoryKind : UInt8 := 0x35

/-- The byte for a member that holds the next one's name. -/
def longNameKind : UInt8 := 0x4C

/-- The byte for a member that holds the next one's link. -/
def longLinkKind : UInt8 := 0x4B

/-- The name of a member that holds a name or a link for the next one. -/
def longName : Bytes := Bytes.ofString "././@LongLink"

/-- A member that holds the next one's name or link, closed by a zero. -/
def announcement (kind : UInt8) (text : String) : Bytes :=
  let data := Bytes.ofString text ++ [0]
  let header : Header :=
    { name := longName, mode := 0o644, owned := true, size := data.length, kind }
  header.block ++ padded data

/-- The longest beginning of a text that is at most `room` bytes. -/
def cut (room : Nat) (text : String) : String :=
  let rec go (left : Nat) : List Char → List Char
    | [] => []
    | c :: cs =>
      let size := (String.utf8EncodeChar c).length
      if size ≤ left then c :: go (left - size) cs else []
  String.ofList (go room text.toList)

/-- The announcement in front of a member and the bytes of its name field. -/
def placeName (name : String) : Except NameFault (Bytes × Bytes) :=
  match fieldBytes .name name with
  | .ok bytes => .ok ([], bytes)
  | .error fault =>
    if (Bytes.ofString name).length < nameRoom then .error fault
    else do
      let bytes ← fieldBytes .cutName (cut nameRoom name)
      .ok (announcement longNameKind name, bytes)

/-- The announcement in front of a link and the bytes of its link field. -/
def placeLink (target : String) : Except NameFault (Bytes × Bytes) :=
  match fieldBytes .link target with
  | .ok bytes => .ok ([], bytes)
  | .error fault =>
    if (Bytes.ofString target).length < nameRoom then .error fault
    else .ok (announcement longLinkKind target, [])

/-- The bytes of a member. -/
def Member.encode (member : Member) : Except NameFault Bytes := do
  let (front, name) ← placeName member.name
  match member.content with
  | .file data =>
    let header : Header :=
      { name, mode := member.mode, owned := true, size := data.length, kind := fileKind }
    .ok (front ++ header.block ++ padded data)
  | .directory =>
    let header : Header :=
      { name, mode := member.mode, owned := true, size := 0, kind := directoryKind }
    .ok (front ++ header.block)
  | .link target =>
    let (more, link) ← placeLink target
    let header : Header :=
      { name, mode := member.mode, owned := true, size := 0, kind := linkKind, link }
    .ok (front ++ more ++ header.block)

/-- An archive of members in the given order. -/
def encode (members : List Member) : Except NameFault Bytes := do
  let parts ← members.mapM Member.encode
  .ok (parts.flatten ++ ending)

/-- An archive of one regular file; the byte that says so and the owner are left zero. -/
def singleFile (name : String) (contents : Bytes) (mode : Nat) : Except NameFault Bytes := do
  let (front, bytes) ← placeName name
  let header : Header :=
    { name := bytes, mode, owned := false, size := contents.length, kind := 0 }
  .ok (front ++ header.block ++ padded contents ++ ending)

end BuildYard.Archive
