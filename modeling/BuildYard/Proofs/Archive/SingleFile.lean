import BuildYard.Proofs.Archive.Reading

/-!
# Archives of one file

An archive of one file is read back: it holds one member, a regular file with the
contents it was given, and nothing else (`singleFile_holds`). The member carries
the mode, and the name as far as an archive keeps names: a name that does not fit
into its field stands in full in front of the member, and is not taken for the
file; a name in the field is written again with single slashes and without points
(`kept`), which is the same where the name consists of names of entries
(`kept_join`).
-/

set_option autoImplicit false

namespace BuildYard.Archive

open BuildYard.Path (IsName)

variable {archive contents : Bytes} {name : String} {names : List String} {mode : Nat}

/-! ## Names -/

/-- A name written again, its parts joined by single slashes; points are left out unless one is
the whole name. -/
def tidy (name : String) : String :=
  Text.join "/" (if Path.parts name = ["."] then ["."] else (Path.parts name).filter (· ≠ ".")) ++
    Path.closing name

/-- What an archive keeps of a name: what is written into its field, or else all of it. -/
def kept (name : String) : String :=
  match fieldBytes .name name with
  | .ok _ => tidy name
  | .error _ => name

theorem fieldText_name {text : String} (written : fieldText .name name = .ok text) :
    text = tidy name := by
  rw [tidy]
  cases found : nameParts .name name with
  | error fault =>
    simp only [fieldText, found] at written
    cases written
  | ok parts =>
    simp only [fieldText, found, bind, Except.bind] at written
    split at written
    · cases written
    · obtain rfl := Except.ok.inj written
      have all : (NameRole.name == NameRole.cutName) = false := rfl
      simp only [nameParts, all, Bool.false_eq_true, if_false] at found
      split at found
      · cases found
      split at found
      · cases found
      split at found
      · next point =>
        obtain rfl := Except.ok.inj found
        rw [if_pos (beq_iff_eq.mp point), beq_iff_eq.mp point]
        rfl
      · next other =>
        obtain rfl := Except.ok.inj found
        rw [if_neg fun point => other (beq_iff_eq.mpr point)]
        rfl

/-- What is kept of a name leads through the same directories. -/
theorem pieces_kept (name : String) :
    (Path.pieces (kept name)).filter (· ≠ ".") = (Path.pieces name).filter (· ≠ ".") := by
  rw [kept]
  split
  · rw [tidy, Path.pieces_append_closing_of]
    split
    · next point =>
      have piece : Path.IsPiece "." := ⟨by decide, by decide⟩
      rw [Path.pieces_join (List.forall_mem_singleton.mpr piece), ← point, Path.parts_filter]
    · rw [Path.pieces_join, List.filter_filter]
      · simp only [Bool.and_self, Path.parts_filter]
      · intro part member
        have listed := (Path.parts_sublist name).subset (List.mem_of_mem_filter member)
        exact Path.isPiece_of_mem_pieces listed
  · rfl

/-- **Names of entries are kept as they are**, whatever their length. -/
theorem kept_join (each : ∀ name ∈ names, IsName name) (some : names ≠ []) :
    kept (Text.join "/" names) = Text.join "/" names := by
  rw [kept]
  split
  · exact (fieldText_name (fieldText_join each some)).symm
  · rfl

/-- What stands in front of a member and in its field is read back as what is kept of its name. -/
theorem announces_kept {front field : Bytes} (placed : placeName name = .ok (front, field)) :
    ∃ longName, Announces longNameKind front longName ∧ ∀ (header : Header) (found : Found),
      found.header = header.block → header.name = field → found.longName = longName →
        found.nameBytes = Bytes.ofString (kept name) := by
  rw [placeName] at placed
  cases written : fieldBytes .name name with
  | ok bytes =>
    rw [written] at placed
    obtain ⟨rfl, rfl⟩ := Prod.mk.inj (Except.ok.inj placed)
    obtain ⟨text, again, rfl, fits, plain⟩ := fieldBytes_eq_ok written
    refine ⟨none, .nothing, ?_⟩
    intro header found same stands unannounced
    have short : header.name.length ≤ nameRoom := stands ▸ fits
    have noZero : 0 ∉ header.name := stands ▸ plain
    rw [nameBytes_field same unannounced short noZero, stands, kept, written, fieldText_name again]
  | error fault =>
    simp only [written] at placed
    split at placed
    · cases placed
    · cases cutBytes : fieldBytes .cutName (cut nameRoom name) with
      | error fault =>
        rw [cutBytes] at placed
        cases placed
      | ok bytes =>
        rw [cutBytes] at placed
        obtain ⟨rfl, rfl⟩ := Prod.mk.inj (Except.ok.inj placed)
        refine ⟨_, .text name, ?_⟩
        intro _ found _ _ announced
        rw [nameBytes_announced announced, kept, written]

/-! ## The file -/

/-- The first member is the first file if it is one. -/
theorem firstFileFrom_of_membersFrom {rest : Rest} {found : Found} {more : List Found} {fuel : Nat}
    (all : membersFrom fuel rest = .ok (found :: more)) (file : found.isFile = true) :
    firstFileFrom fuel rest = .ok found.data := by
  cases fuel with
  | zero => cases all
  | succ fuel =>
    rw [membersFrom] at all
    rw [firstFileFrom]
    cases next : next? (fuel + 1) {} rest with
    | error fault => rw [next] at all; cases all
    | ok come =>
      rw [next] at all
      cases come with
      | none => cases all
      | some come =>
        obtain ⟨first, after⟩ := come
        dsimp only at all ⊢
        cases others : membersFrom fuel after with
        | error fault => rw [others] at all; cases all
        | ok others' =>
          rw [others] at all
          obtain ⟨rfl, -⟩ := List.cons.inj (Except.ok.inj all)
          exact if_pos file

/-- The only member of an archive is a regular file. -/
structure Holds (archive : Bytes) (found : Found) : Prop where
  members : members archive = .ok [found]
  file : found.isFile = true

theorem Holds.firstFile {found : Found} (holds : Holds archive found) :
    firstFile archive = .ok found.data :=
  firstFileFrom_of_membersFrom holds.members holds.file

/-- What is found shows a file as it was given. -/
structure ShowsFile (name : String) (contents : Bytes) (mode : Nat) (found : Found) : Prop where
  data : found.data = contents
  /-- the digits of the mode, of which the field has seven -/
  digits : octal? (slice 100 8 found.header) = some (mode % 8 ^ 7)
  /-- the permission bits -/
  mode : found.mode = mode % 0o10000
  name : found.nameBytes = Bytes.ofString (kept name)

theorem isPlain_zero : IsPlain 0 := by
  unfold IsPlain
  decide

/-- **An archive of one file holds that file and nothing else.** -/
theorem singleFile_holds (written : singleFile name contents mode = .ok archive)
    (fits : archive.length < UInt64.size) :
    ∃ found, Holds archive found ∧ ShowsFile name contents mode found := by
  rw [singleFile] at written
  cases placed : placeName name with
  | error fault =>
    rw [placed] at written
    cases written
  | ok place =>
    obtain ⟨front, field⟩ := place
    obtain ⟨longName, announces, named⟩ := announces_kept placed
    rw [placed] at written
    obtain rfl := Except.ok.inj written
    generalize made : ({ name := field, mode, owned := false, size := contents.length, kind := 0 } :
      Header) = header at *
    have stands : header.name = field := by rw [← made]
    have kind : header.kind = 0 := by rw [← made]
    have size : header.size = contents.length := by rw [← made]
    have given : header.mode = mode := by rw [← made]
    have leaves : Rest.Leaves { bytes := front ++ header.block ++ padded contents ++ ending }
        (front ++ ([] ++ (header.block ++ (padded contents ++ ending)))) := by
      refine ⟨Nat.zero_le _, ?_, by rwa [Nat.zero_add]⟩
      simp only [List.drop_zero, List.append_assoc, List.nil_append]
    have enough : 3 ≤ blockCount (front ++ header.block ++ padded contents ++ ending) := by
      have block := header.length_block
      have closing : ending.length = 2 * blockSize := List.length_replicate
      simp only [blockCount, List.length_append, block, closing, blockSize]
      omega
    obtain ⟨found, after, ended, next, same, data, long, -⟩ :=
      next?_announced announces .nothing (kind ▸ isPlain_zero) size leaves enough
    refine ⟨found, ⟨?_, ?_⟩, ⟨data, ?_, ?_, named header found same stands long⟩⟩
    · rw [members, blockCount, membersFrom]
      rw [blockCount] at next
      simp only [next, membersFrom, next?_ending ended, Except.map]
    · rw [Found.isFile, kind_block same, kind]
      rfl
    · rw [same, header.mode_block, given]
    · rw [mode_found same, given]

/-- **An archive of one file is read back** if its length is a number of 64 bits, as that of all
bytes in a memory is. The first file of it has the contents given, whatever their length, and the
archive has no other member. The member is a regular file with the mode given, as far as the field
for modes has digits. Its name is what is kept of the name given: all of it if the field for names
cannot take it, and else the name with single slashes and without points, which leads through the
same directories and is the name given if that consists of names of entries. -/
theorem singleFile_read_back (written : singleFile name contents mode = .ok archive)
    (fits : archive.length < UInt64.size) :
    firstFile archive = .ok contents ∧
      ∃ found, members archive = .ok [found] ∧ found.isFile = true ∧ found.data = contents ∧
        octal? (slice 100 8 found.header) = some (mode % 8 ^ 7) ∧ found.mode = mode % 0o10000 ∧
        found.nameBytes = Bytes.ofString (kept name) ∧
        (Path.pieces (kept name)).filter (· ≠ ".") = (Path.pieces name).filter (· ≠ ".") ∧
        ∀ names, names ≠ [] → (∀ part ∈ names, IsName part) → name = Text.join "/" names →
          found.nameBytes = Bytes.ofString name := by
  obtain ⟨found, holds, shows⟩ := singleFile_holds written fits
  refine ⟨shows.data ▸ holds.firstFile, found, holds.members, holds.file, shows.data, shows.digits,
    shows.mode, shows.name, pieces_kept name, ?_⟩
  rintro names some each rfl
  rw [shows.name, kept_join each some]

/-- A small archive of one file. -/
def smallFile (name : String) (contents : Bytes) (mode : Nat) : Bytes :=
  match singleFile name contents mode with
  | .ok archive => archive
  | .error _ => []

theorem smallFile_written (length : (smallFile name contents mode).length = 4 * blockSize) :
    singleFile name contents mode = .ok (smallFile name contents mode) ∧
      (smallFile name contents mode).length < UInt64.size := by
  refine ⟨?_, ?_⟩
  · rw [smallFile] at length ⊢
    split at length
    · next written => simp only [written]
    · cases length
  · rw [length]
    decide

theorem firstFile_smallFile (length : (smallFile name contents mode).length = 4 * blockSize) :
    firstFile (smallFile name contents mode) = .ok contents := by
  obtain ⟨written, fits⟩ := smallFile_written length
  obtain ⟨found, holds, shows⟩ := singleFile_holds written fits
  exact shows.data ▸ holds.firstFile

theorem singleFile_read_back_trampoline :
    singleFile "trampoline" [0x23, 0x21] 0o555 = .ok (smallFile "trampoline" [0x23, 0x21] 0o555) ∧
      (smallFile "trampoline" [0x23, 0x21] 0o555).length < UInt64.size ∧
      firstFile (smallFile "trampoline" [0x23, 0x21] 0o555) = .ok [0x23, 0x21] := by
  have length : (smallFile "trampoline" [0x23, 0x21] 0o555).length = 4 * blockSize := by
    decide +kernel
  obtain ⟨written, fits⟩ := smallFile_written length
  exact ⟨written, fits, (singleFile_read_back written fits).1⟩

/-- **A point in front of a name is lost.** -/
theorem pointed_name_shortened :
    singleFile "./a" [0x23, 0x21] 0o555 = .ok (smallFile "./a" [0x23, 0x21] 0o555) ∧
      ∃ found, members (smallFile "./a" [0x23, 0x21] 0o555) = .ok [found] ∧
        found.nameBytes = Bytes.ofString "a" ∧ Bytes.ofString "a" ≠ Bytes.ofString "./a" := by
  have length : (smallFile "./a" [0x23, 0x21] 0o555).length = 4 * blockSize := by decide +kernel
  obtain ⟨written, fits⟩ := smallFile_written length
  have point : kept "./a" = "a" := by decide +kernel
  obtain ⟨found, holds, shows⟩ := singleFile_holds written fits
  refine ⟨written, found, holds.members, ?_, by decide⟩
  rw [shows.name, point]

end BuildYard.Archive
