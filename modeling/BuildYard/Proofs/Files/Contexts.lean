import BuildYard.Proofs.Archive.Reading
import BuildYard.Proofs.Files.Walks

/-!
# What a build context holds

The archive of a context has a member for each thing below the directory, in the
order of a walk, and the chosen Dockerfile at its end. What is left out is the
thing at the chosen path and whatever is called `Dockerfile` at the root, with
all that lies below it (`Lists`). The chosen path leaves out nothing else,
because a directory cannot stand there: it would have been chosen itself
(`keeps_iff_of_chosen`).

With a regular file for a Dockerfile every context can be packed, and the archive
reads back as what it was made of, whatever order directories list their entries
in (`pack_chosen_file`). A Dockerfile that is a link is found by the check that
comes before, which follows it, and is stored as the link that it is
(`stored_dockerfile`).
-/

set_option autoImplicit false

namespace BuildYard.BuildContext

open Archive (Member Shows)
open FileTree (Alike Proper Relisted contents contentsIn)
open BuildYard.Path (IsName)

variable {skip : String → Bool} {dir path : List String} {name : String} {tree found : FileTree}
  {entries : List (String × FileTree)}

/-! ## Members of a tree -/

theorem memberOf_normalize (name : String) (tree : FileTree) :
    memberOf name (normalize tree) = memberOf name tree := by
  cases tree with
  | directory =>
    rw [normalize]
    rfl
  | file | link => rfl

theorem name_memberOf (name : String) (tree : FileTree) : (memberOf name tree).name = name := by
  cases tree <;> rfl

/-- A relative path is the names on the way, joined. -/
theorem childName_join (each : ∀ other ∈ dir, IsName other) (name : String) :
    childName (Text.join "/" dir) name = Text.join "/" (dir ++ [name]) := by
  rw [childName]
  by_cases none : dir = []
  · rw [none]
    rfl
  · rw [if_neg (mt String.isEmpty_iff.mp (Archive.join_ne_empty each none)), Text.join, Text.join,
      String.intercalate_append_of_ne_nil none (List.cons_ne_nil _ _)]
    rfl

/-- Whether nothing on the way to something is left out. -/
def keeps (skip : String → Bool) : List String → List String → Bool
  | _, [] => true
  | dir, name :: path => !skip (Text.join "/" (dir ++ [name])) && keeps skip (dir ++ [name]) path

theorem keeps_eq_true_iff : keeps skip dir path = true ↔
    ∀ front, front <+: path → front ≠ [] → skip (Text.join "/" (dir ++ front)) = false := by
  induction path generalizing dir with
  | nil =>
    refine iff_of_true rfl fun front begins some => ?_
    exact absurd (List.prefix_nil.mp begins) some
  | cons name path ih =>
    rw [keeps, Bool.and_eq_true, Bool.not_eq_true', ih]
    constructor
    · rintro ⟨here, below⟩ front begins some
      obtain ⟨first, rest, rfl⟩ := List.exists_cons_of_ne_nil some
      obtain ⟨rfl, more⟩ := List.cons_prefix_cons.mp begins
      by_cases last : rest = []
      · rwa [last]
      · rw [List.append_cons]
        exact below rest more last
    · intro all
      refine ⟨all [name] (List.cons_prefix_cons.mpr ⟨rfl, List.nil_prefix⟩) (List.cons_ne_nil _ _), ?_⟩
      intro front begins _
      rw [← List.append_cons]
      exact all (name :: front) (List.cons_prefix_cons.mpr ⟨rfl, begins⟩) (List.cons_ne_nil _ _)

/-- The member for something below the directory at `dir`. -/
def memberAt (dir : List String) (inside : List String × FileTree) : Member :=
  memberOf (Text.join "/" (dir ++ inside.1)) inside.2

/-- What a walk from `dir` meets and nothing leaves out. -/
def listed (skip : String → Bool) (dir : List String) (inside : List (List String × FileTree)) :
    List Member :=
  (inside.filter (keeps skip dir ·.1)).map (memberAt dir)

theorem listed_append (front back : List (List String × FileTree)) :
    listed skip dir (front ++ back) = listed skip dir front ++ listed skip dir back := by
  rw [listed, List.filter_append, List.map_append]
  rfl

/-- With something that is left out, so is all below it. -/
theorem listed_of_skip (out : skip (Text.join "/" (dir ++ [name])) = true) :
    listed skip dir (contentsIn [(name, tree)]) = [] := by
  rw [listed, List.map_eq_nil_iff, List.filter_eq_nil_iff]
  rintro ⟨path, found⟩ member
  obtain ⟨first, child, back, only, split, -⟩ := FileTree.mem_contentsIn.mp member
  obtain ⟨rfl, -⟩ := Prod.mk.inj (List.mem_singleton.mp only)
  rw [split, keeps, out]
  exact Bool.false_ne_true

/-- Of something that is not left out, it comes first and then what is below it. -/
theorem listed_of_kept (kept : skip (Text.join "/" (dir ++ [name])) = false) :
    listed skip dir (contentsIn [(name, tree)]) =
      memberOf (Text.join "/" (dir ++ [name])) tree :: listed skip (dir ++ [name]) (contents tree) := by
  have below (path : List String) :
      keeps skip dir (name :: path) = keeps skip (dir ++ [name]) path := by
    rw [keeps, kept, Bool.not_false, Bool.true_and]
  have here : keeps skip dir [name] = true := below []
  have place (inside : List String × FileTree) :
      memberAt dir (name :: inside.1, inside.2) = memberAt (dir ++ [name]) inside := by
    rw [memberAt, List.append_cons]
    rfl
  rw [contentsIn, contentsIn, List.append_nil, listed, List.filter_cons,
    if_pos here, List.map_cons, List.filter_map, List.map_map]
  simp only [Function.comp_def, below, place]
  rfl

theorem membersIn_eq_of_each (each : ∀ entry ∈ entries,
      membersOf skip (Text.join "/" dir) entry.1 entry.2 = listed skip dir (contentsIn [entry])) :
    membersIn skip (Text.join "/" dir) entries = listed skip dir (contentsIn entries) := by
  induction entries with
  | nil => rfl
  | cons entry rest ih =>
    obtain ⟨first, others⟩ := List.forall_mem_cons.mp each
    have split : contentsIn (entry :: rest) = contentsIn [entry] ++ contentsIn rest := by
      rw [contentsIn, contentsIn, contentsIn, List.append_nil]
    rw [membersIn, first, ih others, split, listed_append]

/-- **The members for a tree are the members for what a walk meets and nothing leaves out.** -/
theorem membersOf_eq (proper : Proper tree) (each : ∀ other ∈ dir, IsName other) (named : IsName name) :
    membersOf skip (Text.join "/" dir) name tree = listed skip dir (contentsIn [(name, tree)]) := by
  induction proper generalizing dir name with
  | file | link =>
    rw [membersOf, childName_join each]
    by_cases out : skip (Text.join "/" (dir ++ [name])) = true
    · rw [if_pos out, listed_of_skip out]
    · rw [if_neg out, listed_of_kept (Bool.eq_false_iff.mpr out)]
      rfl
  | @directory mode entries distinct names proper ih =>
    rw [membersOf, childName_join each]
    by_cases out : skip (Text.join "/" (dir ++ [name])) = true
    · rw [if_pos out, listed_of_skip out]
    · have here : ∀ other ∈ dir ++ [name], IsName other :=
        List.forall_mem_append.mpr ⟨each, List.forall_mem_singleton.mpr named⟩
      rw [if_neg out, listed_of_kept (Bool.eq_false_iff.mpr out),
        membersIn_eq_of_each fun entry member => ih entry member here (names entry member)]
      rfl

/-- **The members for a sorted directory are the members for what a walk over it meets.** -/
theorem membersIn_sorted {mode : Nat} (proper : Proper (.directory mode entries)) :
    membersIn skip "" (sorted (normalizeAll entries)) =
      listed skip [] (contents (normalize (.directory mode entries))) := by
  have normal := proper.normalize
  rw [normalize] at normal ⊢
  cases normal with
  | directory distinct names each =>
    exact membersIn_eq_of_each fun entry member =>
      membersOf_eq (each entry member) (List.forall_mem_nil _) (names entry member)

/-- Each member stands for something in the directory that is not left out. -/
theorem of_mem_membersIn {mode : Nat} {member : Member} (proper : Proper (.directory mode entries))
    (inside : member ∈ membersIn skip "" (sorted (normalizeAll entries))) :
    ∃ path tree, path ≠ [] ∧ (FileTree.directory mode entries).descend path = some tree ∧
      keeps skip [] path = true ∧ member = memberOf (Text.join "/" path) tree := by
  rw [membersIn_sorted proper] at inside
  obtain ⟨⟨path, found⟩, met, rfl⟩ := List.mem_map.mp inside
  obtain ⟨met, kept⟩ := List.mem_filter.mp met
  obtain ⟨some, tree, below, rfl⟩ := (FileTree.mem_contents_normalize proper).mp met
  exact ⟨path, tree, some, below, kept, memberOf_normalize _ tree⟩

/-! ## What is left out -/

theorem isName_dockerfileName : IsName dockerfileName :=
  ⟨⟨by decide, by decide⟩, by decide, by decide, by decide⟩

/-- Names are told by the path that they make. -/
theorem join_inj {other : List String} (each : ∀ name ∈ path, IsName name)
    (others : ∀ name ∈ other, IsName name) :
    Text.join "/" path = Text.join "/" other ↔ path = other := by
  refine ⟨fun same => ?_, congrArg _⟩
  rw [← Path.pieces_join fun name member => (each name member).toIsPiece, same,
    Path.pieces_join fun name member => (others name member).toIsPiece]

theorem isLeftOut_eq_false_iff {context dockerfile : String} (each : ∀ name ∈ path, IsName name) :
    isLeftOut context dockerfile (Text.join "/" path) = false ↔
      Path.same (Path.join context (Text.join "/" path)) dockerfile = false ∧
        path ≠ [dockerfileName] := by
  have atRoot : Text.join "/" [dockerfileName] = dockerfileName := rfl
  rw [isLeftOut, Bool.or_eq_false_iff, beq_eq_false_iff_ne]
  refine and_congr_right fun _ => not_congr ?_
  rw [← atRoot]
  exact join_inj each (List.forall_mem_singleton.mpr isName_dockerfileName)

section Chosen

variable {root directory chosen entry : FileTree} {base context dockerfile : String}

/-- **A chosen file leaves out only itself**, and nothing that is not called `Dockerfile` at the
root or below that. -/
theorem keeps_iff_of_chosen {mode : Nat} {data : Bytes} (proper : Proper directory)
    (inside : root.find base true context = .ok directory)
    (chosen : root.find base false dockerfile = .ok (.file mode data))
    (below : directory.descend path = some entry) (filled : path ≠ []) :
    keeps (isLeftOut context dockerfile) [] path = true ↔
      path.head? ≠ some dockerfileName ∧
        Path.same (Path.join context (Text.join "/" path)) dockerfile = false := by
  have each := proper.isName_of_descend below
  have eachOf {front : List String} (begins : front <+: path) : ∀ name ∈ front, IsName name :=
    fun name member => each name (begins.subset member)
  rw [keeps_eq_true_iff]
  simp only [List.nil_append]
  constructor
  · intro kept
    refine ⟨fun first => ?_, ((isLeftOut_eq_false_iff each).mp
      (kept path (List.prefix_refl _) filled)).1⟩
    obtain ⟨rest, rfl⟩ := List.head?_eq_some_iff.mp first
    have begins : [dockerfileName] <+: dockerfileName :: rest := ⟨rest, rfl⟩
    exact ((isLeftOut_eq_false_iff (eachOf begins)).mp (kept _ begins (List.cons_ne_nil _ _))).2 rfl
  · rintro ⟨first, differs⟩ front begins some
    refine (isLeftOut_eq_false_iff (eachOf begins)).mpr ⟨?_, ?_⟩
    · obtain ⟨back, rfl⟩ := begins
      cases back with
      | nil => rwa [List.append_nil] at differs
      | cons next back =>
        -- a directory at the chosen path would be the chosen file
        obtain ⟨above, here, more⟩ := Option.bind_eq_some_iff.mp
          ((FileTree.descend_append _ _).symm.trans below)
        refine Bool.eq_false_iff.mpr fun same => ?_
        have file := FileTree.entry_of_same inside some (eachOf (List.prefix_append _ _)) here
          (FileTree.not_link_of_below more) same chosen nofun
        rw [← file] at more
        cases more
    · rintro rfl
      obtain ⟨back, rfl⟩ := begins
      exact first rfl

end Chosen

/-! ## What is packed -/

section Pack

variable {root other : FileTree} {base context dockerfile : String} {members : List Member}
  {archive : Bytes}

theorem archiveMembers_eq_ok : archiveMembers root base context dockerfile = .ok members ↔
    ∃ mode entries chosen, root.find base true context = .ok (.directory mode entries) ∧
      root.find base false dockerfile = .ok chosen ∧
      members = membersIn (isLeftOut context dockerfile) "" (sorted (normalizeAll entries)) ++
        [memberOf dockerfileName chosen] := by
  rw [archiveMembers]
  cases inside : root.find base true context with
  | error cause => simp [bind, Except.bind]
  | ok tree =>
    cases tree with
    | file | link => simp [bind, Except.bind]
    | directory mode entries =>
      cases root.find base false dockerfile with
      | error cause => simp [bind, Except.bind]
      | ok chosen => simp [bind, Except.bind, eq_comm]

theorem pack_eq_ok : pack root base context dockerfile = .ok archive ↔
    ∃ members, archiveMembers root base context dockerfile = .ok members ∧
      Archive.encode members = .ok archive := by
  rw [pack]
  cases archiveMembers root base context dockerfile with
  | error cause => simp [bind, Except.bind]
  | ok members =>
    cases written : Archive.encode members <;> simp [bind, Except.bind, written]

/-- **Trees that look alike are packed alike.** -/
theorem pack_of_alike (alike : Alike root other)
    (packed : pack root base context dockerfile = .ok archive) :
    pack other base context dockerfile = .ok archive := by
  obtain ⟨members, which, written⟩ := pack_eq_ok.mp packed
  obtain ⟨mode, entries, chosen, inside, found, rfl⟩ := archiveMembers_eq_ok.mp which
  obtain ⟨twin, insideTwin, same⟩ := alike.find inside
  obtain ⟨file, foundFile, sameFile⟩ := alike.find found
  refine pack_eq_ok.mpr ⟨_, archiveMembers_eq_ok.mpr ?_, written⟩
  cases twin with
  | file | link => cases same
  | directory otherMode others =>
    obtain ⟨rfl, sameEntries⟩ := FileTree.directory.inj same
    refine ⟨otherMode, others, file, insideTwin, foundFile, ?_⟩
    rw [← sameEntries, ← memberOf_normalize _ file, sameFile, memberOf_normalize]

end Pack

/-! ## Names and totality -/

/-- The name of a member is the path of an entry. -/
def IsNamed (member : Member) : Prop :=
  ∃ path, path ≠ [] ∧ (∀ name ∈ path, IsName name) ∧ member.name = Text.join "/" path

theorem isNamed_dockerfile (tree : FileTree) : IsNamed (memberOf dockerfileName tree) :=
  ⟨[dockerfileName], List.cons_ne_nil _ _, List.forall_mem_singleton.mpr isName_dockerfileName,
    name_memberOf _ tree⟩

section Names

variable {mode : Nat} {context dockerfile : String} {member : Member} {members : List Member}
  {chosen : FileTree}

theorem isNamed_of_mem (proper : Proper (.directory mode entries))
    (inside : member ∈ membersIn skip "" (sorted (normalizeAll entries))) : IsNamed member := by
  obtain ⟨path, tree, some, below, -, rfl⟩ := of_mem_membersIn proper inside
  exact ⟨path, some, proper.isName_of_descend below, name_memberOf _ tree⟩

theorem isNamed_of_mem_members (proper : Proper (.directory mode entries)) (chosen : FileTree) :
    ∀ member ∈ membersIn skip "" (sorted (normalizeAll entries)) ++ [memberOf dockerfileName chosen],
      IsNamed member :=
  List.forall_mem_append.mpr ⟨fun _ => isNamed_of_mem proper,
    List.forall_mem_singleton.mpr (isNamed_dockerfile chosen)⟩

/-- **Only the chosen Dockerfile is called so.** -/
theorem name_ne_dockerfileName (proper : Proper (.directory mode entries))
    (inside : member ∈ membersIn (isLeftOut context dockerfile) "" (sorted (normalizeAll entries))) :
    member.name ≠ dockerfileName := by
  obtain ⟨path, tree, some, -, kept, rfl⟩ := of_mem_membersIn proper inside
  have notOut := keeps_eq_true_iff.mp kept path (List.prefix_refl _) some
  rw [name_memberOf]
  rw [List.nil_append, isLeftOut, Bool.or_eq_false_iff, beq_eq_false_iff_ne] at notOut
  exact notOut.2

/-- A member can be written if it stands for something that hosts have. -/
theorem encode_memberOf (named : IsNamed (memberOf name tree)) (proper : Proper tree) :
    ∃ bytes, (memberOf name tree).encode = .ok bytes := by
  obtain ⟨path, some, each, same⟩ := named
  refine Member.encode_ok ?_ fun target link => ?_
  · rw [same]
    exact Archive.placeName_join each some
  · cases proper with
    | link filled noNul =>
      obtain rfl := Archive.Content.link.inj link
      exact Archive.placeLink_target filled noNul
    | file | directory => cases link

/-- **The members of a proper directory and a chosen file can be written.** -/
theorem encode_members (proper : Proper (.directory mode entries)) (chosenProper : Proper chosen) :
    ∃ archive, Archive.encode (membersIn skip "" (sorted (normalizeAll entries)) ++
      [memberOf dockerfileName chosen]) = .ok archive := by
  refine Archive.encode_ok (List.forall_mem_append.mpr ⟨fun member inside => ?_, ?_⟩)
  · have named := isNamed_of_mem proper inside
    obtain ⟨path, tree, -, below, -, rfl⟩ := of_mem_membersIn proper inside
    exact encode_memberOf named (proper.of_descend below)
  · exact List.forall_mem_singleton.mpr (encode_memberOf (isNamed_dockerfile chosen) chosenProper)

/-- What is found shows a member, under the very name. -/
structure ReadsBack (member : Member) (found : Archive.Found) : Prop extends Shows member found where
  sameName : found.nameBytes = Bytes.ofString member.name

/-- **Names of entries read back as they are.** -/
theorem readsBack_of_shows {found : Archive.Found} (named : IsNamed member)
    (shows : Shows member found) : ReadsBack member found := by
  obtain ⟨path, some, each, name⟩ := named
  obtain ⟨text, bytes, same | written⟩ := shows.name
  · exact ⟨shows, bytes.trans (congrArg _ same)⟩
  · rw [name, Archive.fieldText_join each some] at written
    exact ⟨shows, by rw [bytes, name, Except.ok.inj written]⟩

theorem readsBack_members {archive : Bytes} (each : ∀ member ∈ members, IsNamed member)
    (written : Archive.encode members = .ok archive) (fits : archive.length < UInt64.size) :
    ∃ found, Archive.members archive = .ok found ∧ List.Forall₂ ReadsBack members found := by
  obtain ⟨found, read, shown⟩ := Archive.members_encode written fits
  refine ⟨found, read, ?_⟩
  clear written read
  induction shown with
  | nil => exact .nil
  | cons shows _ ih =>
    obtain ⟨named, others⟩ := List.forall_mem_cons.mp each
    exact .cons (readsBack_of_shows named shows) (ih others)

/-- Members and what is found of them are told by their names. -/
theorem ReadsBack.name_iff {found : Archive.Found} (back : ReadsBack member found) (name : String) :
    (member.name == name) = true ↔ (found.nameBytes == Bytes.ofString name) = true := by
  rw [beq_iff_eq, beq_iff_eq, back.sameName]
  exact ⟨congrArg _, fun same => Bytes.ofString_injective same⟩

end Names

/-! ## Contexts -/

/-- What of a directory is packed beside the chosen Dockerfile: by the names of what lies below it,
in their order, with a member for each. -/
structure Lists (context dockerfile : String) (directory : FileTree) (paths : List (List String))
    (members : List Member) : Prop where
  sorted : paths.Pairwise (· < ·)
  mem_iff : ∀ path, path ∈ paths ↔ path ≠ [] ∧ (directory.descend path).isSome = true ∧
    path.head? ≠ some dockerfileName ∧
    Path.same (Path.join context (Text.join "/" path)) dockerfile = false
  each : List.Forall₂ (fun path member => ∃ tree, directory.descend path = some tree ∧
    member = memberOf (Text.join "/" path) tree) paths members

section Lists

variable {context dockerfile : String} {directory : FileTree} {paths : List (List String)}
  {members : List Member}

/-- The members for a sorted directory list it, if what a walk leaves out is what is not listed. -/
theorem lists_membersIn {mode : Nat} (proper : Proper (.directory mode entries))
    (kept : ∀ path tree, path ≠ [] → (FileTree.directory mode entries).descend path = some tree →
      (keeps (isLeftOut context dockerfile) [] path = true ↔ path.head? ≠ some dockerfileName ∧
        Path.same (Path.join context (Text.join "/" path)) dockerfile = false)) :
    ∃ paths, Lists context dockerfile (.directory mode entries) paths
      (membersIn (isLeftOut context dockerfile) "" (sorted (normalizeAll entries))) := by
  rw [membersIn_sorted proper, listed]
  refine ⟨((contents (normalize (.directory mode entries))).filter
    (keeps (isLeftOut context dockerfile) [] ·.1)).map (·.1), ?_, fun path => ?_, ?_⟩
  · exact (FileTree.contents_normalize_sorted proper).sublist (List.filter_sublist.map _)
  · rw [List.mem_map]
    constructor
    · rintro ⟨⟨path, found⟩, met, rfl⟩
      obtain ⟨met, keeps⟩ := List.mem_filter.mp met
      obtain ⟨some, tree, below, -⟩ := (FileTree.mem_contents_normalize proper).mp met
      exact ⟨some, Option.isSome_iff_exists.mpr ⟨tree, below⟩, (kept path tree some below).mp keeps⟩
    · rintro ⟨some, there, keeps⟩
      obtain ⟨tree, below⟩ := Option.isSome_iff_exists.mp there
      have met := (FileTree.mem_contents_normalize proper).mpr ⟨some, tree, below, rfl⟩
      exact ⟨(path, normalize tree),
        List.mem_filter.mpr ⟨met, (kept path tree some below).mpr keeps⟩, rfl⟩
  · rw [List.forall₂_map_left_iff, List.forall₂_map_right_iff, List.forall₂_same]
    rintro ⟨path, found⟩ met
    obtain ⟨-, tree, below, rfl⟩ :=
      (FileTree.mem_contents_normalize proper).mp (List.mem_filter.mp met).1
    exact ⟨tree, below, memberOf_normalize _ tree⟩

/-- The names of the members are the paths. -/
theorem Lists.names (lists : Lists context dockerfile directory paths members) :
    members.map (·.name) = paths.map (Text.join "/") := by
  have each := lists.each
  clear lists
  induction each with
  | nil => rfl
  | cons here _ ih =>
    obtain ⟨tree, -, rfl⟩ := here
    rw [List.map_cons, List.map_cons, ih, name_memberOf]

/-- **No two members have one name.** -/
theorem Lists.nodup (lists : Lists context dockerfile directory paths members)
    (proper : Proper directory) : (members.map (·.name)).Nodup := by
  have each : ∀ path ∈ paths, ∀ name ∈ path, IsName name := by
    intro path listed
    obtain ⟨-, there, -⟩ := (lists.mem_iff path).mp listed
    obtain ⟨tree, below⟩ := Option.isSome_iff_exists.mp there
    exact proper.isName_of_descend below
  rw [lists.names]
  refine List.pairwise_map.mpr (lists.sorted.imp_of_mem fun listed otherListed less same => ?_)
  rw [(join_inj (each _ listed) (each _ otherListed)).mp same] at less
  exact List.lt_irrefl _ less

end Lists

/-! ## A Dockerfile and a link to it -/

/-- A directory with a Dockerfile and a link to it. -/
def linkedDockerfile : FileTree :=
  .directory 0o755 [("Dockerfile", .file 0o644 (Bytes.ofString "FROM scratch\n")),
    ("ci.Dockerfile", .link "Dockerfile")]

theorem proper_linkedDockerfile : Proper linkedDockerfile := by
  refine .directory (by decide) ?_ ?_
  · refine List.forall_mem_cons.mpr ⟨isName_dockerfileName, List.forall_mem_singleton.mpr ?_⟩
    exact ⟨⟨by decide, by decide⟩, by decide, by decide, by decide⟩
  · refine List.forall_mem_cons.mpr ⟨.file _ _, List.forall_mem_singleton.mpr ?_⟩
    exact .link (by decide) (by decide)

/-- What the paths of the directory lead to. -/
theorem find_linkedDockerfile :
    linkedDockerfile.find "/" true "." = .ok linkedDockerfile ∧
      linkedDockerfile.find "/" false "Dockerfile" =
        .ok (.file 0o644 (Bytes.ofString "FROM scratch\n")) ∧
      linkedDockerfile.find "/" false "ci.Dockerfile" = .ok (.link "Dockerfile") ∧
      linkedDockerfile.find "/" true "ci.Dockerfile" =
        .ok (.file 0o644 (Bytes.ofString "FROM scratch\n")) := by
  have base : Path.pieces "/" = [] := by decide
  have point : FileTree.steps "." = ["."] ∧ Path.isAbsolute "." = false ∧ ".".utf8ByteSize = 1 := by
    decide +kernel
  have file : FileTree.steps "Dockerfile" = ["Dockerfile"] ∧ Path.isAbsolute "Dockerfile" = false ∧
      "Dockerfile".utf8ByteSize = 10 := by
    decide +kernel
  have link : FileTree.steps "ci.Dockerfile" = ["ci.Dockerfile"] ∧
      Path.isAbsolute "ci.Dockerfile" = false ∧ "ci.Dockerfile".utf8ByteSize = 13 := by
    decide +kernel
  simp [FileTree.find, FileTree.locate, FileTree.walk, FileTree.descend, FileTree.child?,
    FileTree.isDirectory, FileTree.maxPath, FileTree.maxName, FileTree.maxLinks, linkedDockerfile,
    base, point, file, link, bind, Except.bind]

/-! ## Whole archives -/

section Whole

variable {root : FileTree} {base context dockerfile : String} {mode fileMode : Nat}
  {data archive : Bytes}

/-- **A directory that is there can be packed with whatever stands at the chosen path.** -/
theorem pack_of_found {chosen : FileTree} (proper : Proper root)
    (directory : root.find base true context = .ok (.directory mode entries))
    (found : root.find base false dockerfile = .ok chosen) :
    ∃ archive, pack root base context dockerfile = .ok archive ∧
      Archive.encode (membersIn (isLeftOut context dockerfile) "" (sorted (normalizeAll entries)) ++
        [memberOf dockerfileName chosen]) = .ok archive := by
  obtain ⟨archive, written⟩ := encode_members (proper.of_find directory) (proper.of_find found)
  have which := archiveMembers_eq_ok.mpr ⟨mode, entries, chosen, directory, found, rfl⟩
  exact ⟨archive, pack_eq_ok.mpr ⟨_, which, written⟩, written⟩

/-- **A context with a regular file for a Dockerfile is packed as it is**: everything below the
directory once and in order, but for what stands at the chosen path or is called `Dockerfile` at the
root, and then the chosen file. It reads back so, and in whatever order directories list their
entries. -/
theorem pack_chosen_file (proper : Proper root)
    (directory : root.find base true context = .ok (.directory mode entries))
    (chosen : root.find base false dockerfile = .ok (.file fileMode data)) :
    ∃ paths inside members archive,
      Lists context dockerfile (.directory mode entries) paths inside ∧
      members = inside ++ [{ name := dockerfileName, mode := fileMode, content := .file data }] ∧
      archiveMembers root base context dockerfile = .ok members ∧
      (members.map (·.name)).Nodup ∧
      pack root base context dockerfile = .ok archive ∧
      (archive.length < UInt64.size → ∃ found, Archive.members archive = .ok found ∧
        List.Forall₂ ReadsBack members found) ∧
      ∀ other, Relisted root other → pack other base context dockerfile = .ok archive := by
  have properDirectory := proper.of_find directory
  obtain ⟨paths, lists⟩ := lists_membersIn properDirectory fun path tree some below =>
    keeps_iff_of_chosen properDirectory directory chosen below some
  obtain ⟨archive, packed, written⟩ := pack_of_found proper directory chosen
  have which := archiveMembers_eq_ok.mpr ⟨mode, entries, _, directory, chosen, rfl⟩
  refine ⟨paths, _, _, archive, lists, rfl, which, ?_, packed, ?_, fun other relisted => ?_⟩
  · rw [List.map_append, List.nodup_append]
    refine ⟨lists.nodup properDirectory, List.pairwise_singleton _ _, ?_⟩
    intro name inside other last same
    obtain ⟨member, listed, rfl⟩ := List.mem_map.mp inside
    exact name_ne_dockerfileName properDirectory listed (same.trans (List.mem_singleton.mp last))
  · exact readsBack_members (isNamed_of_mem_members properDirectory (.file fileMode data)) written
  · exact pack_of_alike (relisted.alike proper) packed

/-- The directory is packed alike if it lists the link first. -/
theorem pack_chosen_file_linkFirst : ∃ archive,
    pack linkedDockerfile "/" "." "Dockerfile" = .ok archive ∧
      pack (.directory 0o755 [("ci.Dockerfile", .link "Dockerfile"),
        ("Dockerfile", .file 0o644 (Bytes.ofString "FROM scratch\n"))]) "/" "." "Dockerfile" =
          .ok archive := by
  obtain ⟨directory, file, -⟩ := find_linkedDockerfile
  obtain ⟨_, _, _, archive, -, -, -, -, packed, -, anyOrder⟩ :=
    pack_chosen_file proper_linkedDockerfile directory file
  exact ⟨archive, packed, anyOrder _ (.listing (List.Perm.swap _ _ []))⟩

/-- What the check finds to be a file is one, or a link to one. -/
theorem file_or_link_of_fileAt {chosen : FileTree} (checked : root.fileAt base dockerfile = true)
    (found : root.find base false dockerfile = .ok chosen) :
    ∃ data, root.read base dockerfile = .ok data ∧
      ((∃ mode, chosen = .file mode data) ∨ ∃ target, chosen = .link target) := by
  rw [FileTree.fileAt] at checked
  cases followed : root.find base true dockerfile with
  | error cause =>
    rw [followed] at checked
    cases checked
  | ok tree =>
    cases tree with
    | directory | link =>
      rw [followed] at checked
      cases checked
    | file mode data =>
      refine ⟨data, by rw [FileTree.read, followed]; rfl, ?_⟩
      cases chosen with
      | link target => exact .inr ⟨target, rfl⟩
      | directory => cases followed.symm.trans (FileTree.find_follow found nofun)
      | file =>
        obtain ⟨rfl, rfl⟩ := FileTree.file.inj (Except.ok.inj
          (followed.symm.trans (FileTree.find_follow found nofun)))
        exact .inl ⟨mode, rfl⟩

/-- **The stored Dockerfile is the chosen one, as it stands at its path.** If the check before finds
a regular file, the archive has one entry called `Dockerfile`, and this is a regular file with the
data that are read at the chosen path exactly if no link stands there; otherwise it is the link. -/
theorem stored_dockerfile (proper : Proper root) (checked : root.fileAt base dockerfile = true)
    (packed : pack root base context dockerfile = .ok archive) :
    ∃ members member data, archiveMembers root base context dockerfile = .ok members ∧
      members.filter (·.name == dockerfileName) = [member] ∧
      root.read base dockerfile = .ok data ∧
      (member.content = .file data ↔
        ∀ target, root.find base false dockerfile ≠ .ok (.link target)) ∧
      (∀ target, root.find base false dockerfile = .ok (.link target) →
        member.content = .link target) ∧
      (archive.length < UInt64.size → ∃ found entry, Archive.members archive = .ok found ∧
        found.filter (·.nameBytes == Bytes.ofString dockerfileName) = [entry] ∧
        ReadsBack member entry) := by
  obtain ⟨members, which, written⟩ := pack_eq_ok.mp packed
  obtain ⟨mode, entries, chosen, directory, found, rfl⟩ := archiveMembers_eq_ok.mp which
  have properDirectory := proper.of_find directory
  obtain ⟨data, read, kind⟩ := file_or_link_of_fileAt checked found
  have only : (membersIn (isLeftOut context dockerfile) "" (sorted (normalizeAll entries)) ++
      [memberOf dockerfileName chosen]).filter (·.name == dockerfileName) =
      [memberOf dockerfileName chosen] := by
    rw [List.filter_append, List.filter_eq_nil_iff.mpr, List.nil_append, List.filter_singleton,
      name_memberOf, beq_self_eq_true]
    · rfl
    · intro member inside same
      exact name_ne_dockerfileName properDirectory inside (beq_iff_eq.mp same)
  refine ⟨_, _, data, which, only, read, ?_, fun target link => ?_, fun fits => ?_⟩
  · rw [found]
    obtain ⟨fileMode, rfl⟩ | ⟨target, rfl⟩ := kind
    · exact iff_of_true rfl fun _ => nofun
    · exact iff_of_false nofun fun noLink => noLink target rfl
  · obtain rfl := Except.ok.inj (found.symm.trans link)
    rfl
  · obtain ⟨entries, read, back⟩ :=
      readsBack_members (isNamed_of_mem_members properDirectory chosen) written fits
    have filtered := List.rel_filter (fun _ _ back => back.name_iff dockerfileName) back
    rw [only, List.forall₂_cons_left_iff] at filtered
    obtain ⟨entry, rest, back, none, equal⟩ := filtered
    rw [List.forall₂_nil_left_iff.mp none] at equal
    exact ⟨entries, entry, read, equal, back⟩

/-- Chosen itself, the `Dockerfile` of the directory is stored as the file that it is. -/
theorem stored_dockerfile_linkedDockerfile : ∃ members member,
    archiveMembers linkedDockerfile "/" "." "Dockerfile" = .ok members ∧
      members.filter (·.name == dockerfileName) = [member] ∧
      member.content = .file (Bytes.ofString "FROM scratch\n") := by
  obtain ⟨directory, file, -⟩ := find_linkedDockerfile
  have followed := FileTree.find_follow file nofun
  obtain ⟨archive, packed, -⟩ := pack_of_found proper_linkedDockerfile directory file
  have checked : linkedDockerfile.fileAt "/" "Dockerfile" = true := by
    rw [FileTree.fileAt, followed]
    rfl
  obtain ⟨members, member, data, which, only, read, plain, -⟩ :=
    stored_dockerfile proper_linkedDockerfile checked packed
  rw [FileTree.read, followed] at read
  obtain rfl := Except.ok.inj read
  refine ⟨members, member, which, only, plain.mpr fun target link => ?_⟩
  cases file.symm.trans link

/-- **A link that passes the check is not stored as the file that was checked**: chosen as a link to
the `Dockerfile` beside it, the archive's only `Dockerfile` is a link to itself. -/
theorem checked_link_stored_as_link :
    ¬ ∀ (root : FileTree) (base context dockerfile : String) (archive : Bytes), Proper root →
      root.fileAt base dockerfile = true → pack root base context dockerfile = .ok archive →
      ∃ members member data, archiveMembers root base context dockerfile = .ok members ∧
        members.filter (·.name == dockerfileName) = [member] ∧
        root.read base dockerfile = .ok data ∧ member.content = .file data := by
  intro claimed
  obtain ⟨directory, -, link, followed⟩ := find_linkedDockerfile
  obtain ⟨archive, packed, -⟩ := pack_of_found proper_linkedDockerfile directory link
  have checked : linkedDockerfile.fileAt "/" "ci.Dockerfile" = true := by
    rw [FileTree.fileAt, followed]
    rfl
  obtain ⟨members, member, data, which, only, -, file⟩ :=
    claimed _ _ _ _ archive proper_linkedDockerfile checked packed
  obtain ⟨mode, entries, chosen, -, found, rfl⟩ := archiveMembers_eq_ok.mp which
  obtain rfl := Except.ok.inj (link.symm.trans found)
  have stored : memberOf dockerfileName (.link "Dockerfile") ∈ [member] := by
    rw [← only, List.filter_append]
    exact List.mem_append_right _ (List.mem_singleton_self _)
  rw [← List.mem_singleton.mp stored] at file
  cases file

end Whole

end BuildYard.BuildContext
