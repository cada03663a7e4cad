import BuildYard.BuildContext
import BuildYard.Proofs.Text.Paths

/-!
# What lies below a directory

Everything below a directory is reached by names from it, and the names in the
order of the alphabet give the order of a walk: siblings by their names, a
directory before what is in it. The walk over a tree (`contents`) meets each
thing that is there (`mem_contents`); over the sorted tree it meets the same
(`mem_contents_normalize`) in that order (`contents_normalize_sorted`). How
directories list their entries does not matter, because trees that differ in
nothing else are the same when they are sorted (`Relisted.normalize_eq`).
-/

set_option autoImplicit false

namespace BuildYard

open BuildYard.Path (IsName)
open BuildContext (normalizeAll sorted)

namespace FileTree

/-- A tree as a host has it: names and links are filled and have no zero in them, and no two entries
of a directory have one name. -/
inductive Proper : FileTree → Prop where
  | file (mode : Nat) (data : Bytes) : Proper (.file mode data)
  | link {target : String} (filled : target ≠ "") (noNul : Char.ofNat 0 ∉ target.toList) :
      Proper (.link target)
  | directory {mode : Nat} {entries : List (String × FileTree)}
      (distinct : (entries.map (·.1)).Nodup) (named : ∀ entry ∈ entries, IsName entry.1)
      (each : ∀ entry ∈ entries, Proper entry.2) : Proper (.directory mode entries)

/-- Trees that differ at most in the order in which directories list their entries. -/
inductive Relisted : FileTree → FileTree → Prop where
  | refl (tree : FileTree) : Relisted tree tree
  | trans {first second third : FileTree} :
      Relisted first second → Relisted second third → Relisted first third
  | listing {mode : Nat} {entries others : List (String × FileTree)} (same : entries.Perm others) :
      Relisted (.directory mode entries) (.directory mode others)
  | inside {mode : Nat} {name : String} {tree other : FileTree}
      (front back : List (String × FileTree)) : Relisted tree other →
      Relisted (.directory mode (front ++ (name, tree) :: back))
        (.directory mode (front ++ (name, other) :: back))

mutual

/-- Everything below a tree, by its names from there: each directory before what is in it. -/
def contents : FileTree → List (List String × FileTree)
  | .directory _ entries => contentsIn entries
  | _ => []

/-- The same for the entries of a directory, one after another. -/
def contentsIn : List (String × FileTree) → List (List String × FileTree)
  | [] => []
  | (name, tree) :: rest =>
    ([name], tree) :: (contents tree).map (fun (path, found) => (name :: path, found)) ++
      contentsIn rest

end

/-! ## Entries -/

section Entries

variable {mode : Nat} {entries : List (String × FileTree)} {name : String} {tree : FileTree}

theorem descend_cons (name : String) (path : List String) :
    tree.descend (name :: path) = (tree.child? name).bind (·.descend path) := by
  rw [descend]

theorem descend_append (front back : List String) :
    tree.descend (front ++ back) = (tree.descend front).bind (·.descend back) := by
  induction front generalizing tree with
  | nil => rfl
  | cons name front ih =>
    rw [List.cons_append, descend_cons, descend_cons, Option.bind_assoc]
    exact Option.bind_congr fun child _ => ih

/-- Where no two entries have one name, an entry is found by its name. -/
theorem child?_eq_some_iff (distinct : (entries.map (·.1)).Nodup) :
    (directory mode entries).child? name = some tree ↔ (name, tree) ∈ entries := by
  induction entries with
  | nil => exact iff_of_false nofun List.not_mem_nil
  | cons entry rest ih =>
    obtain ⟨first, found⟩ := entry
    obtain ⟨new, distinct⟩ := List.nodup_cons.mp distinct
    rw [child?, List.find?_cons, List.mem_cons]
    by_cases same : first = name
    · subst same
      simp only [beq_self_eq_true, Option.map_some, Option.some.injEq, Prod.mk.injEq, true_and]
      refine ⟨fun equal => .inl equal.symm, ?_⟩
      rintro (equal | later)
      · exact equal.symm
      · exact absurd (List.mem_map_of_mem later) new
    · have other : (first == name) = false := beq_eq_false_iff_ne.mpr same
      simp only [other]
      refine (ih distinct).trans ⟨.inr, ?_⟩
      rintro (equal | later)
      · exact absurd (congrArg Prod.fst equal).symm same
      · exact later

end Entries

/-! ## Everything below a directory -/

section Contents

variable {mode : Nat} {entries : List (String × FileTree)} {tree found : FileTree}
  {path : List String}

theorem mem_contentsIn : (path, found) ∈ contentsIn entries ↔ ∃ name child back,
    (name, child) ∈ entries ∧ path = name :: back ∧
      ((back, found) = ([], child) ∨ (back, found) ∈ contents child) := by
  induction entries with
  | nil => simp [contentsIn]
  | cons entry rest ih =>
    obtain ⟨name, child⟩ := entry
    rw [contentsIn, List.cons_append, List.mem_cons, List.mem_append, ih]
    constructor
    · rintro (here | inside | ⟨other, below, back, member, later⟩)
      · obtain ⟨rfl, rfl⟩ := Prod.mk.inj here
        exact ⟨name, found, [], List.mem_cons_self, rfl, .inl rfl⟩
      · obtain ⟨⟨back, below⟩, member, equal⟩ := List.mem_map.mp inside
        obtain ⟨rfl, rfl⟩ := Prod.mk.inj equal
        exact ⟨name, child, back, List.mem_cons_self, rfl, .inr member⟩
      · exact ⟨other, below, back, List.mem_cons_of_mem _ member, later⟩
    · rintro ⟨other, below, back, member, rfl, which⟩
      rcases List.mem_cons.mp member with equal | later
      · obtain ⟨rfl, rfl⟩ := Prod.mk.inj equal
        rcases which with here | inside
        · obtain ⟨rfl, rfl⟩ := Prod.mk.inj here
          exact .inl rfl
        · exact .inr (.inl (List.mem_map.mpr ⟨(back, found), inside, rfl⟩))
      · exact .inr (.inr ⟨other, below, back, later, rfl, which⟩)

/-- **The contents of a directory are what names lead to from it.** -/
theorem mem_contents (proper : Proper tree) :
    (path, found) ∈ contents tree ↔ path ≠ [] ∧ tree.descend path = some found := by
  induction path generalizing tree with
  | nil =>
    refine iff_of_false (fun member => ?_) fun both => both.1 rfl
    cases tree with
    | directory mode entries =>
      rw [contents] at member
      obtain ⟨name, child, back, -, equal, -⟩ := mem_contentsIn.mp member
      cases equal
    | file | link => cases member
  | cons name back ih =>
    cases proper with
    | file | link =>
      refine iff_of_false List.not_mem_nil fun both => ?_
      cases both.2
    | @directory mode entries distinct named each =>
      rw [contents, mem_contentsIn, descend_cons]
      simp only [ne_eq, reduceCtorEq, not_false_eq_true, true_and, Option.bind_eq_some_iff,
        child?_eq_some_iff distinct]
      constructor
      · rintro ⟨other, child, rest, member, equal, which⟩
        obtain ⟨rfl, rfl⟩ := List.cons.inj equal
        refine ⟨child, member, ?_⟩
        rcases which with here | inside
        · obtain ⟨rfl, rfl⟩ := Prod.mk.inj here
          rfl
        · exact ((ih (each _ member)).mp inside).2
      · rintro ⟨child, member, below⟩
        refine ⟨name, child, back, member, rfl, ?_⟩
        by_cases last : back = []
        · subst last
          exact .inl (congrArg _ (Option.some.inj below).symm)
        · exact .inr ((ih (each _ member)).mpr ⟨last, below⟩)

/-- What is below a proper tree has names that entries may have. -/
theorem Proper.isName_of_descend (proper : Proper tree) (below : tree.descend path = some found) :
    ∀ name ∈ path, IsName name := by
  induction path generalizing tree with
  | nil => exact List.forall_mem_nil _
  | cons name back ih =>
    rw [descend_cons, Option.bind_eq_some_iff] at below
    obtain ⟨child, first, below⟩ := below
    cases proper with
    | file | link => cases first
    | directory distinct named each =>
      have member := (child?_eq_some_iff distinct).mp first
      exact List.forall_mem_cons.mpr ⟨named _ member, ih (each _ member) below⟩

/-- What is below a proper tree is proper. -/
theorem Proper.of_descend (proper : Proper tree) (below : tree.descend path = some found) :
    Proper found := by
  induction path generalizing tree with
  | nil =>
    obtain rfl := Option.some.inj below
    exact proper
  | cons name back ih =>
    rw [descend_cons, Option.bind_eq_some_iff] at below
    obtain ⟨child, first, below⟩ := below
    cases proper with
    | file | link => cases first
    | directory distinct named each =>
      exact ih (each _ ((child?_eq_some_iff distinct).mp first)) below

/-- If siblings stand in order, so does everything. -/
theorem contentsIn_sorted (siblings : entries.Pairwise (·.1 < ·.1))
    (each : ∀ entry ∈ entries, ((contents entry.2).map (·.1)).Pairwise (· < ·) ∧
      ∀ inside ∈ contents entry.2, inside.1 ≠ []) :
    ((contentsIn entries).map (·.1)).Pairwise (· < ·) := by
  induction entries with
  | nil => exact .nil
  | cons entry rest ih =>
    obtain ⟨name, child⟩ := entry
    obtain ⟨before, siblings⟩ := List.pairwise_cons.mp siblings
    obtain ⟨⟨inOrder, filled⟩, each⟩ := List.forall_mem_cons.mp each
    simp only [contentsIn, List.map_append, List.map_cons, List.map_map, List.cons_append,
      List.pairwise_cons, List.pairwise_append]
    -- paths that begin alike, and then those of the later siblings
    have later : ∀ path ∈ (contentsIn rest).map (·.1), ∀ back, name :: back < path := by
      intro path member back
      obtain ⟨⟨path, found⟩, inside, rfl⟩ := List.mem_map.mp member
      obtain ⟨other, below, more, listed, split, -⟩ := mem_contentsIn.mp inside
      rw [split]
      exact List.Lex.rel (before _ listed)
    refine ⟨?_, ⟨?_, ih siblings each, ?_⟩⟩
    · intro path member
      rcases List.mem_append.mp member with inside | after
      · obtain ⟨⟨back, found⟩, below, rfl⟩ := List.mem_map.mp inside
        obtain ⟨first, others, split⟩ := List.exists_cons_of_ne_nil (filled _ below)
        simp only at split
        rw [Function.comp_apply, split]
        exact List.Lex.cons List.Lex.nil
      · exact later path after []
    · exact List.pairwise_map.mpr ((List.pairwise_map.mp inOrder).imp List.Lex.cons)
    · intro path inside other after
      obtain ⟨⟨back, found⟩, -, rfl⟩ := List.mem_map.mp inside
      exact later other after back

end Contents

/-! ## Sorted trees -/

section Sorted

variable {mode : Nat} {entries others : List (String × FileTree)} {tree other found : FileTree}
  {path : List String}

theorem normalizeAll_eq_map : normalizeAll entries =
    entries.map fun entry => (entry.1, BuildContext.normalize entry.2) := by
  induction entries with
  | nil => rfl
  | cons entry rest ih =>
    rw [normalizeAll, ih]
    rfl

theorem sorted_perm : (sorted entries).Perm entries :=
  List.mergeSort_perm _ _

theorem names_normalizeAll : (normalizeAll entries).map (·.1) = entries.map (·.1) := by
  rw [normalizeAll_eq_map, List.map_map]
  rfl

/-- Names that differ are sorted in strict order. -/
theorem sorted_pairwise (distinct : (entries.map (·.1)).Nodup) :
    (sorted entries).Pairwise (·.1 < ·.1) := by
  have transitive (a b c : String × FileTree) (first : decide (a.1 ≤ b.1) = true)
      (second : decide (b.1 ≤ c.1) = true) : decide (a.1 ≤ c.1) = true :=
    decide_eq_true (String.le_trans (of_decide_eq_true first) (of_decide_eq_true second))
  have total (a b : String × FileTree) : (decide (a.1 ≤ b.1) || decide (b.1 ≤ a.1)) = true := by
    rw [Bool.or_eq_true, decide_eq_true_eq, decide_eq_true_eq]
    exact String.le_total a.1 b.1
  have order := List.pairwise_mergeSort transitive total entries
  have differ : (sorted entries).Pairwise (·.1 ≠ ·.1) :=
    List.pairwise_map.mp ((sorted_perm.map _).nodup_iff.mpr distinct)
  exact (order.and differ).imp fun both => Std.lt_of_le_of_ne (of_decide_eq_true both.1) both.2

/-- Two lists of the same entries with names that differ are sorted alike. -/
theorem sorted_eq_of_perm (distinct : (entries.map (·.1)).Nodup) (same : entries.Perm others) :
    sorted entries = sorted others := by
  have perm : (sorted entries).Perm (sorted others) :=
    sorted_perm.trans (same.trans sorted_perm.symm)
  refine perm.eq_of_pairwise (fun a b _ _ less more => absurd more (String.lt_asymm less))
    (sorted_pairwise distinct) (sorted_pairwise ((same.map _).nodup_iff.mp distinct))

theorem mem_sorted_normalizeAll {name : String} :
    (name, found) ∈ sorted (normalizeAll entries) ↔
      ∃ child, (name, child) ∈ entries ∧ BuildContext.normalize child = found := by
  rw [sorted_perm.mem_iff, normalizeAll_eq_map, List.mem_map]
  constructor
  · rintro ⟨⟨other, child⟩, member, equal⟩
    obtain ⟨rfl, rfl⟩ := Prod.mk.inj equal
    exact ⟨child, member, rfl⟩
  · rintro ⟨child, member, rfl⟩
    exact ⟨(name, child), member, rfl⟩

theorem Proper.normalize (proper : Proper tree) : Proper (BuildContext.normalize tree) := by
  induction proper with
  | file mode data => exact .file mode data
  | link filled noNul => exact .link filled noNul
  | @directory mode entries distinct named each ih =>
    rw [BuildContext.normalize]
    refine .directory ?_ ?_ ?_
    · rwa [(sorted_perm.map _).nodup_iff, names_normalizeAll]
    · rintro ⟨name, found⟩ member
      obtain ⟨child, listed, rfl⟩ := mem_sorted_normalizeAll.mp member
      exact named (name, child) listed
    · rintro ⟨name, found⟩ member
      obtain ⟨child, listed, rfl⟩ := mem_sorted_normalizeAll.mp member
      exact ih _ listed

theorem child?_normalize (proper : Proper tree) (name : String) :
    (BuildContext.normalize tree).child? name = (tree.child? name).map BuildContext.normalize := by
  cases proper with
  | file | link => rfl
  | @directory mode entries distinct named each =>
    refine Option.ext fun found => ?_
    rw [BuildContext.normalize, child?_eq_some_iff, mem_sorted_normalizeAll, Option.map_eq_some_iff]
    · simp only [child?_eq_some_iff distinct]
    · rwa [(sorted_perm.map _).nodup_iff, names_normalizeAll]

/-- **Sorting changes nothing of what names lead to.** -/
theorem descend_normalize (proper : Proper tree) (path : List String) :
    (BuildContext.normalize tree).descend path = (tree.descend path).map BuildContext.normalize := by
  induction path generalizing tree with
  | nil => rfl
  | cons name back ih =>
    rw [descend_cons, descend_cons, child?_normalize proper, Option.bind_map, Option.map_bind]
    refine Option.bind_congr fun child first => ?_
    have below : tree.descend [name] = some child := by
      rw [descend_cons, first]
      rfl
    exact ih (proper.of_descend below)

/-- **The walk over a sorted tree meets what is in the tree.** -/
theorem mem_contents_normalize (proper : Proper tree) :
    (path, found) ∈ contents (BuildContext.normalize tree) ↔ path ≠ [] ∧
      ∃ inside, tree.descend path = some inside ∧ BuildContext.normalize inside = found := by
  rw [mem_contents proper.normalize, descend_normalize proper, Option.map_eq_some_iff]

/-- **The walk over a sorted tree goes by the names.** -/
theorem contents_normalize_sorted (proper : Proper tree) :
    ((contents (BuildContext.normalize tree)).map (·.1)).Pairwise (· < ·) := by
  induction proper with
  | file | link => exact .nil
  | @directory mode entries distinct named each ih =>
    rw [BuildContext.normalize, contents]
    refine contentsIn_sorted (sorted_pairwise ?_) ?_
    · rwa [names_normalizeAll]
    · rintro ⟨name, found⟩ member
      obtain ⟨child, listed, rfl⟩ := mem_sorted_normalizeAll.mp member
      refine ⟨ih _ listed, ?_⟩
      rintro ⟨path, found⟩ below
      exact ((mem_contents (each _ listed).normalize).mp below).1

/-! ## Listings -/

theorem Relisted.proper (relisted : Relisted tree other) (proper : Proper tree) : Proper other := by
  induction relisted with
  | refl => exact proper
  | trans _ _ first second => exact second (first proper)
  | listing same =>
    cases proper with
    | directory distinct named each =>
      exact .directory ((same.map _).nodup_iff.mp distinct)
        (fun entry member => named entry (same.mem_iff.mpr member))
        fun entry member => each entry (same.mem_iff.mpr member)
  | @inside mode name tree other front back _ ih =>
    cases proper with
    | directory distinct named each =>
      rw [List.forall_mem_append, List.forall_mem_cons] at named each
      refine .directory ?_ ?_ ?_
      · rwa [List.map_append, List.map_cons] at distinct ⊢
      · rw [List.forall_mem_append, List.forall_mem_cons]
        exact named
      · rw [List.forall_mem_append, List.forall_mem_cons]
        exact ⟨each.1, ih each.2.1, each.2.2⟩

/-- **Trees that differ in listings only are sorted alike.** -/
theorem Relisted.normalize_eq (relisted : Relisted tree other) (proper : Proper tree) :
    BuildContext.normalize tree = BuildContext.normalize other := by
  induction relisted with
  | refl => rfl
  | trans first _ one two => exact (one proper).trans (two (first.proper proper))
  | @listing mode entries others same =>
    cases proper with
    | directory distinct named each =>
      rw [BuildContext.normalize, BuildContext.normalize,
        sorted_eq_of_perm (by rwa [names_normalizeAll])]
      rw [normalizeAll_eq_map, normalizeAll_eq_map]
      exact same.map _
  | @inside mode name tree other front back _ ih =>
    cases proper with
    | directory distinct named each =>
      have here := ih (each (name, tree) (List.mem_append_right _ List.mem_cons_self))
      simp only [BuildContext.normalize, normalizeAll_eq_map, List.map_append, List.map_cons, here]

end Sorted

end FileTree

end BuildYard
