import BuildYard.Proofs.Files.Trees

/-!
# Where paths lead

A walk counts its steps and the links on its way. Without the counting, steps
lead somewhere or nowhere (`Leads`), and to one place at most (`Leads.unique`):
steps lead where the first of them and then the others lead (`leads_append`), and
names of entries down to the entry (`leads_names`). A walk that succeeds ends
where its steps lead, unless it ends at a link (`walk_leads`).

So a path into a directory that is the same as another path and ends at an entry
of the directory that is no link leads to the very entry (`entry_of_same`). What
a walk finds does not depend on how directories list their entries
(`find_of_alike`).
-/

set_option autoImplicit false

namespace BuildYard

open BuildYard.Path (IsName)

namespace FileTree

variable {root : FileTree} {here there place : List String}

/-! ## Steps without counting -/

/-- Where steps lead from a directory, links followed everywhere. Points are no steps here. -/
inductive Leads (root : FileTree) : List String → List String → List String → Prop where
  | here {here : List String} : Leads root here [] here
  | up {here more there : List String} :
      Leads root here.dropLast more there → Leads root here (".." :: more) there
  | entry {here more there : List String} {name : String} {tree : FileTree} (name_ne : name ≠ "..")
      (found : root.descend (here ++ [name]) = some tree) (noLink : ∀ target, tree ≠ .link target) :
      Leads root (here ++ [name]) more there → Leads root here (name :: more) there
  | link {here more there : List String} {name target : String} (name_ne : name ≠ "..")
      (found : root.descend (here ++ [name]) = some (.link target)) :
      Leads root (if Path.isAbsolute target then [] else here)
        ((steps target).filter (· ≠ ".") ++ more) there →
      Leads root here (name :: more) there

/-- **Steps lead to one place at most.** -/
theorem Leads.unique {names : List String} (first : Leads root here names there)
    (second : Leads root here names place) : there = place := by
  induction first with
  | here =>
    cases second
    rfl
  | up _ ih =>
    cases second with
    | up second => exact ih second
    | entry name_ne => exact absurd rfl name_ne
    | link name_ne => exact absurd rfl name_ne
  | entry name_ne found noLink _ ih =>
    cases second with
    | up => exact absurd rfl name_ne
    | entry _ _ _ second => exact ih second
    | link _ other => exact absurd (Option.some.inj (found.symm.trans other)) (noLink _)
  | link name_ne found _ ih =>
    cases second with
    | up => exact absurd rfl name_ne
    | entry _ other noLink => exact absurd (Option.some.inj (other.symm.trans found)) (noLink _)
    | link _ other second =>
      obtain rfl := FileTree.link.inj (Option.some.inj (found.symm.trans other))
      exact ih second

/-- **Steps lead where the first of them and then the others lead.** -/
theorem Leads.split {front back : List String} (whole : Leads root here (front ++ back) place) :
    ∃ there, Leads root here front there ∧ Leads root there back place := by
  generalize steps_eq : front ++ back = names at whole
  induction whole generalizing front with
  | here =>
    obtain ⟨rfl, rfl⟩ := List.append_eq_nil_iff.mp steps_eq
    exact ⟨_, .here, .here⟩
  | up rest ih =>
    cases front with
    | nil =>
      subst steps_eq
      exact ⟨_, .here, .up rest⟩
    | cons name front =>
      obtain ⟨rfl, rfl⟩ := List.cons.inj steps_eq
      obtain ⟨there, first, second⟩ := ih rfl
      exact ⟨there, .up first, second⟩
  | entry name_ne found noLink rest ih =>
    cases front with
    | nil =>
      subst steps_eq
      exact ⟨_, .here, .entry name_ne found noLink rest⟩
    | cons name front =>
      obtain ⟨rfl, rfl⟩ := List.cons.inj steps_eq
      obtain ⟨there, first, second⟩ := ih rfl
      exact ⟨there, .entry name_ne found noLink first, second⟩
  | link name_ne found rest ih =>
    cases front with
    | nil =>
      subst steps_eq
      exact ⟨_, .here, .link name_ne found rest⟩
    | cons name front =>
      obtain ⟨rfl, rfl⟩ := List.cons.inj steps_eq
      obtain ⟨there, first, second⟩ := ih (List.append_assoc _ _ _)
      exact ⟨there, .link name_ne found first, second⟩

/-- What has something below it is a directory. -/
theorem not_link_of_below {tree found : FileTree} {name : String} {names : List String}
    (below : tree.descend (name :: names) = some found) (target : String) : tree ≠ .link target := by
  rintro rfl
  cases below

/-- **Names of entries lead down to the entry.** -/
theorem leads_names {path : List String} {tree : FileTree}
    (found : root.descend (here ++ path) = some tree) (noLink : ∀ target, tree ≠ .link target)
    (each : ∀ name ∈ path, name ≠ "..") : Leads root here path (here ++ path) := by
  induction path generalizing here with
  | nil =>
    rw [List.append_nil]
    exact .here
  | cons name path ih =>
    obtain ⟨name_ne, each⟩ := List.forall_mem_cons.mp each
    rw [List.append_cons] at found ⊢
    obtain ⟨child, first, below⟩ := Option.bind_eq_some_iff.mp (descend_append _ _ ▸ found)
    refine .entry name_ne first ?_ (ih found each)
    cases path with
    | nil =>
      obtain rfl := Option.some.inj below
      exact noLink
    | cons next path => exact not_link_of_below below

/-! ## Walks -/

theorem descend_concat {tree : FileTree} {name : String} (found : root.descend here = some tree) :
    root.descend (here ++ [name]) = tree.child? name := by
  rw [descend_append, found, Option.bind_some, descend_cons]
  cases tree.child? name with
  | none => rfl
  | some child => rfl

/-- How a walk that succeeds goes on at a step, with `fuel` and `links` left. -/
inductive Onward (root : FileTree) (follow : Bool) (fuel links : Nat) (here more there : List String) :
    String → Prop where
  | point : root.walk follow fuel links here more = .ok there →
      Onward root follow fuel links here more there "."
  | up : root.walk follow fuel links here.dropLast more = .ok there →
      Onward root follow fuel links here more there ".."
  | entry {name : String} {tree : FileTree} (noPoint : name ≠ ".") (noClimb : name ≠ "..")
      (short : name.utf8ByteSize ≤ maxName) (found : root.descend (here ++ [name]) = some tree)
      (noLink : ∀ target, tree ≠ .link target) :
      root.walk follow fuel links (here ++ [name]) more = .ok there →
      Onward root follow fuel links here more there name
  | link {name target : String} {fewer : Nat} (noPoint : name ≠ ".") (noClimb : name ≠ "..")
      (short : name.utf8ByteSize ≤ maxName)
      (found : root.descend (here ++ [name]) = some (.link target))
      (followed : (more.isEmpty && !follow) = false) (filled : target ≠ "") (left : links = fewer + 1) :
      root.walk follow fuel fewer (if Path.isAbsolute target then [] else here)
        (steps target ++ more) = .ok there →
      Onward root follow fuel links here more there name
  | last {name target : String} (noPoint : name ≠ ".") (noClimb : name ≠ "..")
      (short : name.utf8ByteSize ≤ maxName)
      (found : root.descend (here ++ [name]) = some (.link target))
      (kept : (more.isEmpty && !follow) = true) (arrived : here ++ [name] = there) :
      Onward root follow fuel links here more there name

section Walk

variable {follow : Bool} {fuel links : Nat} {name : String} {names more : List String}

theorem walk_nil_eq_ok : root.walk follow fuel links here [] = .ok there ↔
    (root.descend here).isSome = true ∧ here = there := by
  rw [walk]
  split
  · next some => simp [some]
  · next none => simp [none]

/-- **What a walk does at a step.** -/
theorem walk_cons_eq_ok : root.walk follow fuel links here (name :: more) = .ok there ↔
    ∃ less tree, fuel = less + 1 ∧ root.descend here = some tree ∧ tree.isDirectory = true ∧
      Onward root follow less links here more there name := by
  rw [walk.eq_def]
  constructor
  · intro walked
    simp only at walked
    split at walked
    · cases walked
    · cases walked
    · next less tree found =>
      refine ⟨less, tree, rfl, found, ?_⟩
      split at walked
      · cases walked
      · next directory =>
        refine ⟨by simpa using directory, ?_⟩
        split at walked
        · next point => exact point ▸ .point walked
        · next noPoint =>
          split at walked
          · next climb => exact climb ▸ .up walked
          · next noClimb =>
            split at walked
            · cases walked
            · next short =>
              have short := Nat.le_of_not_lt short
              split at walked
              · cases walked
              · next target child =>
                rw [← descend_concat found] at child
                split at walked
                · next kept => exact .last noPoint noClimb short child kept (Except.ok.inj walked)
                · next followed =>
                  split at walked
                  · cases walked
                  · next filled =>
                    split at walked
                    · cases walked
                    · exact .link noPoint noClimb short child (Bool.eq_false_iff.mpr followed)
                        (mt String.isEmpty_iff.mpr filled) rfl walked
              · next tree noLink child =>
                rw [← descend_concat found] at child
                exact .entry noPoint noClimb short child (fun target link => noLink target link) walked
  · rintro ⟨less, tree, rfl, found, directory, onward⟩
    cases onward with
    | point walked => simpa [found, directory] using walked
    | up walked => simpa [found, directory] using walked
    | entry noPoint noClimb short child noLink walked =>
      rw [descend_concat found] at child
      simp only [found, directory, noPoint, noClimb, Nat.not_lt.mpr short, child, Bool.not_true,
        Bool.false_eq_true, if_false]
      exact walked
    | link noPoint noClimb short child followed filled left walked =>
      subst left
      rw [descend_concat found] at child
      have filled := Bool.eq_false_iff.mpr (mt String.isEmpty_iff.mp filled)
      simpa only [found, directory, noPoint, noClimb, Nat.not_lt.mpr short, child, followed, filled,
        Bool.not_true, Bool.false_eq_true, if_false] using walked
    | last noPoint noClimb short child kept arrived =>
      rw [descend_concat found] at child
      simp only [found, directory, noPoint, noClimb, Nat.not_lt.mpr short, child, kept,
        Bool.not_true, Bool.false_eq_true, if_false, if_true, arrived]

/-- **A walk that does not end at a link ends where its steps lead.** -/
theorem walk_leads (walked : root.walk follow fuel links here names = .ok there)
    (noLink : ∀ target, root.descend there ≠ some (.link target)) :
    Leads root here (names.filter (· ≠ ".")) there := by
  induction fuel using Nat.strongRecOn generalizing links here names with
  | _ fuel ih =>
    cases names with
    | nil =>
      obtain ⟨-, rfl⟩ := walk_nil_eq_ok.mp walked
      exact .here
    | cons name more =>
      obtain ⟨less, tree, rfl, -, -, onward⟩ := walk_cons_eq_ok.mp walked
      have ih := @ih less (Nat.lt_succ_self less)
      cases onward with
      | point rest =>
        rw [List.filter_cons, if_neg (by decide)]
        exact ih rest
      | up rest => exact .up (ih rest)
      | entry noPoint noClimb short found noLinkHere rest =>
        rw [List.filter_cons, if_pos (decide_eq_true noPoint)]
        exact .entry noClimb found noLinkHere (ih rest)
      | link noPoint noClimb short found followed filled left rest =>
        have rest := ih rest
        rw [List.filter_append] at rest
        rw [List.filter_cons, if_pos (decide_eq_true noPoint)]
        exact .link noClimb found rest
      | last noPoint noClimb short found kept arrived => exact absurd (arrived ▸ found) (noLink _)

/-- **A walk that does not end at a link goes the same way if links are followed there.** -/
theorem walk_follow (walked : root.walk false fuel links here names = .ok there)
    (noLink : ∀ target, root.descend there ≠ some (.link target)) :
    root.walk true fuel links here names = .ok there := by
  induction fuel using Nat.strongRecOn generalizing links here names with
  | _ fuel ih =>
    cases names with
    | nil => exact walk_nil_eq_ok.mpr (walk_nil_eq_ok.mp walked)
    | cons name more =>
      obtain ⟨less, tree, rfl, some, directory, onward⟩ := walk_cons_eq_ok.mp walked
      have ih := @ih less (Nat.lt_succ_self less)
      refine walk_cons_eq_ok.mpr ⟨less, tree, rfl, some, directory, ?_⟩
      cases onward with
      | point rest => exact .point (ih rest)
      | up rest => exact .up (ih rest)
      | entry noPoint noClimb short found noLinkHere rest =>
        exact .entry noPoint noClimb short found noLinkHere (ih rest)
      | link noPoint noClimb short found followed filled left rest =>
        exact .link noPoint noClimb short found (Bool.and_false _) filled left (ih rest)
      | last noPoint noClimb short found kept arrived => exact absurd (arrived ▸ found) (noLink _)

/-! ## Trees that look alike -/

/-- Trees in which names lead to the same things, but for the order of entries. -/
def Alike (root other : FileTree) : Prop :=
  ∀ names, (root.descend names).map BuildContext.normalize =
    (other.descend names).map BuildContext.normalize

variable {other : FileTree}

/-- Sorting a tree does not change what it is. -/
theorem isDirectory_normalize (tree : FileTree) :
    (BuildContext.normalize tree).isDirectory = tree.isDirectory := by
  cases tree with
  | directory =>
    rw [BuildContext.normalize]
    rfl
  | file | link => rfl

theorem normalize_eq_link {tree : FileTree} {target : String} :
    BuildContext.normalize tree = .link target ↔ tree = .link target := by
  cases tree with
  | directory =>
    rw [BuildContext.normalize]
    exact iff_of_false (by rintro ⟨⟩) (by rintro ⟨⟩)
  | file | link => exact Iff.rfl

theorem Alike.found (alike : Alike root other) {names : List String} {tree : FileTree}
    (found : root.descend names = some tree) :
    ∃ twin, other.descend names = some twin ∧
      BuildContext.normalize twin = BuildContext.normalize tree := by
  have both := alike names
  rw [found, Option.map_some, eq_comm, Option.map_eq_some_iff] at both
  exact both

theorem Alike.found_link (alike : Alike root other) {names : List String} {target : String}
    (found : root.descend names = some (.link target)) :
    other.descend names = some (.link target) := by
  obtain ⟨twin, found, same⟩ := alike.found found
  rwa [normalize_eq_link.mp same] at found

/-- **Walks in trees that look alike go the same way.** -/
theorem Alike.walk (alike : Alike root other)
    (walked : root.walk follow fuel links here names = .ok there) :
    other.walk follow fuel links here names = .ok there := by
  induction fuel using Nat.strongRecOn generalizing links here names with
  | _ fuel ih =>
    cases names with
    | nil =>
      obtain ⟨some, rfl⟩ := walk_nil_eq_ok.mp walked
      obtain ⟨tree, found⟩ := Option.isSome_iff_exists.mp some
      obtain ⟨twin, found, -⟩ := alike.found found
      exact walk_nil_eq_ok.mpr ⟨Option.isSome_iff_exists.mpr ⟨twin, found⟩, rfl⟩
    | cons name more =>
      obtain ⟨less, tree, rfl, some, directory, onward⟩ := walk_cons_eq_ok.mp walked
      have ih := @ih less (Nat.lt_succ_self less)
      obtain ⟨twin, some, same⟩ := alike.found some
      have directory : twin.isDirectory = true := by
        rw [← isDirectory_normalize, same, isDirectory_normalize, directory]
      refine walk_cons_eq_ok.mpr ⟨less, twin, rfl, some, directory, ?_⟩
      cases onward with
      | point rest => exact .point (ih rest)
      | up rest => exact .up (ih rest)
      | entry noPoint noClimb short found noLink rest =>
        obtain ⟨twin, found, same⟩ := alike.found found
        refine .entry noPoint noClimb short found (fun target link => ?_) (ih rest)
        rw [link, eq_comm] at same
        exact noLink target (normalize_eq_link.mp same)
      | link noPoint noClimb short found followed filled left rest =>
        exact .link noPoint noClimb short (alike.found_link found) followed filled left (ih rest)
      | last noPoint noClimb short found kept arrived =>
        exact .last noPoint noClimb short (alike.found_link found) kept arrived

/-- Trees that differ in listings only look alike. -/
theorem Relisted.alike (relisted : Relisted root other) (proper : Proper root) : Alike root other := by
  intro names
  rw [← descend_normalize proper, ← descend_normalize (relisted.proper proper),
    relisted.normalize_eq proper]

end Walk

/-! ## What paths lead to -/

section Find

variable {base path : String} {follow : Bool} {tree other : FileTree}

/-- Where the steps of a path begin. -/
def start (base path : String) : List String :=
  if Path.isAbsolute path then [] else Path.pieces base

theorem find_eq_ok : root.find base follow path = .ok tree ↔
    path.contains (Char.ofNat 0) = false ∧ path ≠ "" ∧ path.utf8ByteSize ≤ maxPath ∧
      ∃ there, root.walk follow (maxPath * (maxLinks + 2)) maxLinks (start base path) (steps path) =
          .ok there ∧ root.descend there = some tree := by
  have located : root.find base follow path = .ok tree ↔
      ∃ there, root.locate base follow path = .ok there ∧ root.descend there = some tree := by
    rw [find]
    cases root.locate base follow path with
    | error cause => simp [bind, Except.bind]
    | ok there =>
      cases found : root.descend there <;> simp [bind, Except.bind, found]
  rw [located, locate]
  by_cases nul : path.contains (Char.ofNat 0) = true
  · simp [nul]
  · by_cases empty : path = ""
    · simp [empty]
    · by_cases long : maxPath < path.utf8ByteSize
      · simp [nul, empty, long, Nat.not_le.mpr long]
      · simp [nul, empty, long, Nat.le_of_not_lt long, start]

/-- What is found in a proper tree is proper. -/
theorem Proper.of_find (proper : Proper root) (found : root.find base follow path = .ok tree) :
    Proper tree := by
  obtain ⟨-, -, -, there, -, arrived⟩ := find_eq_ok.mp found
  exact proper.of_descend arrived

/-- What is no link is found as well if links are followed. -/
theorem find_follow (found : root.find base false path = .ok tree)
    (noLink : ∀ target, tree ≠ .link target) : root.find base true path = .ok tree := by
  obtain ⟨plain, filled, short, there, walked, arrived⟩ := find_eq_ok.mp found
  refine find_eq_ok.mpr ⟨plain, filled, short, there, walk_follow walked ?_, arrived⟩
  intro target link
  exact noLink target (Option.some.inj (arrived.symm.trans link))

/-- **Of trees that look alike, paths lead to things that look alike.** -/
theorem Alike.find (alike : Alike root other) (found : root.find base follow path = .ok tree) :
    ∃ twin, other.find base follow path = .ok twin ∧
      BuildContext.normalize twin = BuildContext.normalize tree := by
  obtain ⟨plain, filled, short, there, walked, arrived⟩ := find_eq_ok.mp found
  obtain ⟨twin, arrived, same⟩ := alike.found arrived
  exact ⟨twin, find_eq_ok.mpr ⟨plain, filled, short, there, alike.walk walked, arrived⟩, same⟩

theorem steps_filter (path : String) :
    (steps path).filter (· ≠ ".") = (Path.pieces path).filter (· ≠ ".") := by
  rw [steps, List.filter_append]
  split
  · exact List.append_nil _
  · exact List.append_nil _

theorem find_leads (found : root.find base follow path = .ok tree)
    (noLink : ∀ target, tree ≠ .link target) :
    ∃ there, Leads root (start base path) ((Path.pieces path).filter (· ≠ ".")) there ∧
      root.descend there = some tree := by
  obtain ⟨-, -, -, there, walked, arrived⟩ := find_eq_ok.mp found
  refine ⟨there, ?_, arrived⟩
  rw [← steps_filter]
  refine walk_leads walked fun target link => ?_
  exact noLink target (Option.some.inj (arrived.symm.trans link))

/-- **A path that is the same as the path of an entry leads to the entry**, unless it is a link. -/
theorem entry_of_same {dir : String} {names : List String} {directory entry chosen : FileTree}
    (inside : root.find base true dir = .ok directory) (filled : names ≠ [])
    (each : ∀ name ∈ names, IsName name) (below : directory.descend names = some entry)
    (noLink : ∀ target, entry ≠ .link target)
    (same : Path.same (Path.join dir (Text.join "/" names)) path = true)
    (found : root.find base follow path = .ok chosen) (noLinkFound : ∀ target, chosen ≠ .link target) :
    chosen = entry := by
  have pieces := fun name member => (each name member).toIsPiece
  have dirFilled : dir ≠ "" := (find_eq_ok.mp inside).2.1
  have relative := Path.not_absolute_join pieces filled
  obtain ⟨split, absolute⟩ := Path.pieces_join_base dirFilled relative
  obtain ⟨sameStart, samePieces⟩ := Path.pieces_of_same same
  rw [split, Path.pieces_join pieces, List.filter_append,
    List.filter_eq_self.mpr fun name member => decide_eq_true (each name member).noPoint] at samePieces
  have start_eq : start base path = start base dir := by
    rw [start, start, ← sameStart, absolute]
  obtain ⟨first, rest, cons⟩ := List.exists_cons_of_ne_nil filled
  obtain ⟨middle, toDir, arrived⟩ := find_leads inside (not_link_of_below (cons ▸ below))
  obtain ⟨there, toChosen, chosenThere⟩ := find_leads found noLinkFound
  rw [start_eq, ← samePieces] at toChosen
  obtain ⟨other, toOther, fromOther⟩ := toChosen.split
  obtain rfl := toDir.unique toOther
  have entryThere : root.descend (middle ++ names) = some entry := by
    rw [descend_append, arrived, Option.bind_some, below]
  obtain rfl := fromOther.unique
    (leads_names entryThere noLink fun name member => (each name member).noClimb)
  exact Option.some.inj (chosenThere.symm.trans entryThere)

end Find

end FileTree

end BuildYard
