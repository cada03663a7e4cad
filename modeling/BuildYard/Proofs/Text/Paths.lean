import BuildYard.Path
import Mathlib.Data.List.Basic
import Mathlib.Data.List.Flatten

/-!
# Paths piece by piece

A path is split at its slashes, and names that are joined with slashes are split
again into these names (`pieces_join`). One path after another has the pieces of
both (`pieces_append_slash`), so that a path seen from a directory has the
pieces of the directory in front (`pieces_join_base`). Writing a path again with
single slashes and without some of its pieces never makes it longer and adds no
character to it (`rejoined_sublist`).
-/

set_option autoImplicit false

namespace BuildYard

namespace Text

variable {p : Char → Bool} {cs : List Char}

theorem splitOn_eq_splitOnP (p : Char → Bool) (cs : List Char) : splitOn p cs = cs.splitOnP p := by
  induction cs with
  | nil => rw [splitOn, List.splitOnP_nil]
  | cons c cs ih =>
    rw [splitOn, ih, List.splitOnP_cons_eq_if_modifyHead]
    cases split : cs.splitOnP p with
    | nil => exact absurd split (List.splitOnP_ne_nil p cs)
    | cons piece rest => rfl

theorem splitOn_ne_nil (p : Char → Bool) (cs : List Char) : splitOn p cs ≠ [] := by
  rw [splitOn_eq_splitOnP]
  exact List.splitOnP_ne_nil p cs

/-- No piece holds what separates pieces. -/
theorem of_mem_splitOn {piece : List Char} (member : piece ∈ splitOn p cs) :
    ∀ c ∈ piece, p c = false := by
  induction cs generalizing piece with
  | nil =>
    obtain rfl := List.mem_singleton.mp member
    exact List.forall_mem_nil _
  | cons c cs ih =>
    rw [splitOn] at member
    split at member
    · next split => exact absurd split (splitOn_ne_nil p cs)
    · next first rest split =>
      rw [split] at ih
      split at member
      · rcases List.mem_cons.mp member with rfl | later
        · exact List.forall_mem_nil _
        · exact ih later
      · next other =>
        rcases List.mem_cons.mp member with rfl | later
        · exact List.forall_mem_cons.mpr ⟨Bool.eq_false_iff.mpr other, ih List.mem_cons_self⟩
        · exact ih (List.mem_cons_of_mem _ later)

/-- Of a text that goes on, all pieces but the last stay as they are. -/
theorem dropLast_splitOn_prefix (p : Char → Bool) (front back : List Char) :
    (splitOn p front).dropLast <+: splitOn p (front ++ back) := by
  induction front with
  | nil => exact List.nil_prefix
  | cons c front ih =>
    rw [List.cons_append, splitOn, splitOn]
    cases split : splitOn p front with
    | nil => exact absurd split (splitOn_ne_nil p front)
    | cons piece rest =>
      rw [split] at ih
      cases more : splitOn p (front ++ back) with
      | nil => exact absurd more (splitOn_ne_nil p _)
      | cons first others =>
        rw [more] at ih
        by_cases mark : p c = true
        · simp only [if_pos mark, List.dropLast_cons_cons, List.cons_prefix_cons, true_and]
          exact ih
        · simp only [if_neg mark]
          cases rest with
          | nil => exact List.nil_prefix
          | cons next rest =>
            rw [List.dropLast_cons_cons, List.cons_prefix_cons] at ih ⊢
            exact ⟨congrArg (c :: ·) ih.1, ih.2⟩

end Text

namespace Path

variable {path name : String} {names : List String}

/-! ## Where slashes stand -/

theorem isAbsolute_iff : isAbsolute path = true ↔ ['/'] <+: path.toList :=
  String.startsWith_string_iff

theorem isAbsolute_slash : isAbsolute "/" = true :=
  isAbsolute_iff.mpr ⟨[], rfl⟩

theorem endsWith_slash_iff : path.endsWith "/" = true ↔ ['/'] <:+ path.toList :=
  String.Slice.endsWith_string_iff.trans (by rw [String.copy_toSlice]; rfl)

/-- A path is absolute if what it begins with is. -/
theorem isAbsolute_append (first : path ≠ "") (rest : String) :
    isAbsolute (path ++ rest) = isAbsolute path := by
  rw [Bool.eq_iff_iff, isAbsolute_iff, isAbsolute_iff, String.toList_append]
  cases chars : path.toList with
  | nil => exact absurd (String.toList_eq_nil_iff.mp chars) first
  | cons c cs => simp only [List.cons_append, List.cons_prefix_cons, List.nil_prefix, and_true]

/-- An absolute path is a slash and a path. -/
theorem eq_slash_append (absolute : isAbsolute path = true) : ∃ back, path = "/" ++ back := by
  obtain ⟨back, chars⟩ := isAbsolute_iff.mp absolute
  refine ⟨String.ofList back, String.toList_injective ?_⟩
  rw [String.toList_append, ← chars]
  exact congrArg (['/'] ++ ·) String.toList_ofList.symm

/-- A path with a slash at its end is a path and that slash. -/
theorem eq_append_slash (closed : path.endsWith "/" = true) : ∃ front, path = front ++ "/" := by
  obtain ⟨front, chars⟩ := endsWith_slash_iff.mp closed
  refine ⟨String.ofList front, String.toList_injective ?_⟩
  rw [String.toList_append, String.toList_ofList, ← chars]
  rfl

/-! ## What stands between slashes -/

/-- All that stands between slashes, empty texts too. -/
def between (path : String) : List String :=
  (Text.splitOn (· == '/') path.toList).map String.ofList

theorem between_ne_nil (path : String) : between path ≠ [] :=
  mt List.map_eq_nil_iff.mp (Text.splitOn_ne_nil _ _)

theorem pieces_eq_filter (path : String) : pieces path = (between path).filter (· ≠ "") :=
  rfl

theorem pieces_sublist (path : String) : (pieces path).Sublist (between path) :=
  List.filter_sublist

theorem not_mem_of_mem_between (member : name ∈ between path) : '/' ∉ name.toList := by
  obtain ⟨chars, between, rfl⟩ := List.mem_map.mp member
  intro slash
  rw [String.toList_ofList] at slash
  simpa using Text.of_mem_splitOn between '/' slash

theorem between_append_slash (front back : String) :
    between (front ++ "/" ++ back) = between front ++ between back := by
  have chars : (front ++ "/" ++ back).toList = front.toList ++ '/' :: back.toList := by
    rw [String.toList_append, String.toList_append, List.append_assoc]
    rfl
  have split : (front.toList ++ '/' :: back.toList).splitOnP (· == '/') = _ :=
    List.splitOnP_append_cons front.toList back.toList (beq_self_eq_true '/')
  simp only [between, chars, Text.splitOn_eq_splitOnP, split, List.map_append]

theorem between_append_closing (front : String) :
    between (front ++ "/") = between front ++ [""] := by
  have split := between_append_slash front ""
  rwa [String.append_empty] at split

theorem between_opening_append (back : String) : between ("/" ++ back) = "" :: between back := by
  have split := between_append_slash "" back
  rwa [String.empty_append] at split

theorem between_of_noSlash (noSlash : '/' ∉ name.toList) : between name = [name] := by
  have split : Text.splitOn (· == '/') name.toList = [name.toList] := by
    rw [Text.splitOn_eq_splitOnP]
    exact List.splitOn_eq_singleton noSlash
  rw [between, split, List.map_singleton, String.ofList_toList]

/-- Names that are joined stand between the slashes. -/
theorem between_join (some : names ≠ []) (each : ∀ name ∈ names, '/' ∉ name.toList) :
    between (Text.join "/" names) = names := by
  induction names with
  | nil => exact absurd rfl some
  | cons name rest ih =>
    have here := between_of_noSlash (each name List.mem_cons_self)
    cases rest with
    | nil => exact here
    | cons next rest =>
      rw [Text.join, String.intercalate_cons_cons, between_append_slash, here]
      exact congrArg (name :: ·) (ih (List.cons_ne_nil _ _) fun other member =>
        each other (List.mem_cons_of_mem _ member))

/-- Of a path that goes on, all that stands between slashes stays but the last. -/
theorem dropLast_between_prefix {front whole : String} (goesOn : front.toList <+: whole.toList) :
    (between front).dropLast <+: between whole := by
  obtain ⟨back, chars⟩ := goesOn
  rw [between, between, ← chars, ← List.map_dropLast]
  exact (Text.dropLast_splitOn_prefix _ _ _).map _

/-! ## Pieces -/

/-- A text that can stand between slashes as a piece. -/
structure IsPiece (name : String) : Prop where
  filled : name ≠ ""
  noSlash : '/' ∉ name.toList

/-- What an entry of a directory may be called. -/
structure IsName (name : String) : Prop extends IsPiece name where
  noPoint : name ≠ "."
  noClimb : name ≠ ".."
  noNul : Char.ofNat 0 ∉ name.toList

theorem IsPiece.not_absolute (piece : IsPiece name) (rest : String) :
    isAbsolute (name ++ rest) = false := by
  rw [isAbsolute_append piece.filled, Bool.eq_false_iff]
  intro absolute
  exact piece.noSlash ((isAbsolute_iff.mp absolute).subset (List.mem_singleton_self _))

theorem isPiece_of_mem_pieces (member : name ∈ pieces path) : IsPiece name := by
  obtain ⟨inside, filled⟩ := List.mem_filter.mp member
  exact ⟨of_decide_eq_true filled, not_mem_of_mem_between inside⟩

/-- **One path after another has the pieces of both.** -/
theorem pieces_append_slash (front back : String) :
    pieces (front ++ "/" ++ back) = pieces front ++ pieces back := by
  rw [pieces_eq_filter, between_append_slash, List.filter_append]
  rfl

theorem pieces_append_closing (front : String) : pieces (front ++ "/") = pieces front := by
  rw [pieces_eq_filter, between_append_closing, List.filter_append]
  exact List.append_nil _

theorem pieces_opening_append (back : String) : pieces ("/" ++ back) = pieces back := by
  rw [pieces_eq_filter, between_opening_append]
  rfl

/-- **Names that are joined are split again into these names.** -/
theorem pieces_join (each : ∀ name ∈ names, IsPiece name) : pieces (Text.join "/" names) = names := by
  by_cases none : names = []
  · rw [none]
    rfl
  · rw [pieces_eq_filter, between_join none fun name member => (each name member).noSlash]
    exact List.filter_eq_self.mpr fun name member => decide_eq_true (each name member).filled

theorem isAbsolute_join (each : ∀ name ∈ names, IsPiece name) (some : names ≠ []) (rest : String) :
    isAbsolute (Text.join "/" names ++ rest) = false := by
  cases names with
  | nil => exact absurd rfl some
  | cons name others =>
    have piece := each name List.mem_cons_self
    cases others with
    | nil => exact piece.not_absolute rest
    | cons next others =>
      rw [Text.join, String.intercalate_cons_cons, String.append_assoc, String.append_assoc]
      exact piece.not_absolute _

/-- Names that are joined make a relative path. -/
theorem not_absolute_join (each : ∀ name ∈ names, IsPiece name) (some : names ≠ []) :
    isAbsolute (Text.join "/" names) = false := by
  rw [← isAbsolute_join each some "", String.append_empty]

/-- A path without pieces is empty or absolute. -/
theorem pieces_ne_nil (some : path ≠ "") (relative : isAbsolute path = false) : pieces path ≠ [] := by
  intro none
  obtain ⟨first, others, split⟩ := List.exists_cons_of_ne_nil (between_ne_nil path)
  have empty : first = "" := by
    rw [pieces_eq_filter, split, List.filter_eq_nil_iff] at none
    simpa using none first List.mem_cons_self
  -- a path that begins with nothing before a slash is absolute
  cases chars : path.toList with
  | nil => exact some (String.toList_eq_nil_iff.mp chars)
  | cons c cs =>
    have other : ¬ (c == '/') = true := by
      intro slash
      rw [beq_iff_eq] at slash
      rw [isAbsolute_iff.mpr (by rw [chars, slash]; exact ⟨cs, rfl⟩)] at relative
      cases relative
    rw [between, chars, Text.splitOn] at split
    cases inside : Text.splitOn (· == '/') cs with
    | nil => exact Text.splitOn_ne_nil _ _ inside
    | cons piece rest =>
      rw [inside] at split
      simp only [if_neg other, List.map_cons, List.cons.injEq] at split
      rw [empty] at split
      exact absurd (congrArg String.toList split.1) (by simp)

/-- **A path seen from a directory has the pieces of the directory in front.** -/
theorem pieces_join_base {base : String} (some : base ≠ "") (relative : isAbsolute path = false) :
    pieces (join base path) = pieces base ++ pieces path ∧
      isAbsolute (join base path) = isAbsolute base := by
  have filled : base.isEmpty = false := Bool.eq_false_iff.mpr (mt String.isEmpty_iff.mp some)
  rw [join, relative, filled, Bool.or_false, if_neg Bool.false_ne_true]
  by_cases closed : base.endsWith "/" = true
  · obtain ⟨front, rfl⟩ := eq_append_slash closed
    rw [if_pos closed, isAbsolute_append some, pieces_append_slash, pieces_append_closing]
    exact ⟨rfl, rfl⟩
  · rw [if_neg closed, pieces_append_slash, String.append_assoc, isAbsolute_append some]
    exact ⟨rfl, rfl⟩

/-! ## Points -/

theorem parts_sublist (path : String) : (parts path).Sublist (pieces path) := by
  rw [parts]
  split
  · next first rest split =>
    rw [split]
    split
    · exact List.filter_sublist.cons_cons _
    · exact List.filter_sublist
  · exact List.nil_sublist _

/-- Beside points, the parts of a path are its pieces. -/
theorem parts_filter (path : String) :
    (parts path).filter (· ≠ ".") = (pieces path).filter (· ≠ ".") := by
  rw [parts]
  split
  · next first rest split =>
    split
    · rw [List.filter_cons, List.filter_filter]
      simp [split, List.filter_cons]
    · rw [List.filter_filter, split]
      simp
  · next split => rw [split]

/-- Without points the parts of a path are its pieces. -/
theorem parts_eq_pieces (none : "." ∉ pieces path) : parts path = pieces path := by
  have kept {rest : List String} (sub : rest ⊆ pieces path) : rest.filter (· ≠ ".") = rest :=
    List.filter_eq_self.mpr fun name member =>
      decide_eq_true fun point => none (point ▸ sub member)
  rw [parts]
  split
  · next first rest split =>
    have point : (first == ".") = false :=
      beq_eq_false_iff_ne.mpr fun point => none (by rw [split, point]; exact List.mem_cons_self)
    rw [point, Bool.false_and, if_neg Bool.false_ne_true, ← split]
    exact kept (List.Subset.refl _)
  · next split => exact split.symm

/-- A point is a part only in front of a relative path. -/
theorem parts_of_pieces {other : String} (pieces_eq : pieces path = parts other)
    (absolute : isAbsolute path = isAbsolute other) : parts path = parts other := by
  rw [parts.eq_def path, pieces_eq]
  generalize equal : parts other = found
  rw [parts.eq_def, ← absolute] at equal
  split at equal
  · next first rest split =>
    split at equal
    · next point => rw [← equal]; simp [point]
    · next noPoint =>
      have points : ∀ name ∈ found, name ≠ "." := by
        intro name member
        rw [← equal, List.mem_filter] at member
        exact of_decide_eq_true member.2
      cases found with
      | nil => rfl
      | cons name others =>
        have differs : (name == ".") = false :=
          beq_eq_false_iff_ne.mpr (points name List.mem_cons_self)
        simp only [differs, Bool.false_and, Bool.false_eq_true, if_false]
        exact List.filter_eq_self.mpr fun name member => decide_eq_true (points name member)
  · rw [← equal]

theorem parts_ne_nil (some : path ≠ "") (relative : isAbsolute path = false) : parts path ≠ [] := by
  obtain ⟨first, rest, split⟩ := List.exists_cons_of_ne_nil (pieces_ne_nil some relative)
  rw [parts, split, relative]
  by_cases point : first = "."
  · simp [point]
  · simp [point]

/-- The only part that is a point is all of them or in front of others. -/
theorem parts_eq_point (some : parts path ≠ []) (points : (parts path).filter (· ≠ ".") = []) :
    parts path = ["."] := by
  generalize equal : parts path = found at *
  rw [parts] at equal
  split at equal
  · next first rest split =>
    split at equal
    · next point =>
      obtain ⟨same, -⟩ := (Bool.and_eq_true _ _).mp point
      rw [← equal, beq_iff_eq.mp same] at points ⊢
      simpa [List.filter_filter] using points
    · rw [← equal, List.filter_filter] at points
      exact absurd (equal.symm.trans (by simpa using points)) some
  · exact absurd equal.symm some

/-- Paths that are the same have the same pieces beside points. -/
theorem pieces_of_same {other : String} (same : Path.same path other = true) :
    isAbsolute path = isAbsolute other ∧
      (pieces path).filter (· ≠ ".") = (pieces other).filter (· ≠ ".") := by
  obtain ⟨absolute, parts⟩ := (Bool.and_eq_true _ _).mp same
  refine ⟨beq_iff_eq.mp absolute, ?_⟩
  rw [← parts_filter, ← parts_filter, beq_iff_eq.mp parts]

/-! ## Paths that are written again -/

/-- The slash at the end of a path, if there is one. -/
def closing (path : String) : String :=
  if path.endsWith "/" then "/" else ""

theorem pieces_append_closing_of (front path : String) :
    pieces (front ++ closing path) = pieces front := by
  rw [closing]
  split
  · exact pieces_append_closing front
  · rw [String.append_empty]

/-- Names that are joined have no slash at the end. -/
theorem closing_join (each : ∀ name ∈ names, IsPiece name) (some : names ≠ []) :
    closing (Text.join "/" names) = "" := by
  refine if_neg fun closed => ?_
  obtain ⟨front, joined⟩ := eq_append_slash closed
  have split := between_join some fun name member => (each name member).noSlash
  rw [joined, between_append_closing] at split
  exact (each "" (split ▸ List.mem_append_right _ (List.mem_singleton_self _))).filled rfl

/-- Texts with a mark after each are the texts joined by that mark, and the mark. -/
theorem intercalate_concat {mark : Char} {texts : List (List Char)} (some : texts ≠ []) :
    [mark].intercalate texts ++ [mark] = texts.flatMap (· ++ [mark]) := by
  induction texts with
  | nil => exact absurd rfl some
  | cons first rest ih =>
    cases rest with
    | nil => rw [List.intercalate_singleton, List.flatMap_singleton]
    | cons next rest =>
      rw [List.intercalate_cons_cons, List.append_assoc, ih (List.cons_ne_nil _ _)]
      rfl

/-- A path is what stands between its slashes, with a slash after each but the last. -/
theorem between_flatMap (path : String) :
    (between path).flatMap (fun piece => piece.toList ++ ['/']) = path.toList ++ ['/'] := by
  rw [between, List.flatMap_map, Text.splitOn_eq_splitOnP]
  simp only [String.toList_ofList]
  rw [← intercalate_concat (List.splitOnP_ne_nil _ _)]
  exact congrArg (· ++ ['/']) (List.intercalate_splitOn '/')

theorem join_concat {texts : List String} (some : texts ≠ []) :
    (Text.join "/" texts).toList ++ ['/'] =
      texts.flatMap (fun piece => piece.toList ++ ['/']) := by
  rw [Text.join, String.toList_intercalate, show "/".toList = ['/'] from rfl,
    intercalate_concat (mt List.map_eq_nil_iff.mp some), List.flatMap_map]

/-- What stands between slashes, the last of it not empty, joined again with the slash at the end. -/
theorem rejoined_sublist {texts : List String} (some : texts ≠ []) (last : texts.getLast? ≠ .some "")
    (kept : texts.Sublist (between path)) :
    (Text.join "/" texts ++ closing path).toList.Sublist path.toList := by
  rw [closing, String.toList_append]
  by_cases closed : path.endsWith "/" = true
  · obtain ⟨front, rfl⟩ := eq_append_slash closed
    have kept : texts.Sublist (between front) := by
      rw [between_append_closing] at kept
      obtain ⟨first, rest, rfl, inFront, atEnd⟩ := List.sublist_append_iff.mp kept
      rcases List.sublist_singleton.mp atEnd with rfl | rfl
      · rwa [List.append_nil]
      · exact absurd List.getLast?_concat last
    rw [if_pos closed, show "/".toList = ['/'] from rfl, join_concat some, String.toList_append,
      show "/".toList = ['/'] from rfl, ← between_flatMap]
    exact kept.flatMap _
  · rw [if_neg closed, String.toList_empty, List.append_nil, ← List.append_sublist_append_right ['/'],
      join_concat some, ← between_flatMap]
    exact kept.flatMap _

/-- **A path that is written again is no longer and has no other characters**: some of its pieces,
with one slash between each two and one at the end if there was one. -/
theorem rejoined_pieces {texts : List String} (some : texts ≠ [])
    (kept : texts.Sublist (pieces path)) :
    (Text.join "/" texts ++ closing path).toList.Sublist path.toList := by
  refine rejoined_sublist some (fun empty => ?_) (kept.trans (pieces_sublist path))
  exact (isPiece_of_mem_pieces (kept.subset (List.mem_of_getLast? empty))).filled rfl

end Path

end BuildYard
