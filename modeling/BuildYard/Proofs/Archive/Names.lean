import BuildYard.Archive.Writer
import BuildYard.Proofs.Text.Bytes
import BuildYard.Proofs.Text.Paths

/-!
# Names and links that archives keep

The field for a name keeps its parts, and so does the field for a link; what
does not fit stands in full in front (`NamePlaced`, `LinkPlaced`). Every name of
something below a directory can be kept, whatever its length, and a field keeps
it as it is (`placeName_join`). So can the target of every link, of which a field
keeps a path that is the same (`placeLink_target`, `same_of_fieldText`).
-/

set_option autoImplicit false

namespace BuildYard.Archive

open BuildYard.Path (IsName IsPiece)

variable {role : NameRole} {path text : String} {names : List String}

/-! ## What a field keeps -/

theorem length_ofString_le (kept : text.toList.Sublist path.toList) :
    (Bytes.ofString text).length ≤ (Bytes.ofString path).length :=
  (Bytes.ofString_sublist kept).length_le

theorem fieldBytes_of_fieldText (written : fieldText role path = .ok text)
    (plain : 0 ∉ Bytes.ofString text) :
    fieldBytes role path =
      if nameRoom < (Bytes.ofString text).length then .error .tooLong
      else .ok (Bytes.ofString text) := by
  have noZero : (Bytes.ofString text).contains 0 = false :=
    Bool.eq_false_iff.mpr (mt List.contains_iff_mem.mp plain)
  simp only [fieldBytes, written, noZero, bind, Except.bind, Bool.false_eq_true, if_false]

theorem fieldBytes_eq_ok {bytes : Bytes} (written : fieldBytes role path = .ok bytes) :
    ∃ text, fieldText role path = .ok text ∧ bytes = Bytes.ofString text ∧
      bytes.length ≤ nameRoom ∧ 0 ∉ bytes := by
  cases kept : fieldText role path with
  | error fault =>
    rw [fieldBytes, kept] at written
    cases written
  | ok text =>
    simp only [fieldBytes, kept, bind, Except.bind] at written
    split at written
    · cases written
    · next fits =>
      split at written
      · cases written
      · next plain =>
        obtain rfl := Except.ok.inj written
        exact ⟨text, rfl, rfl, Nat.le_of_not_lt fits, mt List.contains_iff_mem.mpr plain⟩

/-! ## Where names and links stand -/

/-- Where a name stands: in its field, written again, or in full in front of the member. -/
inductive NamePlaced (name : String) : Bytes × Bytes → Prop where
  | inField {text : String} (written : fieldText .name name = .ok text)
      (fits : (Bytes.ofString text).length ≤ nameRoom) (plain : 0 ∉ Bytes.ofString text) :
      NamePlaced name ([], Bytes.ofString text)
  | inFront {bytes : Bytes} (fits : bytes.length ≤ nameRoom) :
      NamePlaced name (announcement longNameKind name, bytes)

/-- The same for the target of a link, of which the field keeps nothing if it stands in front. -/
inductive LinkPlaced (target : String) : Bytes × Bytes → Prop where
  | inField {text : String} (written : fieldText .link target = .ok text)
      (fits : (Bytes.ofString text).length ≤ nameRoom) (plain : 0 ∉ Bytes.ofString text) :
      LinkPlaced target ([], Bytes.ofString text)
  | inFront : LinkPlaced target (announcement longLinkKind target, [])

theorem placeName_placed {name : String} {place : Bytes × Bytes}
    (placed : placeName name = .ok place) : NamePlaced name place := by
  rw [placeName] at placed
  split at placed
  · next bytes written =>
    obtain ⟨text, kept, rfl, fits, plain⟩ := fieldBytes_eq_ok written
    obtain rfl := Except.ok.inj placed
    exact .inField kept fits plain
  · split at placed
    · cases placed
    · cases cutBytes : fieldBytes .cutName (cut nameRoom name) with
      | error fault =>
        rw [cutBytes] at placed
        cases placed
      | ok bytes =>
        rw [cutBytes] at placed
        obtain rfl := Except.ok.inj placed
        obtain ⟨-, -, -, fits, -⟩ := fieldBytes_eq_ok cutBytes
        exact .inFront fits

theorem placeLink_placed {target : String} {place : Bytes × Bytes}
    (placed : placeLink target = .ok place) : LinkPlaced target place := by
  rw [placeLink] at placed
  split at placed
  · next bytes written =>
    obtain ⟨text, kept, rfl, fits, plain⟩ := fieldBytes_eq_ok written
    obtain rfl := Except.ok.inj placed
    exact .inField kept fits plain
  · split at placed
    · cases placed
    · obtain rfl := Except.ok.inj placed
      exact .inFront

/-! ## Names of entries -/

/-- A relative path that does not climb can be written again. -/
theorem fieldText_relative (other : role ≠ .link) (some : path ≠ "")
    (relative : Path.isAbsolute path = false)
    (stays : ".." ∉ if role == .cutName then (Path.parts path).dropLast else Path.parts path) :
    ∃ text, fieldText role path = .ok text ∧ text.toList.Sublist path.toList := by
  have filled := Path.parts_ne_nil some relative
  obtain ⟨parts, found, more, kept⟩ : ∃ parts, nameParts role path = .ok parts ∧ parts ≠ [] ∧
      parts.Sublist (Path.parts path) := by
    have noClimb : (if role == .cutName then (Path.parts path).dropLast
        else Path.parts path).contains ".." = false :=
      Bool.eq_false_iff.mpr (mt List.contains_iff_mem.mp stays)
    simp only [nameParts, relative, noClimb, Bool.false_eq_true, if_false]
    by_cases point : (Path.parts path == ["."]) = true
    · rw [if_pos point]
      exact ⟨_, rfl, filled, List.Sublist.refl _⟩
    · rw [if_neg point]
      refine ⟨_, rfl, fun none => point ?_, List.filter_sublist⟩
      exact beq_iff_eq.mpr (Path.parts_eq_point filled none)
  refine ⟨Text.join "/" parts ++ Path.closing path, ?_, ?_⟩
  · rw [fieldText.eq_def]
    cases role with
    | link => exact absurd rfl other
    | name | cutName =>
      simp only [found, bind, Except.bind, List.isEmpty_eq_false_iff.mpr more, Bool.false_eq_true,
        if_false]
      rfl
  · exact Path.rejoined_pieces more (kept.trans (Path.parts_sublist path))

/-- The beginning of a text is one. -/
theorem cut_prefix (room : Nat) (text : String) : (cut room text).toList <+: text.toList := by
  rw [cut, String.toList_ofList]
  generalize text.toList = chars
  induction chars generalizing room with
  | nil => exact List.nil_prefix
  | cons c chars ih =>
    rw [cut.go]
    split
    · exact List.cons_prefix_cons.mpr ⟨rfl, ih _⟩
    · exact List.nil_prefix

theorem length_cut_le (room : Nat) (text : String) :
    (Bytes.ofString (cut room text)).length ≤ room := by
  rw [cut, Bytes.ofString, String.toList_ofList]
  generalize text.toList = chars
  induction chars generalizing room with
  | nil => exact Nat.zero_le _
  | cons c chars ih =>
    rw [cut.go]
    split
    · next fits =>
      rw [List.flatMap_cons, List.length_append]
      have rest := ih (room - (String.utf8EncodeChar c).length)
      omega
    · exact Nat.zero_le _

theorem cut_ne_empty (some : text ≠ "") : cut nameRoom text ≠ "" := by
  cases chars : text.toList with
  | nil => exact absurd (String.toList_eq_nil_iff.mp chars) some
  | cons c rest =>
    have small : (String.utf8EncodeChar c).length ≤ nameRoom := by
      rw [String.length_utf8EncodeChar]
      exact c.utf8Size_le_four.trans (by decide)
    intro none
    have empty := congrArg String.toList none
    rw [cut, chars, String.toList_ofList, cut.go, if_pos small] at empty
    cases empty

section Names

variable (each : ∀ name ∈ names, IsName name) (some : names ≠ [])
include each some

theorem join_ne_empty : Text.join "/" names ≠ "" := by
  intro empty
  have split := Path.pieces_join fun name member => (each name member).toIsPiece
  rw [empty] at split
  exact some split.symm

omit some in
theorem parts_join : Path.parts (Text.join "/" names) = names := by
  have split := Path.pieces_join fun name member => (each name member).toIsPiece
  rw [Path.parts_eq_pieces ?_, split]
  rw [split]
  exact fun point => (each _ point).noPoint rfl

theorem not_absolute_join : Path.isAbsolute (Text.join "/" names) = false :=
  Path.not_absolute_join (fun name member => (each name member).toIsPiece) some

theorem noNul_join : Char.ofNat 0 ∉ (Text.join "/" names).toList := by
  intro nul
  have inside := List.mem_append_left ['/'] nul
  rw [Path.join_concat some] at inside
  obtain ⟨name, member, inName⟩ := List.mem_flatMap.mp inside
  rcases List.mem_append.mp inName with here | slash
  · exact (each name member).noNul here
  · exact absurd (List.mem_singleton.mp slash) (by decide)

/-- **The field for a name keeps the name of an entry as it is.** -/
theorem fieldText_join : fieldText .name (Text.join "/" names) = .ok (Text.join "/" names) := by
  have stays : names.contains ".." = false :=
    Bool.eq_false_iff.mpr fun climbs => (each _ (List.contains_iff_mem.mp climbs)).noClimb rfl
  have noPoint : ¬ (names == ["."]) = true := fun point =>
    (each "." (beq_iff_eq.mp point ▸ List.mem_singleton_self _)).noPoint rfl
  have kept : names.filter (· ≠ ".") = names :=
    List.filter_eq_self.mpr fun name member => decide_eq_true (each name member).noPoint
  have found : nameParts .name (Text.join "/" names) = .ok names := by
    simp only [nameParts, parts_join each, not_absolute_join each some]
    rw [if_neg Bool.false_ne_true, if_neg (by simpa using stays), if_neg noPoint, kept]
  have closing := Path.closing_join (fun name member => (each name member).toIsPiece) some
  rw [Path.closing] at closing
  simp only [fieldText, found, bind, Except.bind, List.isEmpty_eq_false_iff.mpr some,
    Bool.false_eq_true, if_false, closing, String.append_empty]

/-- The beginning of the name of an entry can be written again. -/
theorem fieldBytes_cut :
    ∃ bytes, fieldBytes .cutName (cut nameRoom (Text.join "/" names)) = .ok bytes := by
  generalize equal : cut nameRoom (Text.join "/" names) = front
  have begins : front.toList <+: (Text.join "/" names).toList := equal ▸ cut_prefix _ _
  have short : (Bytes.ofString front).length ≤ nameRoom := equal ▸ length_cut_le _ _
  have filled : front ≠ "" := equal ▸ cut_ne_empty (join_ne_empty each some)
  have relative : Path.isAbsolute front = false := by
    refine Bool.eq_false_iff.mpr fun absolute => ?_
    have whole := Path.isAbsolute_iff.mpr ((Path.isAbsolute_iff.mp absolute).trans begins)
    rw [not_absolute_join each some] at whole
    cases whole
  -- all parts but the last are whole names, so that none of them leads up
  have stays : ".." ∉ (Path.parts front).dropLast := by
    intro climbs
    have whole := Path.dropLast_between_prefix begins
    rw [Path.between_join some fun name member => (each name member).noSlash] at whole
    have inside : (Path.parts front).dropLast.Sublist (Path.between front).dropLast := by
      rw [← List.reverse_sublist, ← List.tail_reverse, ← List.tail_reverse]
      exact ((Path.parts_sublist front).trans (Path.pieces_sublist front)).reverse.tail
    exact (each _ (whole.subset (inside.subset climbs))).noClimb rfl
  obtain ⟨text, written, kept⟩ : ∃ text, fieldText .cutName front = .ok text ∧
      text.toList.Sublist front.toList := fieldText_relative nofun filled relative stays
  have plain : 0 ∉ Bytes.ofString text := mt Bytes.zero_mem_ofString fun nul =>
    noNul_join each some (begins.subset (kept.subset nul))
  refine ⟨Bytes.ofString text, (fieldBytes_of_fieldText written plain).trans (if_neg ?_)⟩
  exact Nat.not_lt.mpr ((length_ofString_le kept).trans short)

/-- **The name of an entry can be kept, whatever its length.** -/
theorem placeName_join : ∃ place, placeName (Text.join "/" names) = .ok place := by
  have plain : 0 ∉ Bytes.ofString (Text.join "/" names) :=
    mt Bytes.zero_mem_ofString (noNul_join each some)
  rw [placeName, fieldBytes_of_fieldText (fieldText_join each some) plain]
  obtain ⟨bytes, written⟩ := fieldBytes_cut each some
  split
  · exact ⟨_, rfl⟩
  · next fault failed =>
    split at failed
    · next long =>
      rw [if_neg (Nat.not_lt.mpr (Nat.le_of_lt long)), written]
      exact ⟨_, rfl⟩
    · cases failed

end Names

/-! ## Targets of links -/

/-- The field for a link keeps the parts of its target. -/
theorem fieldText_link {target : String} (written : fieldText .link target = .ok text) :
    text = (if Path.isAbsolute target then "/" else "") ++ Text.join "/" (Path.parts target) ++
        Path.closing target ∧
      (Path.isAbsolute target = false → Path.parts target ≠ []) := by
  simp only [fieldText] at written
  by_cases absolute : Path.isAbsolute target = true
  · rw [if_pos absolute] at written ⊢
    obtain rfl := Except.ok.inj written
    exact ⟨rfl, fun relative => absurd (absolute.symm.trans relative) nofun⟩
  · rw [if_neg absolute] at written ⊢
    split at written
    · cases written
    · next more =>
      obtain rfl := Except.ok.inj written
      exact ⟨by rw [String.empty_append]; rfl, fun _ none => more (List.isEmpty_iff.mpr none)⟩

/-- **What the field for a link keeps is the same path.** -/
theorem same_of_fieldText {target : String} (written : fieldText .link target = .ok text) :
    Path.same text target = true := by
  obtain ⟨rfl, filled⟩ := fieldText_link written
  have each : ∀ name ∈ Path.parts target, IsPiece name := fun name member =>
    Path.isPiece_of_mem_pieces ((Path.parts_sublist target).subset member)
  have split : Path.pieces (Text.join "/" (Path.parts target) ++ Path.closing target) =
      Path.parts target := by
    rw [Path.pieces_append_closing_of, Path.pieces_join each]
  suffices kept : Path.isAbsolute _ = Path.isAbsolute target ∧
      Path.pieces _ = Path.parts target by
    rw [Path.same, kept.1, Path.parts_of_pieces kept.2 kept.1, beq_self_eq_true,
      beq_self_eq_true, Bool.and_self]
  cases absolute : Path.isAbsolute target with
  | true =>
    rw [if_pos rfl, String.append_assoc, Path.pieces_opening_append, split,
      Path.isAbsolute_append (by decide)]
    exact ⟨Path.isAbsolute_slash, rfl⟩
  | false =>
    rw [if_neg Bool.false_ne_true, String.empty_append, split,
      Path.isAbsolute_join each (filled absolute)]
    exact ⟨rfl, rfl⟩

/-- The target of a link can be written again, no longer than before unless it is the root. -/
theorem fieldText_target {target : String} (some : target ≠ "") :
    ∃ text, fieldText .link target = .ok text ∧
      (text.toList.Sublist target.toList ∨ text = "/" ∨ text = "//") := by
  cases absolute : Path.isAbsolute target with
  | false =>
    have filled := Path.parts_ne_nil some absolute
    refine ⟨Text.join "/" (Path.parts target) ++ Path.closing target, ?_, .inl ?_⟩
    · simp only [fieldText, absolute, Bool.false_eq_true, if_false,
        List.isEmpty_eq_false_iff.mpr filled]
      rfl
    · exact Path.rejoined_pieces filled (Path.parts_sublist target)
  | true =>
    refine ⟨"/" ++ Text.join "/" (Path.parts target) ++ Path.closing target, ?_, ?_⟩
    · simp only [fieldText, absolute, if_true]
      rfl
    · cases parts : Path.parts target with
      | nil =>
        rw [Path.closing]
        split
        · exact .inr (.inr rfl)
        · exact .inr (.inl rfl)
      | cons first rest =>
        obtain ⟨back, rfl⟩ := Path.eq_slash_append absolute
        have kept : (first :: rest).Sublist (Path.between back) := by
          rw [← parts]
          refine (Path.parts_sublist _).trans ?_
          rw [Path.pieces_opening_append]
          exact Path.pieces_sublist back
        have joined : "/" ++ Text.join "/" (first :: rest) = Text.join "/" ("" :: first :: rest) := by
          rw [Text.join, Text.join, String.intercalate_cons_cons, String.empty_append]
        rw [joined]
        refine .inl (Path.rejoined_sublist (List.cons_ne_nil _ _) (fun empty => ?_) ?_)
        · rw [List.getLast?_cons_cons] at empty
          have inside := (Path.parts_sublist ("/" ++ back)).subset (parts ▸ List.mem_of_getLast? empty)
          exact (Path.isPiece_of_mem_pieces inside).filled rfl
        · rw [Path.between_opening_append]
          exact kept.cons_cons ""

/-- **The target of every link can be kept, whatever its length.** -/
theorem placeLink_target {target : String} (some : target ≠ "")
    (noNul : Char.ofNat 0 ∉ target.toList) : ∃ place, placeLink target = .ok place := by
  obtain ⟨text, written, kept⟩ := fieldText_target some
  have plain : 0 ∉ Bytes.ofString text := by
    refine mt Bytes.zero_mem_ofString ?_
    rcases kept with kept | rfl | rfl
    · exact fun nul => noNul (kept.subset nul)
    · decide
    · decide
  rw [placeLink, fieldBytes_of_fieldText written plain]
  split
  · exact ⟨_, rfl⟩
  · next fault failed =>
    split at failed
    · next long =>
      rw [if_neg]
      · exact ⟨_, rfl⟩
      · rcases kept with kept | rfl | rfl
        · exact Nat.not_lt.mpr ((Nat.le_of_lt long).trans (length_ofString_le kept))
        · exact absurd long (by decide)
        · exact absurd long (by decide)
    · cases failed

end BuildYard.Archive
