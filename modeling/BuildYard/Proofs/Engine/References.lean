import BuildYard.Reference
import BuildYard.Proofs.Engine.Settlement
import Mathlib.Data.List.DropRight

/-!
# Which image a reference names

A reference is read from its end. What stands behind the last slash may hold a
tag, which begins at the last colon there; whatever stands before that slash,
the port of a registry among it, belongs to the name (`Reference.Names`). The
API is asked for a name and a tag, the program of the engine is given the
reference as it is. That both mean the same image is that name and tag, joined
again, are the reference, or the reference bare of a tag beside the tag
`latest`; so two references are split alike only if one of them spells out this
tag and the other leaves it out (`references_name_images`).
-/

set_option autoImplicit false

namespace BuildYard

namespace Text

variable {mark : Char} {cs before after : List Char}

/-- A text without the mark is not split. -/
theorem splitLast?_eq_none_iff : splitLast? mark cs = none ↔ mark ∉ cs := by
  induction cs with
  | nil => exact iff_of_true rfl List.not_mem_nil
  | cons c cs ih =>
    rw [splitLast?, List.mem_cons, not_or, ← ih]
    cases splitLast? mark cs with
    | some parts => exact iff_of_false nofun fun both => nomatch both.2
    | none =>
      by_cases here : c = mark
      · exact iff_of_false (by simp [here]) fun both => both.1 here.symm
      · exact iff_of_true (by simp [here]) ⟨Ne.symm here, rfl⟩

theorem splitLast?_append_cons (absent : mark ∉ after) :
    splitLast? mark (before ++ mark :: after) = some (before, after) := by
  induction before with
  | nil => rw [List.nil_append, splitLast?, splitLast?_eq_none_iff.mpr absent, if_pos rfl]
  | cons c before ih => rw [List.cons_append, splitLast?, ih]

/-- **A text is split at the last mark**, and joined again it is the same text. -/
theorem splitLast?_eq_some_iff :
    splitLast? mark cs = some (before, after) ↔ mark ∉ after ∧ cs = before ++ mark :: after := by
  constructor
  · intro split
    have member : mark ∈ cs := by
      by_contra absent
      cases (splitLast?_eq_none_iff.mpr absent).symm.trans split
    obtain ⟨back, front, reversed, absent⟩ :=
      List.eq_append_cons_of_mem (List.mem_reverse.mpr member)
    have whole : cs = front.reverse ++ mark :: back.reverse := by
      rw [← List.reverse_reverse cs, reversed]
      simp
    rw [whole, splitLast?_append_cons (by simpa using absent)] at split
    obtain ⟨rfl, rfl⟩ := Prod.mk.inj (Option.some.inj split)
    exact ⟨by simpa using absent, whole⟩
  · rintro ⟨absent, rfl⟩
    exact splitLast?_append_cons absent

end Text

namespace Reference

open Text

/-! ## Names and tags -/

/-- What a reference begins with up to its last slash. -/
def dir (reference : String) : List Char :=
  reference.toList.rdropWhile (· != '/')

/-- What stands behind the last slash. -/
def base (reference : String) : List Char :=
  reference.toList.rtakeWhile (· != '/')

/-- How a reference is understood as a name and a tag. -/
inductive Names (reference : String) : String × String → Prop where
  /-- by the digest of the image -/
  | digest (marked : '@' ∈ reference.toList) : Names reference (reference, "")
  /-- with a tag behind the last slash -/
  | tagged {name tag : String} (unmarked : '@' ∉ reference.toList)
      (whole : name ++ ":" ++ tag = reference) (last : ':' ∉ tag.toList)
      (behind : '/' ∉ tag.toList) : Names reference (name, tag)
  /-- without a tag -/
  | bare (unmarked : '@' ∉ reference.toList) (bare : ':' ∉ base reference) :
      Names reference (reference, "latest")

section Splitting

variable {reference : String} {parts : String × String} {front behind : List Char}

/-- The two parts are the whole. -/
theorem dir_append_base (reference : String) : dir reference ++ base reference = reference.toList :=
  List.rdropWhile_append_rtakeWhile

/-- No slash stands behind the last one. -/
theorem slash_not_mem_base : '/' ∉ base reference := fun member =>
  absurd (List.mem_rtakeWhile_imp member) (by decide)

theorem base_of_no_slash (absent : '/' ∉ reference.toList) : base reference = reference.toList := by
  refine List.rtakeWhile_eq_self_iff.mpr fun c member => ?_
  rw [bne_iff_ne]
  rintro rfl
  exact absent member

theorem base_of_slash (whole : reference.toList = front ++ '/' :: behind) (absent : '/' ∉ behind) :
    base reference = behind := by
  have kept : ∀ c ∈ behind.reverse, (c != '/') = true := fun c member => by
    rw [bne_iff_ne]
    rintro rfl
    exact absent (List.mem_reverse.mp member)
  rw [base, whole, List.rtakeWhile, List.reverse_append, List.reverse_cons, List.append_assoc,
    List.singleton_append, List.takeWhile_append_of_pos kept,
    List.takeWhile_cons_of_neg (by decide), List.append_nil, List.reverse_reverse]

/-- Without an at sign only what stands behind the last slash is looked into for a tag. -/
theorem split_of_unmarked (unmarked : '@' ∉ reference.toList) :
    split reference = match splitLast? ':' (base reference) with
      | some (name, tag) => (String.ofList (dir reference ++ name), String.ofList tag)
      | none => (reference, "latest") := by
  rw [split, if_neg fun found => unmarked (List.contains_iff_mem.mp found)]
  cases parted : splitLast? '/' reference.toList with
  | none =>
    have whole := base_of_no_slash (splitLast?_eq_none_iff.mp parted)
    have empty : dir reference = [] :=
      List.append_left_eq_self.mp ((congrArg _ whole).symm.trans (dir_append_base reference))
    cases tagged : splitLast? ':' reference.toList <;>
      simp only [whole, empty, tagged, List.nil_append]
  | some parts =>
    obtain ⟨front, behind⟩ := parts
    obtain ⟨absent, whole⟩ := splitLast?_eq_some_iff.mp parted
    have last := base_of_slash whole absent
    have first : dir reference = front ++ ['/'] := by
      have joined := dir_append_base reference
      rw [last, whole, List.append_cons] at joined
      exact List.append_cancel_right joined
    cases tagged : splitLast? ':' behind <;> simp only [last, first, tagged]

/-- **A reference is split as it is understood.** -/
theorem names_split (reference : String) : Names reference (split reference) := by
  by_cases marked : '@' ∈ reference.toList
  · rw [split, if_pos (List.contains_iff_mem.mpr marked)]
    exact .digest marked
  · rw [split_of_unmarked marked]
    cases parted : splitLast? ':' (base reference) with
    | none => exact .bare marked (splitLast?_eq_none_iff.mp parted)
    | some parts =>
      obtain ⟨name, tag⟩ := parts
      obtain ⟨last, ends⟩ := splitLast?_eq_some_iff.mp parted
      refine .tagged marked ?_ (by simpa using last) ?_
      · refine String.toList_inj.mp ?_
        rw [← dir_append_base reference, ends]
        simp
      · rw [String.toList_ofList]
        intro slash
        have within : '/' ∈ base reference := by
          rw [ends]
          exact List.mem_append_right _ (List.mem_cons_of_mem _ slash)
        exact slash_not_mem_base within

theorem toList_joined {name tag : String} (whole : name ++ ":" ++ tag = reference) :
    reference.toList = name.toList ++ ':' :: tag.toList := by
  rw [← whole]
  simp

/-- A colon that no slash follows stands behind the last slash. -/
theorem colon_mem_base {name tag : String} (whole : name ++ ":" ++ tag = reference)
    (behind : '/' ∉ tag.toList) : ':' ∈ base reference := by
  have joined := toList_joined whole
  cases parted : splitLast? '/' name.toList with
  | none =>
    have absent : '/' ∉ reference.toList := by
      rw [joined]
      simpa using ⟨splitLast?_eq_none_iff.mp parted, behind⟩
    rw [base_of_no_slash absent, joined]
    exact List.mem_append_right _ List.mem_cons_self
  | some parts =>
    obtain ⟨front, back⟩ := parts
    obtain ⟨absent, split⟩ := splitLast?_eq_some_iff.mp parted
    rw [split, List.append_assoc, List.cons_append] at joined
    rw [base_of_slash joined (by simpa using ⟨absent, behind⟩)]
    exact List.mem_append_right _ List.mem_cons_self

/-- **A reference is understood in one way.** -/
theorem Names.unique {parts' : String × String} (first : Names reference parts)
    (second : Names reference parts') : parts = parts' := by
  cases first with
  | digest marked =>
    cases second with
    | digest => rfl
    | tagged unmarked => exact absurd marked unmarked
    | bare unmarked => exact absurd marked unmarked
  | tagged unmarked whole last behind =>
    cases second with
    | digest marked => exact absurd marked unmarked
    | tagged _ whole' last' =>
      have one := splitLast?_eq_some_iff.mpr ⟨last, toList_joined whole⟩
      have other := splitLast?_eq_some_iff.mpr ⟨last', toList_joined whole'⟩
      obtain ⟨name, tag⟩ := Prod.mk.inj (Option.some.inj (one.symm.trans other))
      rw [String.toList_inj.mp name, String.toList_inj.mp tag]
    | bare _ bare => exact absurd (colon_mem_base whole behind) bare
  | bare unmarked bare =>
    cases second with
    | digest marked => exact absurd marked unmarked
    | tagged _ whole _ behind => exact absurd (colon_mem_base whole behind) bare
    | bare => rfl

theorem split_eq_iff : split reference = parts ↔ Names reference parts :=
  ⟨fun same => same ▸ names_split reference, fun names => (names_split reference).unique names⟩

/-- What stands before a slash belongs to the name. -/
theorem Names.keeps (names : Names reference parts)
    (slash : reference.toList = front ++ '/' :: behind) : front ++ ['/'] <+: parts.1.toList := by
  have within : front ++ ['/'] <+: reference.toList := ⟨behind, by rw [slash, ← List.append_cons]⟩
  cases names with
  | digest => exact within
  | bare => exact within
  | @tagged name tag _ whole _ absent =>
    rcases List.append_eq_append_iff.mp ((toList_joined whole).symm.trans slash) with
      ⟨back, -, ends⟩ | ⟨back, begins, ends⟩
    · -- the slash would stand at the colon or in the tag
      cases back with
      | nil => exact absurd (List.cons.inj ends).1 (by decide)
      | cons c back =>
        refine absurd ?_ absent
        rw [(List.cons.inj ends).2]
        exact List.mem_append_right _ List.mem_cons_self
    · cases back with
      | nil => exact absurd (List.cons.inj ends).1 (by decide)
      | cons c back =>
        rw [begins, ← (List.cons.inj ends).1]
        exact ⟨back, (List.append_cons ..).symm⟩

/-! ## References that mean the same -/

/-- A reference that spells out the tag which another leaves out. -/
def SpellsOut (reference other : String) : Prop :=
  ':' ∉ base other ∧ reference = other ++ ":latest"

/-- **Two references are split alike if one spells out what the other leaves out**, and otherwise
only if they are the same. -/
theorem split_eq_split_iff {other : String} (unmarked : '@' ∉ reference.toList)
    (unmarked' : '@' ∉ other.toList) :
    split reference = split other ↔
      reference = other ∨ SpellsOut reference other ∨ SpellsOut other reference := by
  have spelled {long short : String} (plain : '@' ∉ long.toList) (plain' : '@' ∉ short.toList)
      (spells : SpellsOut long short) : split long = split short := by
    obtain ⟨bare, whole⟩ := spells
    rw [split_eq_iff.mpr (.bare plain' bare), split_eq_iff]
    exact .tagged plain (by rw [whole, String.append_assoc]; rfl) (by decide) (by decide)
  constructor
  · intro same
    have first := names_split reference
    have second := names_split other
    generalize split reference = parts at first same
    generalize split other = parts' at second same
    cases first with
    | digest marked => exact absurd marked unmarked
    | tagged _ whole =>
      cases second with
      | digest marked => exact absurd marked unmarked'
      | tagged _ whole' =>
        obtain ⟨rfl, rfl⟩ := Prod.mk.inj same
        exact .inl (whole.symm.trans whole')
      | bare _ bare =>
        obtain ⟨rfl, rfl⟩ := Prod.mk.inj same
        exact .inr (.inl ⟨bare, by rw [← whole, String.append_assoc]; rfl⟩)
    | bare _ bare =>
      cases second with
      | digest marked => exact absurd marked unmarked'
      | tagged _ whole =>
        obtain ⟨rfl, rfl⟩ := Prod.mk.inj same
        exact .inr (.inr ⟨bare, by rw [← whole, String.append_assoc]; rfl⟩)
      | bare => exact .inl (Prod.mk.inj same).1
  · rintro (rfl | spells | spells)
    · rfl
    · exact spelled unmarked unmarked' spells
    · exact (spelled unmarked' unmarked spells).symm

end Splitting

end Reference

/-! ## Images that are pulled -/

/-- The API is asked for an image with one request, for a name and a tag. -/
theorem ByApi.pullImage_requests (driver : ByApi) (reference : String) :
    (driver.attempt (.pullImage reference)).Ensures fun _ made => ∃ answer,
      made = [⟨.send driver.address (request "POST" "/images/create"
        [("fromImage", (Reference.split reference).1), ("tag", (Reference.split reference).2)]
        .none), answer⟩] := by
  refine Program.ensures_andThen.mpr (ensures_send.mpr fun answer => ?_)
  cases resultOf Replies.accepted answer with
  | error cause => exact ⟨answer, rfl⟩
  | ok body => exact ensures_notes.mpr (ensures_ofRequest.mpr ⟨answer, rfl⟩)

/-- The program of the engine is given the reference as it is. -/
theorem ByCommand.pullImage_requests (driver : ByCommand) (reference : String) :
    (driver.attempt (.pullImage reference)).Ensures fun _ made => ∃ outcome,
      made = [⟨.invoke (driver.invocation ["pull", reference]) none, outcome⟩] := by
  rw [attempt, Attempt.Ensures, Host.Ensures, Attempt.ensures_map]
  exact ensures_run.mpr fun outcome => ⟨outcome, rfl⟩

namespace Reference

/-- **The API is asked for the image that the program of the engine is.** With an at sign the
reference is the name and the tag is empty. Otherwise the tag has neither colon nor slash, and name
and tag joined are the reference, unless no colon stands behind its last slash: then the reference
is the name beside the tag `latest`. Whatever stands before a slash belongs to the name. Two
references are split alike exactly if they are the same or one spells out the tag `latest`, which
the other leaves out. -/
theorem references_name_images (reference other : String) :
    ('@' ∈ reference.toList → split reference = (reference, "")) ∧
    ('@' ∉ reference.toList →
      ':' ∉ (split reference).2.toList ∧ '/' ∉ (split reference).2.toList ∧
      ((split reference).1 ++ ":" ++ (split reference).2 = reference ∨
        ':' ∉ base reference ∧ split reference = (reference, "latest")) ∧
      ('@' ∉ other.toList → (split reference = split other ↔
        reference = other ∨ SpellsOut reference other ∨ SpellsOut other reference))) ∧
    (∀ front behind, reference.toList = front ++ '/' :: behind →
      front ++ ['/'] <+: (split reference).1.toList) ∧
    (∀ driver : ByApi, (driver.attempt (.pullImage reference)).Ensures fun _ made => ∃ answer,
      made = [⟨.send driver.address (ByApi.request "POST" "/images/create"
        [("fromImage", (split reference).1), ("tag", (split reference).2)] .none), answer⟩]) ∧
    ∀ driver : ByCommand, (driver.attempt (.pullImage reference)).Ensures fun _ made =>
      ∃ outcome, made = [⟨.invoke (driver.invocation ["pull", reference]) none, outcome⟩] := by
  refine ⟨fun marked => split_eq_iff.mpr (.digest marked), fun unmarked => ?_,
    fun front behind slash => (names_split reference).keeps slash,
    fun driver => driver.pullImage_requests reference,
    fun driver => driver.pullImage_requests reference⟩
  have alike (unmarked' : '@' ∉ other.toList) := split_eq_split_iff unmarked unmarked'
  have names := names_split reference
  generalize parted : split reference = parts at names alike
  cases names with
  | digest marked => exact absurd marked unmarked
  | tagged _ whole last behind => exact ⟨last, behind, .inl whole, alike⟩
  | bare _ bare =>
    have plain : ':' ∉ "latest".toList ∧ '/' ∉ "latest".toList := by decide
    exact ⟨plain.1, plain.2, .inr ⟨bare, rfl⟩, alike⟩

/-- The port of a registry is no tag, and the tag may be left out. -/
theorem references_name_images_behind_port :
    '@' ∉ "registry:5000/team/tools".toList ∧
    '@' ∉ "registry:5000/team/tools:latest".toList ∧
    split "registry:5000/team/tools" = split "registry:5000/team/tools:latest" := by
  have plain : '@' ∉ "registry:5000/team/tools".toList := by decide
  have plain' : '@' ∉ "registry:5000/team/tools:latest".toList := by decide
  have alike := (references_name_images "registry:5000/team/tools"
    "registry:5000/team/tools:latest").2.1 plain
  exact ⟨plain, plain', (alike.2.2.2 plain').mpr (.inr (.inr ⟨by decide, rfl⟩))⟩

end Reference

end BuildYard
