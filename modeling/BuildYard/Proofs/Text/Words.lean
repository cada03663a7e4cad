import BuildYard.Text.Blank
import BuildYard.Text.Words
import Mathlib.Data.List.TakeWhile

/-!
# Lines without words

A word, once it has begun, is never lost: from any place inside one the reader
comes to at least one word, if it comes to anything (`read_ne_nil`). So a line
has no words exactly if nothing in it begins one. Such a line is `Idle`: it
consists of separators, of ends of lines that a backslash continues, and of
comments (`split?_eq_nil_iff`).

Being without words is therefore not being blank. A blank that separates no
words, such as a carriage return, is a word; and a comment is none, however
much it says.
-/

set_option autoImplicit false

namespace BuildYard.Text

/-! ## Blanks -/

theorem dropLastWhile_eq_nil_iff {α : Type} {p : α → Bool} {cs : List α} :
    dropLastWhile p cs = [] ↔ ∀ c ∈ cs, p c = true := by
  rw [dropLastWhile, List.reverse_eq_nil_iff, List.dropWhile_eq_nil_iff]
  exact forall_congr' fun c => by rw [List.mem_reverse]

/-- Nothing is left of a text without its outer blanks if it has only blanks. -/
theorem strip_eq_nil_iff {cs : List Char} : strip cs = [] ↔ ∀ c ∈ cs, isBlank c = true := by
  rw [strip, dropLastWhile_eq_nil_iff]
  constructor
  · intro rest c member
    -- what is dropped in front is blank, and what is left is so too
    rw [← List.takeWhile_append_dropWhile (p := isBlank) (l := cs), List.mem_append] at member
    exact member.elim List.mem_takeWhile_imp (rest c)
  · exact fun all c member => all c ((List.dropWhile_sublist _).subset member)

namespace Words

variable {place : Place} {word cs : List Char} {c : Char}

theorem isBlank_of_isSeparator (separator : isSeparator c = true) : isBlank c = true := by
  simp only [isSeparator, Bool.or_eq_true, beq_iff_eq] at separator
  obtain (rfl | rfl) | rfl := separator <;> rfl

theorem isSpecial_of_isBlank (blank : isBlank c = true) : isSpecial c = false := by
  rw [Bool.eq_false_iff]
  intro special
  simp only [isSpecial, Bool.or_eq_true, beq_iff_eq] at special
  obtain (rfl | rfl) | rfl := special <;> cases blank

/-! ## Without quotations -/

/-- The places in which no quotation and no backslash is under way. -/
def Place.bare : Place → Bool
  | .between | .word | .comment => true
  | _ => false

/-- A text without quotes and backslashes can be read. -/
theorem read_isSome (bare : place.bare = true) (plain : ∀ c ∈ cs, isSpecial c = false) :
    (read place word cs).isSome = true := by
  induction cs generalizing place word with
  | nil => cases place <;> first | rfl | cases bare
  | cons c cs ih =>
    obtain ⟨here, later⟩ := List.forall_mem_cons.mp plain
    cases place with
    | between =>
      rw [read, if_neg (Bool.eq_false_iff.mp here)]
      repeat' split
      all_goals exact ih rfl later
    | word =>
      rw [read, if_neg (Bool.eq_false_iff.mp here)]
      split
      · exact Option.isSome_map.trans (ih rfl later)
      · exact ih rfl later
    | comment =>
      rw [read]
      split <;> exact ih rfl later
    | _ => cases bare

/-! ## Inside a word -/

/-- The places in which a word has begun. -/
def Place.inWord : Place → Bool
  | .word | .wordEscaped | .single | .double | .doubleEscaped => true
  | .between | .betweenEscaped | .comment => false

theorem Place.inWord_opening {escaped plain : Place} (first : escaped.inWord = true)
    (second : plain.inWord = true) : (Place.opening c escaped plain).inWord = true := by
  unfold opening
  repeat' split
  all_goals first | rfl | assumption

/-- **A word that has begun is never lost.** -/
theorem read_ne_nil (inside : place.inWord = true) : read place word cs ≠ some [] := by
  induction cs generalizing place word with
  | nil => cases place <;> first | cases inside; done | simp [read]
  | cons c cs ih =>
    cases place with
    | between => cases inside
    | betweenEscaped => cases inside
    | comment => cases inside
    | word =>
      rw [read]
      repeat' split
      · intro none
        obtain ⟨words, -, equal⟩ := Option.map_eq_some_iff.mp none
        exact List.cons_ne_nil _ _ equal
      · exact ih (Place.inWord_opening rfl rfl)
      · exact ih rfl
    | wordEscaped => rw [read]; split <;> exact ih rfl
    | single => rw [read]; split <;> exact ih rfl
    | double =>
      rw [read]
      repeat' split
      all_goals exact ih rfl
    | doubleEscaped =>
      rw [read]
      repeat' split
      all_goals exact ih rfl

/-! ## Between words -/

/-- What follows the line that a text begins with. -/
def afterLine (cs : List Char) : List Char :=
  (cs.dropWhile (· != '\n')).tail

theorem afterLine_sublist (cs : List Char) : (afterLine cs).Sublist cs :=
  (List.tail_sublist _).trans (List.dropWhile_sublist _)

/-- A comment is skipped to the end of its line. -/
theorem read_comment : read .comment word cs = read .between word (afterLine cs) := by
  induction cs with
  | nil => rfl
  | cons c cs ih =>
    rw [read, afterLine]
    by_cases last : c = '\n'
    · subst last
      rfl
    · rw [if_neg last, ih, afterLine, List.dropWhile_cons_of_pos (by simpa using last)]

/-- A text in which no word begins. -/
inductive Idle : List Char → Prop where
  | nil : Idle []
  | separator {c : Char} {cs : List Char} (separates : isSeparator c = true) (rest : Idle cs) :
      Idle (c :: cs)
  /-- the end of a line behind a backslash -/
  | continued {cs : List Char} (rest : Idle cs) : Idle ('\\' :: '\n' :: cs)
  | comment {cs : List Char} (rest : Idle (afterLine cs)) : Idle ('#' :: cs)

theorem idle_of_isSeparator (all : ∀ c ∈ cs, isSeparator c = true) : Idle cs := by
  induction cs with
  | nil => exact .nil
  | cons c cs ih =>
    exact .separator (all c List.mem_cons_self) (ih fun d member =>
      all d (List.mem_cons_of_mem _ member))

/-- What is blank in an idle text separates words. -/
theorem Idle.isSeparator (idle : Idle cs) (blank : ∀ c ∈ cs, isBlank c = true) :
    ∀ c ∈ cs, Words.isSeparator c = true := by
  induction idle with
  | nil => exact List.forall_mem_nil _
  | separator separates _ ih =>
    exact List.forall_mem_cons.mpr ⟨separates, ih (List.forall_mem_cons.mp blank).2⟩
  | continued => exact absurd (blank _ List.mem_cons_self) (by decide)
  | comment => exact absurd (blank _ List.mem_cons_self) (by decide)

/-- A quotation or a backslash begins a word, but for a backslash at the end of a line. -/
theorem continued_of_opening
    (none : read (Place.opening c .betweenEscaped .word) word cs = some []) :
    ∃ rest, c = '\\' ∧ cs = '\n' :: rest ∧ read .between word rest = some [] := by
  unfold Place.opening at none
  split at none
  · exact absurd none (read_ne_nil rfl)
  · split at none
    · exact absurd none (read_ne_nil rfl)
    · split at none
      · next backslash =>
        cases cs with
        | nil => cases none
        | cons d rest =>
          rw [read] at none
          split at none
          · next last => exact ⟨rest, backslash, last ▸ rfl, none⟩
          · exact absurd none (read_ne_nil rfl)
      · exact absurd none (read_ne_nil rfl)

/-- Between words, no word is read exactly from an idle text. -/
theorem read_between_eq_nil_iff : read .between word cs = some [] ↔ Idle cs := by
  constructor
  · intro none
    -- a comment leaves less than what follows its mark, hence by the length
    induction length : cs.length using Nat.strongRecOn generalizing cs word with
    | ind _ ih =>
      subst length
      cases cs with
      | nil => exact .nil
      | cons c cs =>
        rw [read] at none
        split at none
        · next separates => exact .separator separates (ih _ (Nat.lt_succ_self _) none rfl)
        · split at none
          · next comment =>
            rw [read_comment] at none
            have shorter := Nat.lt_succ_of_le (afterLine_sublist cs).length_le
            exact comment ▸ .comment (ih _ shorter none rfl)
          · split at none
            · obtain ⟨rest, rfl, rfl, none⟩ := continued_of_opening none
              exact .continued (ih _ (by simp only [List.length_cons]; omega) none rfl)
            · exact absurd none (read_ne_nil rfl)
  · intro idle
    induction idle generalizing word with
    | nil => rfl
    | separator separates _ ih => rw [read, if_pos separates]; exact ih
    | continued _ ih => exact ih
    | comment _ ih => exact Eq.trans read_comment ih

/-- **A blank line can be read.** -/
theorem split?_isSome_of_blank {line : String} (blank : ∀ c ∈ line.toList, isBlank c = true) :
    (split? line).isSome = true :=
  read_isSome rfl fun c member => isSpecial_of_isBlank (blank c member)

/-- **A line has no words exactly if it consists of separators, continued ends of lines and
comments.** -/
theorem split?_eq_nil_iff {line : String} : split? line = some [] ↔ Idle line.toList :=
  read_between_eq_nil_iff

end Words

end BuildYard.Text
