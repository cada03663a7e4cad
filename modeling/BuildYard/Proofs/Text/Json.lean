import BuildYard.Json.Printer
import BuildYard.Json.Reader
import BuildYard.Proofs.Text.Digits
import Mathlib.Data.List.DropRight

/-!
# JSON that is written reads back

A text spells a value (`Json.Spells`) if it is what the grammar says, with
blanks wherever they may stand. Whatever spells a value without numbers is read
as that value (`Reader.reads`): a quoted text gives its characters one
after another, each from the escape or the character that it was written as
(`Reader.quoted_writeChar`), and the brackets are read with the fuel that the
length of the text provides.

Both layouts spell the value that they lay out (`Plain.spells_compact`,
`Plain.spells_pretty`), so both read back (`Plain.read_back`).
-/

set_option autoImplicit false

namespace BuildYard.Json

namespace Reader

/-! ## Blanks -/

/-- Only blanks. -/
def Gap (cs : List Char) : Prop :=
  ∀ c ∈ cs, isGap c = true

theorem Gap.nil : Gap [] :=
  List.forall_mem_nil _

theorem skipGap_append {gap : List Char} (blank : Gap gap) (cs : List Char) :
    skipGap (gap ++ cs) = skipGap cs :=
  List.dropWhile_append_of_pos blank

theorem skipGap_cons {c : Char} (mark : isGap c = false) (cs : List Char) :
    skipGap (c :: cs) = c :: cs :=
  List.dropWhile_cons_of_neg (by simp [mark])

/-! ## Texts -/

/-- Four digits are read as the number they were written for. -/
theorem unit_fixed {n : Nat} (small : n < 16 ^ 4) (rest : List Char) :
    unit (Text.fixed 16 4 n ++ rest) = .ok (n, rest) := by
  have read : Text.nat? 16 (Text.fixed 16 4 n) = some n := by
    rw [Text.nat?, Text.natFrom?_fixed (by decide) (by decide), Nat.mod_eq_of_lt small]
    rfl
  rw [unit.eq_def]
  simp only [Text.fixed, List.nil_append, List.cons_append] at read ⊢
  rw [read]

section Quoted

variable {c : Char} (fuel : Nat) (read rest : List Char)

/-- An escape of one letter is read as its character. -/
theorem quoted_escape {e : Char} (escape : escape? e = some c) :
    quoted (fuel + 1) (some read) ('\\' :: e :: rest) = quoted fuel (some (c :: read)) rest := by
  -- it is not the escape in digits
  have short : e ≠ 'u' := by
    rintro rfl
    cases escape
  rw [quoted.eq_def]
  simp [escape]

/-- An escape in digits is read as the control character with that number. -/
theorem quoted_control (control : c.toNat < 0x20) :
    quoted (fuel + 1) (some read) ('\\' :: 'u' :: (Text.fixed 16 4 c.toNat ++ rest)) =
      quoted fuel (some (c :: read)) rest := by
  have high : isHigh c.toNat = false := by
    simp [isHigh]
    omega
  have low : isLow c.toNat = false := by
    simp [isLow]
    omega
  have small : c.toNat < 16 ^ 4 := by omega
  rw [quoted.eq_def]
  simp [unit_fixed small, high, low]

/-- Every other character is read as it is. -/
theorem quoted_plain (quote : c ≠ '\x22') (escape : c ≠ '\\') (control : ¬ c.toNat < 0x20) :
    quoted (fuel + 1) (some read) (c :: rest) = quoted fuel (some (c :: read)) rest := by
  rw [quoted.eq_def]
  simp only [if_neg quote, if_neg control, if_neg escape, Option.map_some]

/-- **A character is read from what it was written as.** -/
theorem quoted_writeChar (c : Char) :
    quoted (fuel + 1) (some read) (writeChar c ++ rest) = quoted fuel (some (c :: read)) rest := by
  unfold writeChar
  split
  case h_8 quote escape _ _ _ _ _ =>
    split
    · next control => exact quoted_control fuel read rest control
    · next control => exact quoted_plain fuel read rest quote escape control
  all_goals exact quoted_escape fuel read rest rfl

end Quoted

/-- **A text is read from what it was written as.** -/
theorem quoted_writeText {cs : List Char} {fuel : Nat} (enough : cs.length < fuel)
    (read rest : List Char) :
    quoted fuel (some read) (cs.flatMap writeChar ++ '\x22' :: rest) =
      .ok (some (String.ofList (read.reverse ++ cs)), rest) := by
  induction cs generalizing fuel read with
  | nil =>
    obtain ⟨fuel, rfl⟩ := Nat.exists_eq_succ_of_ne_zero (Nat.ne_zero_of_lt enough)
    rw [quoted.eq_def]
    simp
  | cons c cs ih =>
    obtain ⟨fuel, rfl⟩ := Nat.exists_eq_succ_of_ne_zero (Nat.ne_zero_of_lt enough)
    rw [List.flatMap_cons, List.append_assoc, quoted_writeChar, ih (Nat.lt_of_succ_lt_succ enough)]
    rw [List.reverse_cons, List.append_assoc, List.singleton_append]

theorem length_le_flatMap_writeChar (cs : List Char) :
    cs.length ≤ (cs.flatMap writeChar).length := by
  induction cs with
  | nil => exact Nat.le_refl _
  | cons c cs ih =>
    have some : 0 < (writeChar c).length := by
      unfold writeChar
      repeat' split
      all_goals simp
    rw [List.flatMap_cons, List.length_append, List.length_cons]
    omega

/-- The rest of a text after its opening quote is read with the fuel that its length provides. -/
theorem quoted_rest (s : String) (rest : List Char) :
    let written := s.toList.flatMap writeChar ++ '\x22' :: rest
    quoted (written.length + 1) (some []) written = .ok (some s, rest) := by
  intro written
  have enough : s.toList.length < written.length + 1 := by
    have := length_le_flatMap_writeChar s.toList
    simp only [written, List.length_append]
    omega
  rw [quoted_writeText enough, List.reverse_nil, List.nil_append, String.ofList_toList]

theorem writeText_append (s : String) (rest : List Char) :
    writeText s ++ rest = '\x22' :: (s.toList.flatMap writeChar ++ '\x22' :: rest) := by
  simp only [writeText, List.cons_append, List.append_assoc, List.nil_append]

/-- A name is read after the blanks in front of it. -/
theorem quotedText_name {gap : List Char} (blank : Gap gap) (name : String) (rest : List Char) :
    quotedText (skipGap (gap ++ (writeText name ++ rest))) = .ok (some name, rest) := by
  rw [skipGap_append blank, writeText_append, skipGap_cons (by decide)]
  exact quoted_rest name rest

end Reader

/-! ## Spelling -/

open Reader (Gap)

mutual

/-- A text spells a value: it is what the grammar says of a value without numbers, with blanks
wherever they may stand. -/
inductive Spells : Json → List Char → Prop where
  | null : Spells .null "null".toList
  | bool (b : Bool) : Spells (.bool b) (if b then "true" else "false").toList
  | text (s : String) : Spells (.text s) (writeText s)
  | noItems {gap : List Char} (blank : Gap gap) : Spells (.array []) ('[' :: (gap ++ [']']))
  | array {items : List Json} {cs : List Char} (spells : SpellsItems items cs) :
      Spells (.array items) ('[' :: cs)
  | noMembers {gap : List Char} (blank : Gap gap) :
      Spells (.object []) ('\x7b' :: (gap ++ ['\x7d']))
  | object {members : List (Option String × Json)} {cs : List Char}
      (spells : SpellsMembers members cs) : Spells (.object members) ('\x7b' :: cs)

/-- A text spells elements, up to the closing bracket. -/
inductive SpellsItems : List Json → List Char → Prop where
  | last {item : Json} {cs front back : List Char} (blank : Gap front) (spells : Spells item cs)
      (blank' : Gap back) : SpellsItems [item] (front ++ (cs ++ (back ++ [']'])))
  | cons {item : Json} {items : List Json} {cs front back more : List Char} (blank : Gap front)
      (spells : Spells item cs) (blank' : Gap back) (others : SpellsItems items more) :
      SpellsItems (item :: items) (front ++ (cs ++ (back ++ ',' :: more)))

/-- A text spells members, up to the closing brace. -/
inductive SpellsMembers : List (Option String × Json) → List Char → Prop where
  | last {name : String} {item : Json} {cs front before after back : List Char} (blank : Gap front)
      (blanks : Gap before ∧ Gap after) (spells : Spells item cs) (blank' : Gap back) :
      SpellsMembers [(some name, item)]
        (front ++ (writeText name ++ (before ++ ':' :: (after ++ (cs ++ (back ++ ['\x7d']))))))
  | cons {name : String} {item : Json} {members : List (Option String × Json)}
      {cs front before after back more : List Char} (blank : Gap front)
      (blanks : Gap before ∧ Gap after) (spells : Spells item cs) (blank' : Gap back)
      (others : SpellsMembers members more) :
      SpellsMembers ((some name, item) :: members)
        (front ++ (writeText name ++ (before ++ ':' :: (after ++ (cs ++ (back ++ ',' :: more))))))

end

/-- What spells a value begins with neither a blank nor a closing bracket. -/
theorem Spells.head {v : Json} {cs : List Char} (spells : Spells v cs) :
    ∃ c tail, cs = c :: tail ∧ Reader.isGap c = false ∧ c ≠ ']' := by
  cases spells with
  | null => exact ⟨_, _, rfl, by decide, by decide⟩
  | bool b => cases b <;> exact ⟨_, _, rfl, by decide, by decide⟩
  | text s => exact ⟨_, _, rfl, by decide, by decide⟩
  | noItems blank => exact ⟨_, _, rfl, by decide, by decide⟩
  | array spells => exact ⟨_, _, rfl, by decide, by decide⟩
  | noMembers blank => exact ⟨_, _, rfl, by decide, by decide⟩
  | object spells => exact ⟨_, _, rfl, by decide, by decide⟩

/-- Elements do not begin with the closing bracket. -/
theorem SpellsItems.head {items : List Json} {cs : List Char} (spells : SpellsItems items cs)
    (rest : List Char) : ∃ c tail, Reader.skipGap (cs ++ rest) = c :: tail ∧ c ≠ ']' := by
  have front {item : Json} {inside gap : List Char} (blank : Gap gap) (spells : Spells item inside)
      (more : List Char) : ∃ c tail, Reader.skipGap (gap ++ (inside ++ more)) = c :: tail ∧ c ≠ ']' := by
    obtain ⟨c, tail, rfl, mark, unlike⟩ := spells.head
    exact ⟨c, tail ++ more, (Reader.skipGap_append blank _).trans (Reader.skipGap_cons mark _), unlike⟩
  cases spells with
  | last blank spells _ =>
    rw [List.append_assoc, List.append_assoc]
    exact front blank spells _
  | cons blank spells _ _ =>
    rw [List.append_assoc, List.append_assoc]
    exact front blank spells _

/-- Members begin with the quote of a name. -/
theorem SpellsMembers.head {found : List (Option String × Json)} {cs : List Char}
    (spells : SpellsMembers found cs) (rest : List Char) :
    ∃ tail, Reader.skipGap (cs ++ rest) = '\x22' :: tail := by
  cases spells with
  | last blank _ _ _ =>
    rw [List.append_assoc, Reader.skipGap_append blank, List.append_assoc, Reader.writeText_append]
    exact ⟨_, Reader.skipGap_cons (by decide) _⟩
  | cons blank _ _ _ _ =>
    rw [List.append_assoc, Reader.skipGap_append blank, List.append_assoc, Reader.writeText_append]
    exact ⟨_, Reader.skipGap_cons (by decide) _⟩

namespace Reader

/-! ## Reading what is spelled -/

theorem value_gap {gap : List Char} (blank : Gap gap) (fuel : Nat) (cs : List Char) :
    value fuel (gap ++ cs) = value fuel cs := by
  cases fuel with
  | zero => rw [value, value]
  | succ fuel => rw [value, value, skipGap_append blank]

theorem skipGap_skipGap (cs : List Char) : skipGap (skipGap cs) = skipGap cs :=
  List.dropWhile_idempotent isGap cs

theorem value_skipGap (fuel : Nat) (cs : List Char) : value fuel (skipGap cs) = value fuel cs := by
  cases fuel with
  | zero => rw [value, value]
  | succ fuel => rw [value, value, skipGap_skipGap]

theorem elements_skipGap (fuel : Nat) (read : List Json) (cs : List Char) :
    elements fuel read (skipGap cs) = elements fuel read cs := by
  cases fuel with
  | zero => rw [elements, elements]
  | succ fuel => rw [elements, elements, value_skipGap]

theorem members_skipGap (fuel : Nat) (read : List (Option String × Json)) (cs : List Char) :
    members fuel read (skipGap cs) = members fuel read cs := by
  cases fuel with
  | zero => rw [members, members]
  | succ fuel => rw [members, members, skipGap_skipGap]

theorem after_append (word rest : List Char) : after word (word ++ rest) = .ok rest := by
  induction word with
  | nil => rfl
  | cons c word ih => rw [List.cons_append, after, if_pos rfl, ih]

/-- With this fuel everything is read that is spelled in no more characters. -/
structure Reads (fuel : Nat) : Prop where
  value : ∀ {v : Json} {cs : List Char}, Spells v cs → cs.length ≤ fuel →
    ∀ rest, Reader.value fuel (cs ++ rest) = .ok (v, rest)
  items : ∀ {items : List Json} {cs : List Char}, SpellsItems items cs → cs.length ≤ fuel →
    ∀ read rest, elements fuel read (cs ++ rest) = .ok (.array (read.reverse ++ items), rest)
  members : ∀ {found : List (Option String × Json)} {cs : List Char}, SpellsMembers found cs →
    cs.length ≤ fuel →
    ∀ read rest, members fuel read (cs ++ rest) = .ok (.object (read.reverse ++ found), rest)

section Step

variable {fuel : Nat}

/-- The elements of an array are read after its opening bracket. -/
theorem value_array {items : List Json} {cs : List Char} (spells : SpellsItems items cs)
    (rest : List Char) : value (fuel + 1) ('[' :: cs ++ rest) = elements fuel [] (cs ++ rest) := by
  obtain ⟨c, tail, same, unlike⟩ := spells.head rest
  rw [value, List.cons_append, skipGap_cons (by decide), ← elements_skipGap]
  simp only [same]
  split
  · next close => exact absurd (List.cons.inj close).1 unlike
  · rfl

/-- The members of an object are read after its opening brace. -/
theorem value_object {found : List (Option String × Json)} {cs : List Char}
    (spells : SpellsMembers found cs) (rest : List Char) :
    value (fuel + 1) ('\x7b' :: cs ++ rest) = members fuel [] (cs ++ rest) := by
  obtain ⟨tail, same⟩ := spells.head rest
  rw [value, List.cons_append, skipGap_cons (by decide), ← members_skipGap]
  simp only [same]
  rfl

theorem value_of_spells (reads : Reads fuel) {v : Json} {cs : List Char} (spells : Spells v cs)
    (enough : cs.length ≤ fuel + 1) (rest : List Char) :
    value (fuel + 1) (cs ++ rest) = .ok (v, rest) := by
  cases spells with
  | null =>
    rw [value]
    change Except.map _ (after ['u', 'l', 'l'] (['u', 'l', 'l'] ++ rest)) = _
    rw [after_append]
    rfl
  | bool b =>
    rw [value]
    cases b with
    | true =>
      change Except.map _ (after ['r', 'u', 'e'] (['r', 'u', 'e'] ++ rest)) = _
      rw [after_append]
      rfl
    | false =>
      change Except.map _ (after ['a', 'l', 's', 'e'] (['a', 'l', 's', 'e'] ++ rest)) = _
      rw [after_append]
      rfl
  | text s =>
    rw [writeText_append, value, skipGap_cons (by decide)]
    simp only [quoted_rest]
    rfl
  | noItems blank =>
    rw [value, List.cons_append, skipGap_cons (by decide), List.append_assoc]
    simp only [skipGap_append blank]
    rfl
  | noMembers blank =>
    rw [value, List.cons_append, skipGap_cons (by decide), List.append_assoc]
    simp only [skipGap_append blank]
    rfl
  | array spells =>
    rw [value_array spells, reads.items spells (Nat.le_of_succ_le_succ enough)]
    rfl
  | object spells =>
    rw [value_object spells, reads.members spells (Nat.le_of_succ_le_succ enough)]
    rfl

theorem elements_of_spells (reads : Reads fuel) {items : List Json} {cs : List Char}
    (spells : SpellsItems items cs) (enough : cs.length ≤ fuel + 1) (read : List Json)
    (rest : List Char) :
    elements (fuel + 1) read (cs ++ rest) = .ok (.array (read.reverse ++ items), rest) := by
  rw [elements]
  cases spells with
  | last blank spells blank' =>
    simp only [List.length_append, List.length_cons] at enough
    simp only [List.append_assoc, value_gap blank, reads.value spells (by omega),
      skipGap_append blank', List.cons_append, skipGap_cons (show isGap ']' = false from rfl),
      List.reverse_cons, List.nil_append]
  | cons blank spells blank' others =>
    simp only [List.length_append, List.length_cons] at enough
    simp only [List.append_assoc, value_gap blank, reads.value spells (by omega),
      skipGap_append blank', List.cons_append, skipGap_cons (show isGap ',' = false from rfl)]
    rw [reads.items others (by omega), List.reverse_cons, List.append_assoc, List.singleton_append]

theorem members_of_spells (reads : Reads fuel) {found : List (Option String × Json)}
    {cs : List Char} (spells : SpellsMembers found cs) (enough : cs.length ≤ fuel + 1)
    (read : List (Option String × Json)) (rest : List Char) :
    members (fuel + 1) read (cs ++ rest) = .ok (.object (read.reverse ++ found), rest) := by
  rw [members]
  cases spells with
  | last blank blanks spells blank' =>
    simp only [List.length_append, List.length_cons] at enough
    simp only [List.append_assoc, quotedText_name blank, skipGap_append blanks.1, List.cons_append,
      skipGap_cons (show isGap ':' = false from rfl), value_gap blanks.2,
      reads.value spells (by omega), skipGap_append blank',
      skipGap_cons (show isGap '\x7d' = false from rfl), List.reverse_cons, List.nil_append]
  | cons blank blanks spells blank' others =>
    simp only [List.length_append, List.length_cons] at enough
    simp only [List.append_assoc, quotedText_name blank, skipGap_append blanks.1, List.cons_append,
      skipGap_cons (show isGap ':' = false from rfl), value_gap blanks.2,
      reads.value spells (by omega), skipGap_append blank',
      skipGap_cons (show isGap ',' = false from rfl)]
    rw [reads.members others (by omega), List.reverse_cons, List.append_assoc,
      List.singleton_append]

end Step

/-- **With fuel for every character everything is read that is spelled.** -/
theorem reads (fuel : Nat) : Reads fuel := by
  induction fuel with
  | zero =>
    constructor
    · intro v cs spells enough
      obtain ⟨c, tail, rfl, _⟩ := spells.head
      cases enough
    · intro items cs spells enough
      cases spells <;> simp at enough
    · intro found cs spells enough
      cases spells <;> simp at enough
  | succ fuel ih =>
    constructor
    · exact value_of_spells ih
    · exact elements_of_spells ih
    · exact members_of_spells ih

end Reader

/-- **A text that spells a value is read as that value.** -/
theorem read?_of_spells {v : Json} {cs : List Char} (spells : Spells v cs) :
    read? (String.ofList cs) = some v := by
  have enough : cs.length ≤ 2 * cs.length + 2 := by omega
  have found := (Reader.reads _).value spells enough []
  rw [List.append_nil] at found
  simp only [read?, read, readFirst, String.toList_ofList, found]
  rfl

/-! ## Both layouts -/

/-- A value without numbers in which every text and every name is one. -/
inductive Plain : Json → Prop where
  | null : Plain .null
  | bool (b : Bool) : Plain (.bool b)
  | text (s : String) : Plain (.text s)
  | array {items : List Json} (each : ∀ item ∈ items, Plain item) : Plain (.array items)
  | object {members : List (Option String × Json)}
      (named : ∀ member ∈ members, ∃ name, member.1 = some name)
      (each : ∀ member ∈ members, Plain member.2) : Plain (.object members)

theorem commaSeparated_cons (piece : List Char) {rest : List (List Char)} (some : rest ≠ []) :
    commaSeparated (piece :: rest) = piece ++ ',' :: commaSeparated rest := by
  cases rest with
  | nil => exact absurd rfl some
  | cons next rest => rfl

section Laid

variable {write : Json → List Char} {front after back : List Char}

/-- Elements that are laid out with the same blanks spell an array. -/
theorem SpellsItems.of_laid (blank : Gap front) (blank' : Gap back) {items : List Json}
    (inside : items ≠ []) (each : ∀ item ∈ items, Spells item (write item)) :
    SpellsItems items
      (commaSeparated (items.map fun item => front ++ write item) ++ (back ++ [']'])) := by
  induction items with
  | nil => exact absurd rfl inside
  | cons item items ih =>
    obtain ⟨first, others⟩ := List.forall_mem_cons.mp each
    by_cases last : items = []
    · subst last
      rw [List.map_singleton, commaSeparated, List.append_assoc]
      exact .last blank first blank'
    · rw [List.map_cons, commaSeparated_cons _ (List.map_eq_nil_iff.not.mpr last),
        List.append_assoc, List.append_assoc]
      exact .cons blank first .nil (ih last others)

/-- Members that are laid out with the same blanks spell an object. -/
theorem SpellsMembers.of_laid (blank : Gap front) (blanks : Gap after) (blank' : Gap back)
    {members : List (Option String × Json)} (inside : members ≠ [])
    (named : ∀ member ∈ members, ∃ name, member.1 = some name)
    (each : ∀ member ∈ members, Spells member.2 (write member.2)) :
    SpellsMembers members
      (commaSeparated (members.map fun member =>
          front ++ (writeName member.1 ++ ':' :: (after ++ write member.2))) ++
        (back ++ ['\x7d'])) := by
  induction members with
  | nil => exact absurd rfl inside
  | cons member members ih =>
    obtain ⟨first, others⟩ := List.forall_mem_cons.mp each
    obtain ⟨⟨name, given⟩, names⟩ := List.forall_mem_cons.mp named
    obtain ⟨_, item⟩ := member
    obtain rfl : _ = some name := given
    by_cases last : members = []
    · subst last
      simp only [List.map_singleton, commaSeparated, List.append_assoc, List.cons_append]
      exact .last blank ⟨.nil, blanks⟩ first blank'
    · rw [List.map_cons, commaSeparated_cons _ (List.map_eq_nil_iff.not.mpr last)]
      simp only [List.append_assoc, List.cons_append]
      exact .cons blank ⟨.nil, blanks⟩ first .nil (ih last names others)

end Laid

theorem compactItems_eq (items : List Json) : compactItems items = items.map writeCompact := by
  induction items with
  | nil => rfl
  | cons item items ih => rw [compactItems, ih, List.map_cons]

theorem prettyItems_eq (depth : Nat) (items : List Json) :
    prettyItems depth items = items.map (writePretty depth) := by
  induction items with
  | nil => rfl
  | cons item items ih => rw [prettyItems, ih, List.map_cons]

theorem compactMembers_eq (members : List (Option String × Json)) :
    compactMembers members =
      members.map fun member => writeName member.1 ++ ':' :: writeCompact member.2 := by
  induction members with
  | nil => rfl
  | cons member members ih => rw [compactMembers, ih, List.map_cons]

theorem prettyMembers_eq (depth : Nat) (members : List (Option String × Json)) :
    prettyMembers depth members =
      members.map fun member => writeName member.1 ++ ':' :: ' ' :: writePretty depth member.2 := by
  induction members with
  | nil => rfl
  | cons member members ih => rw [prettyMembers, ih, List.map_cons]

/-- **A value on one line is spelled.** -/
theorem Plain.spells_compact {v : Json} (plain : Plain v) : Spells v v.writeCompact := by
  induction plain with
  | null => exact .null
  | bool b => exact .bool b
  | text s => exact .text s
  | @array items _ each =>
    rw [writeCompact, compactItems_eq]
    by_cases none : items = []
    · subst none
      exact .noItems .nil
    · exact .array (.of_laid .nil .nil none each)
  | @object members named _ each =>
    rw [writeCompact, compactMembers_eq]
    by_cases none : members = []
    · subst none
      exact .noMembers .nil
    · exact .object (.of_laid .nil .nil .nil none named each)

theorem gap_indent (depth : Nat) : Gap (indent depth) := by
  refine List.forall_mem_cons.mpr ⟨rfl, fun c member => ?_⟩
  rw [(List.mem_replicate.mp member).2]
  rfl

/-- **A value with one element a line is spelled.** -/
theorem Plain.spells_pretty {v : Json} (plain : Plain v) (depth : Nat) :
    Spells v (v.writePretty depth) := by
  induction plain generalizing depth with
  | null => exact .null
  | bool b => exact .bool b
  | text s => exact .text s
  | @array items _ each =>
    rw [writePretty, prettyItems_eq, block]
    by_cases none : items = []
    · subst none
      exact .noItems .nil
    · have inside : (items.map (writePretty (depth + 1))).isEmpty ≠ true := by
        simpa using none
      rw [if_neg inside, List.map_map, List.append_assoc]
      exact .array (.of_laid (gap_indent _) (gap_indent _) none fun item member =>
        each item member (depth + 1))
  | @object members named _ each =>
    rw [writePretty, prettyMembers_eq, block]
    by_cases none : members = []
    · subst none
      exact .noMembers .nil
    · rw [if_neg (by simpa using none), List.map_map, List.append_assoc]
      have blank : Gap [' '] := List.forall_mem_singleton.mpr rfl
      exact .object (.of_laid (gap_indent _) blank (gap_indent _) none named fun member inside =>
        each member inside (depth + 1))

/-- **Either layout of a value reads back as the value.** -/
theorem Plain.read_back {v : Json} (plain : Plain v) :
    read? v.compact = some v ∧ read? v.pretty = some v :=
  ⟨read?_of_spells plain.spells_compact, read?_of_spells (plain.spells_pretty 0)⟩

end BuildYard.Json
