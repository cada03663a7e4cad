import BuildYard.Account
import BuildYard.Proofs.Text.Bytes
import BuildYard.Proofs.Text.Digits
import BuildYard.Proofs.Text.Paths
import Mathlib.Data.List.TakeWhile

/-!
# Files with a line for each account

A list of users or groups has a row for each, closed by a line feed, and the
fields of a row are told apart by colons. A line that is added to such a list goes
behind what is there, byte for byte (`prefix_appendLine`), and leaves every row as
it is (`rows_appendLine`), whether the last row was closed or not. So a line that
is one entry adds one entry and alters no other (`IsEntry.appended`).

The lines for the build account are such entries, with the numbers that the
settings give and a home at the workspace root, unless the workspace root itself
holds a colon or a line feed, or nothing but slashes (`account_iff_root_plain`);
the check of the settings lets all three pass.
-/

set_option autoImplicit false

namespace BuildYard

open Account

/-! ## Rows -/

/-- The rows of a file, without the line feeds that close them; the last row may be open. -/
def rows : Bytes → List Bytes
  | [] => []
  | b :: rest =>
    if b = lineFeed then [] :: rows rest
    else
      match rows rest with
      | [] => [[b]]
      | row :: more => (b :: row) :: more

/-- No row is open at the end. -/
def Closed (contents : Bytes) : Prop :=
  ∀ last, contents.getLast? = some last → last = lineFeed

/-- The line feed that closes the last row, if it is open. -/
def closing (contents : Bytes) : Bytes :=
  if contents.isEmpty || contents.getLast? == some lineFeed then [] else [lineFeed]

section Rows

variable {contents front back row : Bytes} {line : String}

theorem rows_ne_nil (some : contents ≠ []) : rows contents ≠ [] := by
  cases contents with
  | nil => exact absurd rfl some
  | cons b rest =>
    rw [rows]
    split
    · exact List.cons_ne_nil _ _
    · split <;> exact List.cons_ne_nil _ _

/-- **Behind closed rows stand further rows.** -/
theorem rows_append (closed : Closed front) : rows (front ++ back) = rows front ++ rows back := by
  induction front with
  | nil => rfl
  | cons b front ih =>
    cases front with
    | nil =>
      obtain rfl : b = lineFeed := closed b rfl
      rfl
    | cons next front =>
      have rest : Closed (next :: front) := fun last ends => closed last (by simpa using ends)
      rw [List.cons_append, rows, rows, ih rest]
      split
      · rfl
      · cases inside : rows (next :: front) with
        | nil => exact absurd inside (rows_ne_nil (List.cons_ne_nil _ _))
        | cons row more => rfl

/-- A line feed is the end of a row. -/
theorem rows_row (plain : lineFeed ∉ row) : rows (row ++ [lineFeed]) = [row] := by
  induction row with
  | nil => rfl
  | cons b row ih =>
    obtain ⟨other, rest⟩ := not_or.mp (mt List.mem_cons.mpr plain)
    rw [List.cons_append, rows, if_neg (Ne.symm other), ih rest]

/-- Closing the last row leaves it as it is. -/
theorem rows_closing (contents : Bytes) : rows (contents ++ closing contents) = rows contents := by
  induction contents with
  | nil => rfl
  | cons b rest ih =>
    cases rest with
    | nil =>
      by_cases ends : b = lineFeed
      · subst ends
        rfl
      · simp [closing, rows, ends]
    | cons next rest =>
      have same : closing (b :: next :: rest) = closing (next :: rest) := by simp [closing]
      rw [same, List.cons_append, rows, rows, ih]

theorem closed_closing (contents : Bytes) : Closed (contents ++ closing contents) := by
  intro last ends
  rw [closing] at ends
  split at ends
  · next closed =>
    rw [List.append_nil] at ends
    rcases Bool.or_eq_true _ _ |>.mp closed with empty | closed
    · rw [List.isEmpty_iff.mp empty] at ends
      cases ends
    · rw [beq_iff_eq.mp closed] at ends
      exact (Option.some.inj ends).symm
  · rw [List.getLast?_concat] at ends
    exact (Option.some.inj ends).symm

/-- A line goes behind the rows that are there, and is closed. -/
theorem appendLine_eq (contents : Bytes) (line : String) :
    ∃ close, appendLine contents line =
      contents ++ closing contents ++ (Bytes.ofString line ++ close) ∧
      (Bytes.ofString line ++ close).getLast? = some lineFeed ∧
      ((Bytes.ofString line).getLast? = some lineFeed → close = []) := by
  have closed : (if contents.isEmpty || contents.getLast? == some lineFeed then contents
      else contents ++ [lineFeed]) = contents ++ closing contents := by
    rw [closing]
    split
    · exact (List.append_nil _).symm
    · rfl
  rw [appendLine, closed]
  by_cases ends : (Bytes.ofString line).getLast? = some lineFeed
  · refine ⟨[], ?_, ?_, fun _ => rfl⟩
    · rw [if_pos (beq_iff_eq.mpr ends), List.append_nil]
    · rw [List.append_nil, ends]
  · refine ⟨[lineFeed], ?_, List.getLast?_concat, fun closes => absurd closes ends⟩
    rw [if_neg (mt beq_iff_eq.mp ends), List.append_assoc _ (Bytes.ofString line)]

/-- **What was there stays in front.** -/
theorem prefix_appendLine (contents : Bytes) (line : String) :
    contents <+: appendLine contents line := by
  obtain ⟨close, same, -⟩ := appendLine_eq contents line
  rw [same, List.append_assoc]
  exact List.prefix_append _ _

/-- **The last row is closed.** -/
theorem getLast?_appendLine (contents : Bytes) (line : String) :
    (appendLine contents line).getLast? = some lineFeed := by
  obtain ⟨close, same, ends, -⟩ := appendLine_eq contents line
  rw [same, List.getLast?_append, ends]
  rfl

/-- A text that ends with a line feed is closed. -/
theorem getLast?_line (line : String) :
    (Bytes.ofString (line ++ "\n")).getLast? = some lineFeed := by
  rw [Bytes.ofString_append]
  exact List.getLast?_concat

/-- A line is one row. -/
theorem rows_line (plain : '\n' ∉ line.toList) :
    rows (Bytes.ofString (line ++ "\n")) = [Bytes.ofString line] := by
  rw [Bytes.ofString_append]
  exact rows_row fun feed => plain (Bytes.low_mem_ofString (by decide) feed)

/-- **A line adds its rows and leaves all others as they are.** -/
theorem rows_appendLine (ends : (Bytes.ofString line).getLast? = some lineFeed) :
    rows (appendLine contents line) = rows contents ++ rows (Bytes.ofString line) := by
  obtain ⟨close, same, -, closes⟩ := appendLine_eq contents line
  rw [same, closes ends, List.append_nil, rows_append (closed_closing contents), rows_closing]

end Rows

namespace Account

variable (agent : AgentSettings)

/-- The line for the list of groups without the line feed that closes it. -/
def groupLine : String :=
  userName ++ ":x:" ++ toString (ids agent).2 ++ ":"

/-- The line for the list of users without the line feed that closes it. -/
def passwdLine : String :=
  userName ++ ":x:" ++ toString (ids agent).1 ++ ":" ++ toString (ids agent).2 ++ "::" ++
    dropSlashes agent.workspaceRoot ++ ":/bin/false"

theorem groupEntry_line : groupEntry agent = groupLine agent ++ "\n" := by
  have closed : ":\n" = ":" ++ "\n" := rfl
  rw [groupEntry, groupLine, closed, ← String.append_assoc]

theorem passwdEntry_line : passwdEntry agent = passwdLine agent ++ "\n" := by
  have closed : ":/bin/false\n" = ":/bin/false" ++ "\n" := rfl
  rw [passwdEntry, passwdLine, closed, ← String.append_assoc]

end Account

/-! ## Entries -/

/-- The byte of a colon. -/
def colon : UInt8 := 58

/-- The entries of a list of accounts, each with its fields. -/
def entries (contents : Bytes) : List (List Bytes) :=
  (rows contents).map (List.splitOn colon)

/-- A text is one closed line with these fields between its colons. -/
structure IsEntry (entry : String) (fields : List String) : Prop where
  line : entry = Text.join ":" fields ++ "\n"
  noColon : ∀ field ∈ fields, ':' ∉ field.toList
  noFeed : ∀ field ∈ fields, '\n' ∉ field.toList

section Entries

variable {entry : String} {fields : List String} {c : Char}

theorem not_mem_join (other : c ≠ ':') (each : ∀ field ∈ fields, c ∉ field.toList) :
    c ∉ (Text.join ":" fields).toList := by
  induction fields with
  | nil => exact List.not_mem_nil
  | cons field fields ih =>
    obtain ⟨here, others⟩ := List.forall_mem_cons.mp each
    cases fields with
    | nil => exact here
    | cons next fields =>
      rw [Text.join, String.intercalate_cons_cons, String.toList_append, String.toList_append,
        List.mem_append, List.mem_append, not_or, not_or]
      exact ⟨⟨here, mt List.mem_singleton.mp other⟩, ih others⟩

theorem ofString_join (fields : List String) :
    Bytes.ofString (Text.join ":" fields) = [colon].intercalate (fields.map Bytes.ofString) := by
  induction fields with
  | nil => rfl
  | cons field fields ih =>
    cases fields with
    | nil => exact List.intercalate_singleton.symm
    | cons next fields =>
      rw [Text.join, String.intercalate_cons_cons, Bytes.ofString_append, Bytes.ofString_append,
        List.map_cons, List.map_cons, List.intercalate_cons_cons, ← List.map_cons, ← ih]
      rfl

namespace IsEntry

variable (isEntry : IsEntry entry fields)
include isEntry

theorem getLast? : (Bytes.ofString entry).getLast? = some lineFeed := by
  rw [isEntry.line, getLast?_line]

/-- An entry is one row. -/
theorem rows : rows (Bytes.ofString entry) = [Bytes.ofString (Text.join ":" fields)] := by
  rw [isEntry.line, rows_line (not_mem_join (by decide) isEntry.noFeed)]

theorem splitOn (some : fields ≠ []) :
    (Bytes.ofString (Text.join ":" fields)).splitOn colon = fields.map Bytes.ofString := by
  rw [ofString_join]
  refine List.splitOn_intercalate colon ?_ (mt List.map_eq_nil_iff.mp some)
  intro bytes member inside
  obtain ⟨field, listed, rfl⟩ := List.mem_map.mp member
  exact isEntry.noColon field listed (Bytes.low_mem_ofString (by decide) inside)

/-- **A line that is one entry adds one entry and alters no other.** -/
theorem appended (some : fields ≠ []) (contents : Bytes) :
    entries (appendLine contents entry) = entries contents ++ [fields.map Bytes.ofString] := by
  rw [entries, rows_appendLine isEntry.getLast?, isEntry.rows, List.map_append, List.map_singleton,
    isEntry.splitOn some]
  rfl

end IsEntry

end Entries

/-! ## Numbers -/

theorem Text.natBelow?_repr {n limit : Nat} (fits : n < limit) :
    Text.natBelow? 10 limit n.repr.toList = some n := by
  rw [Text.natBelow?.eq_def]
  split
  · next rest digits =>
    have sign : '+' ∈ Nat.toDigits 10 n := by
      rw [← Nat.toList_repr, digits]
      exact List.mem_cons_self
    exact absurd (Nat.isDigit_of_mem_toDigits (by decide) (by decide) sign) (by decide)
  · rw [Text.nat?_repr, Option.bind_some, if_pos fits]

/-- The decimal digits of a number hold no mark. -/
theorem not_mem_repr {c : Char} (noDigit : c.isDigit = false) (n : Nat) :
    c ∉ (toString n).toList := by
  intro member
  have digit : c ∈ Nat.toDigits 10 n := Nat.toList_repr ▸ member
  rw [Nat.isDigit_of_mem_toDigits (by decide) (by decide) digit] at noDigit
  cases noDigit

/-! ## Homes -/

section Homes

variable {root : String} {c : Char}

/-- A path is what is left without the slashes at its end, and these slashes. -/
theorem dropSlashes_append (root : String) :
    ∃ count, root = dropSlashes root ++ String.ofList (List.replicate count '/') := by
  let slashes := (root.toList.reverse.takeWhile (· == '/')).reverse
  have same : slashes = List.replicate slashes.length '/' := by
    refine List.eq_replicate_of_mem fun c member => ?_
    have marked : (c == '/') = true :=
      List.mem_takeWhile_imp (p := (· == '/')) (List.mem_reverse.mp member)
    exact beq_iff_eq.mp marked
  refine ⟨slashes.length, String.toList_injective ?_⟩
  calc
    root.toList = (root.toList.reverse.takeWhile (· == '/') ++
        root.toList.reverse.dropWhile (· == '/')).reverse := by
      rw [List.takeWhile_append_dropWhile, List.reverse_reverse]
    _ = (root.toList.reverse.dropWhile (· == '/')).reverse ++ slashes := List.reverse_append
    _ = (dropSlashes root ++ String.ofList (List.replicate slashes.length '/')).toList := by
      rw [← same, String.toList_append, dropSlashes, String.toList_ofList, String.toList_ofList,
        Text.dropLastWhile]

theorem mem_dropSlashes (other : c ≠ '/') :
    c ∈ (dropSlashes root).toList ↔ c ∈ root.toList := by
  obtain ⟨count, whole⟩ := dropSlashes_append root
  have chars := congrArg String.toList whole
  rw [String.toList_append, String.toList_ofList] at chars
  rw [chars, List.mem_append]
  refine ⟨.inl, fun inside => inside.resolve_right fun slash => ?_⟩
  exact other (List.eq_of_mem_replicate slash)

theorem pieces_append_slashes (front : String) (count : Nat) :
    Path.pieces (front ++ String.ofList (List.replicate count '/')) = Path.pieces front := by
  induction count with
  | zero => exact congrArg Path.pieces (String.append_empty)
  | succ count ih =>
    have last : String.ofList (List.replicate (count + 1) '/') =
        String.ofList (List.replicate count '/') ++ "/" := by
      apply String.toList_injective
      rw [String.toList_append, String.toList_ofList, String.toList_ofList, List.replicate_succ']
      rfl
    rw [last, ← String.append_assoc, Path.pieces_append_closing, ih]

/-- Something is left unless there is nothing but slashes. -/
theorem dropSlashes_ne_empty_iff : dropSlashes root ≠ "" ↔ ∃ c ∈ root.toList, c ≠ '/' := by
  constructor
  · intro filled
    by_contra none
    have all : ∀ c ∈ root.toList.reverse, (c == '/') = true := by
      intro c inside
      by_contra other
      exact none ⟨c, List.mem_reverse.mp inside, mt beq_iff_eq.mpr other⟩
    rw [dropSlashes, Text.dropLastWhile, List.dropWhile_eq_nil_iff.mpr all] at filled
    exact filled rfl
  · rintro ⟨c, inside, other⟩ empty
    have member := (mem_dropSlashes other).mpr inside
    rw [empty] at member
    cases member

/-- **The home is the workspace root** unless nothing is left of that. -/
theorem same_dropSlashes (absolute : Path.isAbsolute root = true) (filled : dropSlashes root ≠ "") :
    Path.isAbsolute (dropSlashes root) = true ∧ Path.same (dropSlashes root) root = true := by
  obtain ⟨count, whole⟩ := dropSlashes_append root
  have begins : Path.isAbsolute root = Path.isAbsolute (dropSlashes root) := by
    conv_lhs => rw [whole]
    exact Path.isAbsolute_append filled _
  have pieces : Path.pieces root = Path.pieces (dropSlashes root) := by
    conv_lhs => rw [whole]
    exact pieces_append_slashes _ _
  refine ⟨begins.symm.trans absolute, ?_⟩
  simp only [Path.same, Path.parts, pieces, begins, beq_self_eq_true, Bool.and_self]

end Homes

/-! ## The build account -/

/-- The line for the list of groups is one row. -/
theorem rows_groupEntry (agent : AgentSettings) :
    rows (Bytes.ofString (groupEntry agent)) = [Bytes.ofString (groupLine agent)] := by
  have number := not_mem_repr (c := '\n') (by decide) (ids agent).2
  rw [groupEntry_line]
  refine rows_line ?_
  simp only [groupLine, String.toList_append, List.mem_append, not_or]
  exact ⟨⟨⟨by decide, by decide⟩, number⟩, by decide⟩

/-- The line for the list of users is one row, unless the workspace root breaks it. -/
theorem rows_passwdEntry {agent : AgentSettings} (plain : '\n' ∉ agent.workspaceRoot.toList) :
    rows (Bytes.ofString (passwdEntry agent)) = [Bytes.ofString (passwdLine agent)] := by
  have uid := not_mem_repr (c := '\n') (by decide) (ids agent).1
  have gid := not_mem_repr (c := '\n') (by decide) (ids agent).2
  have home := mt (mem_dropSlashes (c := '\n') (by decide)).mp plain
  rw [passwdEntry_line]
  refine rows_line ?_
  simp only [passwdLine, String.toList_append, List.mem_append, not_or]
  exact ⟨⟨⟨⟨⟨⟨⟨by decide, by decide⟩, uid⟩, by decide⟩, gid⟩, by decide⟩, home⟩, by decide⟩

/-- The fields of the line for the list of groups. -/
def groupFields (gid : Nat) : List String :=
  [userName, "x", toString gid, ""]

/-- The fields of the line for the list of users. -/
def passwdFields (uid gid : Nat) (home : String) : List String :=
  [userName, "x", toString uid, toString gid, "", home, "/bin/false"]

/-- **The lines for the build account are those of one account**, with the numbers that the
settings give and with a home at the workspace root. -/
structure IsAccount (agent : AgentSettings) (uid gid : Nat) (home : String) : Prop where
  numbers : agent.uidGid? = some (uid, gid)
  /-- the numbers as they are written are read as these numbers -/
  uidRead : Text.natBelow? 10 UInt32.size (toString uid).toList = some uid
  gidRead : Text.natBelow? 10 UInt32.size (toString gid).toList = some gid
  group : IsEntry (groupEntry agent) (groupFields gid)
  user : IsEntry (passwdEntry agent) (passwdFields uid gid home)
  absolute : Path.isAbsolute home = true
  home : Path.same home agent.workspaceRoot = true

section Account

variable {agent : AgentSettings} {uid gid : Nat} {home : String}

theorem groupEntry_eq (numbers : agent.uidGid? = some (uid, gid)) :
    groupEntry agent = Text.join ":" (groupFields gid) ++ "\n" := by
  apply String.toList_injective
  simp [groupEntry, groupFields, Text.join, ids, numbers, String.intercalate_cons_cons]

theorem passwd_join (uid gid : Nat) (home : String) :
    Text.join ":" (passwdFields uid gid home) ++ "\n" =
      userName ++ ":x:" ++ toString uid ++ ":" ++ toString gid ++ "::" ++ home ++
        ":/bin/false\n" := by
  apply String.toList_injective
  simp [passwdFields, Text.join, String.intercalate_cons_cons]

theorem passwdEntry_eq (numbers : agent.uidGid? = some (uid, gid)) :
    passwdEntry agent = Text.join ":" (passwdFields uid gid (dropSlashes agent.workspaceRoot)) ++
      "\n" := by
  rw [passwd_join, passwdEntry, ids, numbers]
  rfl

/-- A mark that is no digit and stands in no word stands in no field. -/
theorem not_mem_groupFields {c : Char} (noDigit : c.isDigit = false)
    (noWord : ∀ word ∈ [userName, "x"], c ∉ word.toList) (gid : Nat) :
    ∀ field ∈ groupFields gid, c ∉ field.toList := by
  simp only [List.forall_mem_cons, groupFields] at noWord ⊢
  exact ⟨noWord.1, noWord.2.1, not_mem_repr noDigit gid, List.not_mem_nil, List.forall_mem_nil _⟩

/-- The same for the list of users, if the mark does not stand in the home. -/
theorem not_mem_passwdFields {c : Char} (noDigit : c.isDigit = false)
    (noWord : ∀ word ∈ [userName, "x", "/bin/false"], c ∉ word.toList) (uid gid : Nat)
    (noHome : c ∉ home.toList) : ∀ field ∈ passwdFields uid gid home, c ∉ field.toList := by
  simp only [List.forall_mem_cons, passwdFields] at noWord ⊢
  exact ⟨noWord.1, noWord.2.1, not_mem_repr noDigit uid, not_mem_repr noDigit gid,
    List.not_mem_nil, noHome, noWord.2.2.1, List.forall_mem_nil _⟩

theorem isEntry_group (numbers : agent.uidGid? = some (uid, gid)) :
    IsEntry (groupEntry agent) (groupFields gid) where
  line := groupEntry_eq numbers
  noColon := not_mem_groupFields (by decide) (by decide) gid
  noFeed := not_mem_groupFields (by decide) (by decide) gid

/-- The line for the list of users is an entry if what stands for its home has no mark. -/
theorem isEntry_passwd_iff (numbers : agent.uidGid? = some (uid, gid)) :
    IsEntry (passwdEntry agent) (passwdFields uid gid home) ↔
      home = dropSlashes agent.workspaceRoot ∧ ':' ∉ home.toList ∧ '\n' ∉ home.toList := by
  constructor
  · intro isEntry
    have inside : home ∈ passwdFields uid gid home := by simp [passwdFields]
    refine ⟨?_, isEntry.noColon _ inside, isEntry.noFeed _ inside⟩
    have line := isEntry.line
    rw [passwdEntry_eq numbers, passwd_join, passwd_join] at line
    have chars := congrArg String.toList line
    simp only [String.toList_append] at chars
    exact (String.toList_injective (List.append_cancel_left (List.append_cancel_right chars))).symm
  · rintro ⟨rfl, noColon, noFeed⟩
    exact ⟨passwdEntry_eq numbers, not_mem_passwdFields (by decide) (by decide) uid gid noColon,
      not_mem_passwdFields (by decide) (by decide) uid gid noFeed⟩

/-- The check of the settings looks at both ends of the workspace root and at the numbers. -/
theorem checked_of_validate {settings : Settings} (valid : settings.validate = .ok ()) :
    Path.isAbsolute settings.agent.workspaceRoot = true ∧
      settings.agent.workspaceRoot.endsWith "/" = true ∧
      ∃ uid gid, settings.agent.uidGid? = some (uid, gid) := by
  rw [Settings.validate] at valid
  split at valid
  · cases valid
  next proper =>
    split at valid
    · cases valid
    next numbered =>
      rw [Bool.not_eq_true, Bool.not_eq_false', Settings.rootIsProper, Bool.and_eq_true] at proper
      refine ⟨proper.1, proper.2, ?_⟩
      cases numbers : settings.agent.uidGid? with
      | none => exact absurd (congrArg Option.isNone numbers) numbered
      | some pair => exact ⟨pair.1, pair.2, rfl⟩

/-- Numbers that are read are below the limit. -/
theorem lt_of_natBelow? {digits : List Char} {limit n : Nat}
    (read : Text.natBelow? 10 limit digits = some n) : n < limit := by
  rw [Text.natBelow?.eq_def] at read
  obtain ⟨found, -, kept⟩ := Option.bind_eq_some_iff.mp read
  split at kept
  · next below =>
    obtain rfl := Option.some.inj kept
    exact below
  · cases kept

theorem ids_lt (numbers : agent.uidGid? = some (uid, gid)) :
    uid < UInt32.size ∧ gid < UInt32.size := by
  rw [AgentSettings.uidGid?] at numbers
  obtain ⟨⟨front, back⟩, -, numbers⟩ := Option.bind_eq_some_iff.mp numbers
  obtain ⟨first, readFirst, numbers⟩ := Option.bind_eq_some_iff.mp numbers
  obtain ⟨second, readSecond, numbers⟩ := Option.bind_eq_some_iff.mp numbers
  obtain ⟨rfl, rfl⟩ := Prod.mk.inj (Option.some.inj numbers)
  exact ⟨lt_of_natBelow? readFirst, lt_of_natBelow? readSecond⟩

/-- A workspace root of which the lines for the account can tell the home. -/
structure IsPlainRoot (root : String) : Prop where
  noColon : ':' ∉ root.toList
  noFeed : '\n' ∉ root.toList
  notOnlySlashes : ∃ c ∈ root.toList, c ≠ '/'

/-- **The lines for the build account are well formed exactly if the workspace root is plain**:
it holds no colon and no line feed, and something beside slashes. Settings that pass their check
give two numbers, however these are written, and the line for the list of groups is an entry with
the second. Both lines are those of one account if and only if the workspace root is plain, and
then each line, added to any list, adds one entry and alters no other. -/
theorem account_iff_root_plain {settings : Settings} (valid : settings.validate = .ok ()) :
    ∃ uid gid, settings.agent.uidGid? = some (uid, gid) ∧
      IsEntry (groupEntry settings.agent) (groupFields gid) ∧
      ((∃ home, IsAccount settings.agent uid gid home) ↔
        IsPlainRoot settings.agent.workspaceRoot) ∧
      ∀ home, IsAccount settings.agent uid gid home → ∀ contents,
        entries (appendLine contents (groupEntry settings.agent)) =
          entries contents ++ [(groupFields gid).map Bytes.ofString] ∧
        entries (appendLine contents (passwdEntry settings.agent)) =
          entries contents ++ [(passwdFields uid gid home).map Bytes.ofString] := by
  obtain ⟨absolute, -, uid, gid, numbers⟩ := checked_of_validate valid
  refine ⟨uid, gid, numbers, isEntry_group numbers, ⟨?_, ?_⟩, ?_⟩
  · rintro ⟨home, account⟩
    obtain ⟨rfl, noColon, noFeed⟩ := (isEntry_passwd_iff numbers).mp account.user
    refine ⟨mt (mem_dropSlashes (by decide)).mpr noColon,
      mt (mem_dropSlashes (by decide)).mpr noFeed, dropSlashes_ne_empty_iff.mp fun empty => ?_⟩
    have nowhere := account.absolute
    rw [empty] at nowhere
    exact absurd nowhere (by decide)
  · rintro ⟨noColon, noFeed, some⟩
    obtain ⟨uidFits, gidFits⟩ := ids_lt numbers
    obtain ⟨homeAbsolute, same⟩ := same_dropSlashes absolute (dropSlashes_ne_empty_iff.mpr some)
    have user : IsEntry (passwdEntry settings.agent)
        (passwdFields uid gid (dropSlashes settings.agent.workspaceRoot)) :=
      (isEntry_passwd_iff numbers).mpr ⟨rfl, mt (mem_dropSlashes (by decide)).mp noColon,
        mt (mem_dropSlashes (by decide)).mp noFeed⟩
    exact ⟨_, numbers, Text.natBelow?_repr uidFits, Text.natBelow?_repr gidFits,
      isEntry_group numbers, user, homeAbsolute, same⟩
  · intro home account contents
    exact ⟨account.group.appended (List.cons_ne_nil _ _) contents,
      account.user.appended (List.cons_ne_nil _ _) contents⟩

theorem account_iff_root_plain_default :
    ({} : Settings).validate = .ok () ∧ ∃ uid gid home, IsAccount {} uid gid home := by
  have valid : ({} : Settings).validate = .ok () := by decide +kernel
  obtain ⟨uid, gid, -, -, iff, -⟩ := account_iff_root_plain valid
  obtain ⟨home, account⟩ := iff.mpr ⟨by decide, by decide, 'h', by decide, by decide⟩
  exact ⟨valid, uid, gid, home, account⟩

/-- Settings with another workspace root. -/
def rootedAt (root : String) : Settings :=
  { agent := { workspaceRoot := root } }

/-- **The root of all is a workspace root without a home.** Its settings pass their check, and so
do those of a workspace root with a colon, of which the line has a field too many, and with a line
feed, which make two lines. -/
theorem account_of_bare_root :
    (rootedAt "/").validate = .ok () ∧
      passwdEntry (rootedAt "/").agent = "jenkins:x:10000:10000:::/bin/false\n" ∧
      (¬ ∃ uid gid home, IsAccount (rootedAt "/").agent uid gid home) ∧
    (rootedAt "/a:b/").validate = .ok () ∧
      (entries (Bytes.ofString (passwdEntry (rootedAt "/a:b/").agent))).map List.length = [8] ∧
    (rootedAt "/a\nb/").validate = .ok () ∧
      (rows (Bytes.ofString (passwdEntry (rootedAt "/a\nb/").agent))).length = 2 := by
  refine ⟨by decide +kernel, by decide +kernel, ?_, by decide +kernel, by decide +kernel,
    by decide +kernel, by decide +kernel⟩
  rintro ⟨uid, gid, home, account⟩
  obtain ⟨rfl, -⟩ := (isEntry_passwd_iff account.numbers).mp account.user
  have nowhere : Path.isAbsolute (dropSlashes (rootedAt "/").agent.workspaceRoot) = false := by
    decide +kernel
  rw [account.absolute] at nowhere
  cases nowhere

end Account

end BuildYard
