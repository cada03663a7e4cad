import BuildYard.Archive.Reader
import Mathlib.Data.List.TakeDrop

/-!
# Archives that are cut off

The reader is driven by fuel, which never runs out. What it comes to is said
without fuel by `Comes`: announcements are passed, and then there is a member,
or a sparse file behind its map; and by `FirstFile`: members are passed until
there is a regular file, which no sparse file is. The data of
a member are read as far as they are there, and nothing looks whether these are
all of them. So an archive that is cut off behind the header of its first regular
file is read like the whole, up to where it ends (`FirstFile.cut`), and the data
are as many as the header says exactly if the archive does not end among them
(`whole_file_iff_not_cut`).
-/

set_option autoImplicit false

namespace BuildYard.Archive

variable {announced : Option Nat} {met : Announced} {rest between after : Rest}
  {found other : Found} {place size fuel : Nat} {archive data : Bytes}

/-! ## One header -/

/-- The size that holds for the data of a member: the one written in its header, or else the one
announced for it. -/
def sizeOf (announced : Option Nat) (written : Nat) : Nat :=
  if written = 0 then announced.getD 0 else written

/-- The size that a block gives as the header of a member whose data begin at `place`; none if no
member begins there. -/
def sizeAt (announced : Option Nat) (place : Nat) (block : Bytes) : Except Fault (Option Nat) :=
  if block.isEmpty then .ok none
  else if block.length < blockSize then .error .shortBlock
  else if block.all (· == 0) then .ok none
  else
    match octal? (slice 148 8 block) with
    | none => .error .number
    | some sum =>
      if byteSum (block.take 148) + 8 * 32 + byteSum (block.drop 156) ≠ sum % UInt32.size then
        .error .checksum
      else
        match numeric? (slice 124 12 block) with
        | none => .error .number
        | some written =>
          let size := sizeOf announced written
          if UInt64.size ≤ size + (blockSize - 1) || UInt64.size ≤ place + roundUp size then
            .error .overflow
          else .ok (some size)

theorem sizeAt_eq_some {block : Bytes} (read : sizeAt announced place block = .ok (some size)) :
    blockSize ≤ block.length ∧
      ∃ written, numeric? (slice 124 12 block) = some written ∧ size = sizeOf announced written := by
  rw [sizeAt] at read
  split at read
  · cases read
  split at read
  · cases read
  next long =>
    split at read
    · cases read
    refine ⟨Nat.le_of_not_lt long, ?_⟩
    cases sum : octal? (slice 148 8 block) with
    | none => rw [sum] at read; cases read
    | some sum' =>
      simp only [sum] at read
      split at read
      · cases read
      cases number : numeric? (slice 124 12 block) with
      | none => rw [number] at read; cases read
      | some written =>
        simp only [number] at read
        split at read
        · cases read
        · exact ⟨written, rfl, (Option.some.inj (Except.ok.inj read)).symm⟩

namespace Rest

/-- The block in which the next header stands. -/
def block (rest : Rest) : Bytes :=
  (rest.bytes.drop rest.toSkip).take blockSize

/-- What is left from the data of the next member on, if these are `size` bytes. -/
def behind (rest : Rest) (size : Nat) : Rest :=
  { bytes := rest.bytes.drop (rest.toSkip + blockSize)
    place := rest.place + rest.toSkip + blockSize
    toSkip := roundUp size }

/-- The next member if its data are `size` bytes. -/
def member (rest : Rest) (size : Nat) : Found :=
  { header := rest.block, size, data := (rest.behind size).bytes.take size }

end Rest

/-- **A member is told by its header block and the place where it stands.** -/
theorem nextRaw_eq (announced : Option Nat) (rest : Rest) :
    nextRaw announced rest =
      if rest.bytes.length < rest.toSkip then .error .shortData
      else (sizeAt announced (rest.place + rest.toSkip + blockSize) rest.block).map
        (Option.map fun size => (rest.member size, rest.behind size)) := by
  have block : rest.block = (rest.bytes.drop rest.toSkip).take blockSize := rfl
  have behind (size : Nat) : rest.behind size =
      ⟨rest.bytes.drop (rest.toSkip + blockSize), rest.place + rest.toSkip + blockSize,
        roundUp size⟩ := rfl
  have held (written : Nat) :
      sizeOf announced written = if written = 0 then announced.getD 0 else written := rfl
  simp only [nextRaw, ← block, ← behind, ← held]
  rw [sizeAt]
  by_cases short : rest.bytes.length < rest.toSkip
  · rw [if_pos short, if_pos short]
  rw [if_neg short, if_neg short]
  by_cases empty : rest.block.isEmpty = true
  · rw [if_pos empty, if_pos empty]
    rfl
  rw [if_neg empty, if_neg empty]
  by_cases cutOff : rest.block.length < blockSize
  · rw [if_pos cutOff, if_pos cutOff]
    rfl
  rw [if_neg cutOff, if_neg cutOff]
  by_cases zeros : rest.block.all (· == 0) = true
  · rw [if_pos zeros, if_pos zeros]
    rfl
  rw [if_neg zeros, if_neg zeros]
  cases octal? (slice 148 8 rest.block) with
  | none => rfl
  | some sum =>
    dsimp only
    split
    · rfl
    cases numeric? (slice 124 12 rest.block) with
    | none => rfl
    | some written =>
      dsimp only
      split
      · rfl
      · rfl

theorem nextRaw_eq_some_iff : nextRaw announced rest = .ok (some (found, after)) ↔
    rest.toSkip ≤ rest.bytes.length ∧ ∃ size,
      sizeAt announced (rest.place + rest.toSkip + blockSize) rest.block = .ok (some size) ∧
        found = rest.member size ∧ after = rest.behind size := by
  rw [nextRaw_eq]
  by_cases short : rest.bytes.length < rest.toSkip
  · rw [if_pos short]
    constructor
    · intro failed
      cases failed
    · intro inside
      omega
  · rw [if_neg short]
    constructor
    · intro read
      refine ⟨Nat.le_of_not_lt short, ?_⟩
      cases sized : sizeAt announced (rest.place + rest.toSkip + blockSize) rest.block with
      | error fault => rw [sized] at read; cases read
      | ok size? =>
        cases size? with
        | none => rw [sized] at read; cases read
        | some size =>
          rw [sized] at read
          cases read
          exact ⟨size, rfl, rfl, rfl⟩
    · rintro ⟨-, size, sized, rfl, rfl⟩
      rw [sized]
      rfl

/-! ## What is passed -/

/-- From `rest` the reader goes on to `after`, at least over a header. -/
structure Passes (rest after : Rest) : Prop where
  header : rest.place + rest.toSkip + blockSize ≤ after.place
  bytes : after.bytes = rest.bytes.drop (after.place - rest.place)
  total : after.place + after.bytes.length = rest.place + rest.bytes.length

theorem Passes.trans (first : Passes rest between) (second : Passes between after) :
    Passes rest after where
  header := by
    have := first.header
    have := second.header
    omega
  bytes := by
    have one := first.header
    have two := second.header
    rw [second.bytes, first.bytes, List.drop_drop]
    congr 1
    omega
  total := second.total.trans first.total

/-- What the reader looks at behind `between` it can find from `rest`. -/
theorem Passes.slice_eq (first : Passes rest between) (second : Passes between after) :
    slice (after.place - blockSize - between.place) blockSize between.bytes =
      slice (after.place - blockSize - rest.place) blockSize rest.bytes := by
  have one := first.header
  have two := second.header
  have onward : between.place - rest.place + (after.place - blockSize - between.place) =
      after.place - blockSize - rest.place := by
    omega
  rw [slice, slice, first.bytes, List.drop_drop, onward]

/-- The reader passes the header of a member, and reads of its data what is there. -/
theorem passes_of_nextRaw (read : nextRaw announced rest = .ok (some (found, after))) :
    Passes rest after ∧ after.toSkip = roundUp found.size ∧
      found.data = after.bytes.take found.size := by
  obtain ⟨there, size, sized, rfl, rfl⟩ := nextRaw_eq_some_iff.mp read
  obtain ⟨long, -⟩ := sizeAt_eq_some sized
  rw [Rest.block, List.length_take, List.length_drop] at long
  refine ⟨⟨Nat.le_refl _, ?_, ?_⟩, rfl, rfl⟩
  · have passed : rest.place + rest.toSkip + blockSize - rest.place = rest.toSkip + blockSize := by
      omega
    simp only [Rest.behind, passed]
  · simp only [Rest.behind, List.length_drop]
    omega

/-! ## Maps of sparse files -/

/-- From `rest` the blocks that go on with a map, if there are `more`, lead to `after`, and their
parts from `covered` to `done`. -/
inductive Follows (stored : Nat) : Bool → Covered → Rest → Covered → Rest → Prop where
  | ends {covered : Covered} {rest : Rest} : Follows stored false covered rest covered rest
  | block {covered between done : Covered} {rest after : Rest}
      (whole : blockSize ≤ rest.bytes.length)
      (adds : covered.addAll stored (partFields 0 21 (rest.bytes.take blockSize)) = .ok between)
      (follows : Follows stored (goesOn 504 (rest.bytes.take blockSize)) between rest.pastBlock
        done after) :
      Follows stored true covered rest done after

/-- The map of a sparse file leads from `rest` to `after`: its parts end where the file does, and
all that is stored belongs to them. -/
structure Maps (found : Found) (rest after : Rest) : Prop where
  gnu : found.isGnu = true
  covers : ∃ covered done,
    Covered.addAll found.size { left := found.size } (partFields 386 4 found.header) =
      .ok covered ∧
    Follows found.size (goesOn 482 found.header) covered rest done after ∧
    octal? (slice 483 12 found.header) = some done.reached ∧ done.left = 0

/-- From `rest` the reader slides on to `after`, without regard to members. -/
structure Slides (rest after : Rest) : Prop where
  onward : rest.place ≤ after.place
  bytes : after.bytes = rest.bytes.drop (after.place - rest.place)
  total : after.place + after.bytes.length = rest.place + rest.bytes.length
  toSkip : after.toSkip = rest.toSkip

section Maps

variable {stored : Nat} {more : Bool} {covered done : Covered}

theorem Slides.pastBlock (whole : blockSize ≤ rest.bytes.length)
    (slides : Slides rest.pastBlock after) : Slides rest after where
  onward := Nat.le_trans (Nat.le_add_right _ _) slides.onward
  bytes := by
    have onward : rest.place + blockSize ≤ after.place := slides.onward
    have passed : blockSize + (after.place - (rest.place + blockSize)) =
        after.place - rest.place := by
      omega
    rw [slides.bytes, Rest.pastBlock, List.drop_drop, passed]
  total := by
    rw [slides.total]
    simp only [Rest.pastBlock, List.length_drop]
    omega
  toSkip := slides.toSkip

theorem Follows.slides (follows : Follows stored more covered rest done after) :
    Slides rest after := by
  induction follows with
  | ends => exact ⟨Nat.le_refl _, by rw [Nat.sub_self, List.drop_zero], rfl, rfl⟩
  | block whole _ _ ih => exact ih.pastBlock whole

/-- A header is passed together with the map behind it. -/
theorem Passes.slides (first : Passes rest between) (second : Slides between after) :
    Passes rest after where
  header := Nat.le_trans first.header second.onward
  bytes := by
    have one := first.header
    have two := second.onward
    rw [second.bytes, first.bytes, List.drop_drop]
    congr 1
    omega
  total := second.total.trans first.total

theorem Maps.slides (maps : Maps found rest after) : Slides rest after := by
  obtain ⟨covered, done, -, follows, -⟩ := maps.covers
  exact follows.slides

/-- What follows a map is read with fuel for as many steps as there are blocks. -/
theorem Follows.followMap_eq (follows : Follows stored more covered rest done after)
    (enough : after.place ≤ rest.place + blockSize * fuel) :
    followMap stored fuel more covered rest = .ok (done, after) := by
  induction follows generalizing fuel with
  | ends => cases fuel <;> rfl
  | @block covered between done rest after whole adds follows ih =>
    have onward : rest.place + blockSize ≤ after.place := follows.slides.onward
    have size : 0 < blockSize := by decide
    obtain ⟨less, rfl⟩ : ∃ less, fuel = less + 1 := by
      refine Nat.exists_eq_succ_of_ne_zero ?_
      rintro rfl
      omega
    have length : (rest.bytes.take blockSize).length = blockSize := by
      rw [List.length_take, Nat.min_eq_left whole]
    have some : (rest.bytes.take blockSize).isEmpty = false := by
      rw [List.isEmpty_eq_false_iff, ← List.length_pos_iff, length]
      exact size
    have fewer : after.place ≤ rest.pastBlock.place + blockSize * less := by
      rw [Nat.mul_succ] at enough
      simp only [Rest.pastBlock]
      omega
    simp only [followMap, some, length, Nat.lt_irrefl, adds, Bool.false_eq_true, if_false]
    exact ih fewer

theorem follows_of_followMap (read : followMap stored fuel more covered rest = .ok (done, after)) :
    Follows stored more covered rest done after := by
  induction fuel generalizing more covered rest with
  | zero =>
    cases more with
    | false => cases read; exact .ends
    | true => cases read
  | succ fuel ih =>
    cases more with
    | false => cases read; exact .ends
    | true =>
      rw [followMap] at read
      split at read
      · cases read
      split at read
      · cases read
      next long =>
        have whole : blockSize ≤ rest.bytes.length := by
          rw [List.length_take] at long
          omega
        cases adds : covered.addAll stored (partFields 0 21 (rest.bytes.take blockSize)) with
        | error fault => rw [adds] at read; cases read
        | ok between =>
          rw [adds] at read
          exact .block whole adds (ih read)

/-- **A map that is read leads to where the data begin**, whatever fuel is left. -/
theorem maps_of_readMap (read : readMap fuel found rest = .ok (other, after)) :
    Maps found rest after ∧ other = { found with data := after.bytes.take found.size } := by
  rw [readMap] at read
  split at read
  · cases read
  next gnu =>
    rw [Bool.not_eq_true', Bool.not_eq_false] at gnu
    cases adds : Covered.addAll found.size { left := found.size }
        (partFields 386 4 found.header) with
    | error fault => rw [adds] at read; cases read
    | ok covered =>
      simp only [adds] at read
      cases follows : followMap found.size fuel (goesOn 482 found.header) covered rest with
      | error fault => rw [follows] at read; cases read
      | ok led =>
        obtain ⟨done, behind⟩ := led
        simp only [follows] at read
        cases ends : octal? (slice 483 12 found.header) with
        | none => rw [ends] at read; cases read
        | some whole =>
          simp only [ends] at read
          split at read
          · cases read
          next reached =>
            split at read
            · cases read
            next all =>
              cases read
              refine ⟨⟨gnu, covered, done, adds, follows_of_followMap follows, ?_, ?_⟩, rfl⟩
              · rw [ends, not_not.mp reached]
              · exact Nat.eq_zero_of_not_pos all

theorem Maps.readMap_eq (maps : Maps found rest after)
    (enough : after.place ≤ rest.place + blockSize * fuel) :
    readMap fuel found rest =
      .ok ({ found with data := after.bytes.take found.size }, after) := by
  obtain ⟨covered, done, adds, follows, ends, all⟩ := maps.covers
  simp only [readMap, maps.gnu, adds, follows.followMap_eq enough, ends, all, Bool.not_true,
    Bool.false_eq_true, if_false, ne_eq, not_true_eq_false, Nat.lt_irrefl]

end Maps

/-! ## What is come to -/

theorem declared_of_nextRaw (read : nextRaw announced rest = .ok (some (found, after))) :
    ∃ written, numeric? (slice 124 12 found.header) = some written ∧
      (written ≠ 0 → found.size = written) := by
  obtain ⟨-, size, sized, rfl, rfl⟩ := nextRaw_eq_some_iff.mp read
  obtain ⟨-, written, number, held⟩ := sizeAt_eq_some sized
  exact ⟨written, number, fun filled => held.trans (if_neg filled)⟩

/-- From `rest` the reader comes to a member, with what was announced on the way; its data begin
what is left after it. -/
inductive Comes : Announced → Rest → Found → Rest → Prop where
  | member {met : Announced} {rest after : Rest} {found : Found}
      (read : nextRaw (met.fields.bind announcedSize?) rest = .ok (some (found, after)))
      (plain : met.add? found = none) (dense : found.isSparse = false) :
      Comes met rest { found with longName := met.name, longLink := met.link } after
  | sparse {met : Announced} {rest between after : Rest} {found : Found}
      (read : nextRaw (met.fields.bind announcedSize?) rest = .ok (some (found, between)))
      (plain : met.add? found = none) (sparse : found.isSparse = true)
      (maps : Maps found between after) :
      Comes met rest
        { found with
          data := after.bytes.take found.size, longName := met.name, longLink := met.link } after
  | announcement {met more : Announced} {rest between after : Rest} {found other : Found}
      (read : nextRaw (met.fields.bind announcedSize?) rest = .ok (some (other, between)))
      (adds : met.add? other = some (.ok more)) (comes : Comes more between found after) :
      Comes met rest found after

/-- From `rest` the reader comes to the first regular file. -/
inductive FirstFile : Rest → Found → Rest → Prop where
  | here {rest after : Rest} {found : Found} (comes : Comes {} rest found after)
      (file : found.isFile = true) : FirstFile rest found after
  | later {rest between after : Rest} {found other : Found} (comes : Comes {} rest other between)
      (noFile : other.isFile = false) (first : FirstFile between found after) :
      FirstFile rest found after

/-- What is known of a member wherever it is read. -/
structure Read (found : Found) (after : Rest) : Prop where
  toSkip : after.toSkip = roundUp found.size
  data : found.data = after.bytes.take found.size
  declared : ∃ written, numeric? (slice 124 12 found.header) = some written ∧
    (written ≠ 0 → found.size = written)

theorem Comes.passes (comes : Comes met rest found after) : Passes rest after := by
  induction comes with
  | member read => exact (passes_of_nextRaw read).1
  | sparse read _ _ maps => exact (passes_of_nextRaw read).1.slides maps.slides
  | announcement read _ _ ih => exact (passes_of_nextRaw read).1.trans ih

theorem Comes.read (comes : Comes met rest found after) : Read found after := by
  induction comes with
  | announcement _ _ _ ih => exact ih
  | member read =>
    obtain ⟨-, toSkip, data⟩ := passes_of_nextRaw read
    have declared := declared_of_nextRaw read
    exact ⟨toSkip, data, declared⟩
  | sparse read _ _ maps =>
    obtain ⟨-, toSkip, -⟩ := passes_of_nextRaw read
    have declared := declared_of_nextRaw read
    exact ⟨maps.slides.toSkip.trans toSkip, rfl, declared⟩

/-- The header of a member that is no sparse file stands in front of its data. -/
theorem Comes.header_eq (comes : Comes met rest found after) (dense : found.isSparse = false) :
    found.header = slice (after.place - blockSize - rest.place) blockSize rest.bytes := by
  induction comes with
  | sparse _ _ sparse => exact absurd (sparse.symm.trans dense) (by decide)
  | @member met rest after found read =>
    obtain ⟨-, size, -, rfl, rfl⟩ := nextRaw_eq_some_iff.mp read
    have inFront : (rest.behind size).place - blockSize - rest.place = rest.toSkip := by
      simp only [Rest.behind]
      omega
    rw [inFront]
    rfl
  | announcement read _ comes ih =>
    exact (ih dense).trans ((passes_of_nextRaw read).1.slice_eq comes.passes)

theorem Found.isSparse_of_isFile (file : found.isFile = true) : found.isSparse = false := by
  rw [isFile, Bool.or_eq_true, beq_iff_eq, beq_iff_eq] at file
  rw [isSparse]
  obtain kind | kind := file
  · rw [kind]
    decide
  · rw [kind]
    decide

theorem FirstFile.passes (first : FirstFile rest found after) : Passes rest after := by
  induction first with
  | here comes => exact comes.passes
  | later comes _ _ ih => exact comes.passes.trans ih

theorem FirstFile.header_eq (first : FirstFile rest found after) :
    found.header = slice (after.place - blockSize - rest.place) blockSize rest.bytes := by
  induction first with
  | here comes file => exact comes.header_eq (Found.isSparse_of_isFile file)
  | later comes _ first ih => exact ih.trans (comes.passes.slice_eq first.passes)

theorem FirstFile.read (first : FirstFile rest found after) : Read found after := by
  induction first with
  | here comes => exact comes.read
  | later _ _ _ ih => exact ih

/-! ## Without fuel -/

theorem comes_of_next? (read : next? fuel met rest = .ok (some (found, after))) :
    Comes met rest found after := by
  induction fuel generalizing met rest with
  | zero => cases read
  | succ fuel ih =>
    rw [next?] at read
    cases raw : nextRaw (met.fields.bind announcedSize?) rest with
    | error fault => rw [raw] at read; cases read
    | ok come =>
      rw [raw] at read
      cases come with
      | none =>
        dsimp only at read
        split at read <;> cases read
      | some come =>
        obtain ⟨first, next⟩ := come
        dsimp only at read
        cases adds : met.add? first with
        | none =>
          rw [adds] at read
          dsimp only at read
          split at read
          next sparse =>
            cases mapped : readMap fuel
                { first with longName := met.name, longLink := met.link } next with
            | error fault => rw [mapped] at read; cases read
            | ok unfolded =>
              rw [mapped] at read
              cases read
              obtain ⟨maps, rfl⟩ := maps_of_readMap mapped
              have unnamed : Maps first next after := ⟨maps.gnu, maps.covers⟩
              -- the names are put on after the member was read
              have comes := Comes.sparse raw adds sparse unnamed
              exact comes
          next dense =>
            cases read
            exact .member raw adds (Bool.eq_false_iff.mpr dense)
        | some added =>
          rw [adds] at read
          cases added with
          | error fault => cases read
          | ok more => exact .announcement raw adds (ih read)

/-- Each step passes a block, so that fuel for as many steps as there are blocks is enough. -/
theorem Passes.fueled (passes : Passes rest after)
    (enough : after.place ≤ rest.place + blockSize * fuel) : ∃ less, fuel = less + 1 := by
  have header := passes.header
  cases fuel with
  | zero =>
    simp only [blockSize] at header enough
    omega
  | succ less => exact ⟨less, rfl⟩

theorem Comes.next?_eq (comes : Comes met rest found after)
    (enough : after.place ≤ rest.place + blockSize * fuel) :
    next? fuel met rest = .ok (some (found, after)) := by
  induction comes generalizing fuel with
  | @member met rest after found read plain dense =>
    obtain ⟨less, rfl⟩ := (passes_of_nextRaw read).1.fueled enough
    simp only [next?, read, plain, dense, Bool.false_eq_true, if_false]
  | @sparse met rest between after found read plain sparse maps =>
    have passes := (passes_of_nextRaw read).1
    obtain ⟨less, rfl⟩ := (passes.slides maps.slides).fueled enough
    have header := passes.header
    have fewer : after.place ≤ between.place + blockSize * less := by
      rw [Nat.mul_succ] at enough
      omega
    have named : Maps { found with longName := met.name, longLink := met.link } between after :=
      ⟨maps.gnu, maps.covers⟩
    simp only [next?, read, plain, sparse, if_true, named.readMap_eq fewer, Except.map]
  | @announcement met more rest between after found other read adds comes ih =>
    have passes := (passes_of_nextRaw read).1
    obtain ⟨less, rfl⟩ := (passes.trans comes.passes).fueled enough
    have header := passes.header
    simp only [next?, read, adds]
    apply ih
    rw [Nat.mul_succ] at enough
    omega

/-- **The fuel never runs out**: what is read is what the first regular file holds. -/
theorem firstFileFrom_eq_ok_iff (enough : rest.bytes.length < blockSize * fuel) :
    firstFileFrom fuel rest = .ok data ↔
      ∃ found after, FirstFile rest found after ∧ found.data = data := by
  induction fuel generalizing rest with
  | zero => exact absurd enough (Nat.not_lt_zero _)
  | succ fuel ih =>
    have fewer {other : Found} {between : Rest} (comes : Comes {} rest other between) :
        between.bytes.length < blockSize * fuel := by
      have header := comes.passes.header
      have total := comes.passes.total
      rw [Nat.mul_succ] at enough
      omega
    rw [firstFileFrom]
    constructor
    · intro read
      cases next : next? (fuel + 1) {} rest with
      | error fault => rw [next] at read; cases read
      | ok come =>
        rw [next] at read
        cases come with
        | none => cases read
        | some come =>
          obtain ⟨found, between⟩ := come
          have comes := comes_of_next? next
          dsimp only at read
          by_cases file : found.isFile = true
          · rw [if_pos file] at read
            exact ⟨found, between, .here comes file, Except.ok.inj read⟩
          · rw [if_neg file] at read
            obtain ⟨found', after, first, same⟩ := (ih (fewer comes)).mp read
            exact ⟨found', after, .later comes (Bool.eq_false_iff.mpr file) first, same⟩
    · rintro ⟨found, after, first, rfl⟩
      have reads {other : Found} {between : Rest} (comes : Comes {} rest other between) :
          next? (fuel + 1) {} rest = .ok (some (other, between)) := by
        apply comes.next?_eq
        have total := comes.passes.total
        omega
      cases first with
      | here comes file => simp only [reads comes, if_pos file]
      | later comes noFile first =>
        simp only [reads comes, noFile, Bool.false_eq_true, if_false]
        exact (ih (fewer comes)).mpr ⟨found, after, first, rfl⟩

/-- **What is read of an archive is what its first regular file holds.** -/
theorem firstFile_eq_ok_iff : firstFile archive = .ok data ↔
    ∃ found after, FirstFile { bytes := archive } found after ∧ found.data = data := by
  apply firstFileFrom_eq_ok_iff
  simp only [blockCount, blockSize]
  omega

/-! ## Cuts -/

/-- What is left if the archive ends at its byte `place`. -/
def Rest.cut (place : Nat) (rest : Rest) : Rest :=
  { rest with bytes := rest.bytes.take (place - rest.place) }

/-- A member of whose data no more than `length` bytes are there. -/
def Found.cut (length : Nat) (found : Found) : Found :=
  { found with data := found.data.take length }

theorem Rest.block_cut (reaches : rest.place + rest.toSkip + blockSize ≤ place) :
    (rest.cut place).block = rest.block := by
  simp only [block, cut]
  rw [List.drop_take, List.take_take, Nat.min_eq_left (by omega)]

theorem Rest.behind_cut (size : Nat) (rest : Rest) :
    (rest.cut place).behind size = (rest.behind size).cut place := by
  have left : place - rest.place - (rest.toSkip + blockSize) =
      place - (rest.place + rest.toSkip + blockSize) := by
    omega
  simp only [behind, cut, List.drop_take, left]

theorem Rest.member_cut (reaches : rest.place + rest.toSkip + blockSize ≤ place) :
    (rest.cut place).member size =
      (rest.member size).cut (place - (rest.behind size).place) := by
  rw [member, block_cut reaches, behind_cut]
  simp only [cut, Found.cut, member]
  rw [List.take_take, List.take_take, Nat.min_comm]

/-- **A header that is there is read as before**, and of the data what is there. -/
theorem nextRaw_cut (read : nextRaw announced rest = .ok (some (found, after)))
    (reaches : after.place ≤ place) :
    nextRaw announced (rest.cut place) =
      .ok (some (found.cut (place - after.place), after.cut place)) := by
  have header := (passes_of_nextRaw read).1.header
  have total := (passes_of_nextRaw read).1.total
  obtain ⟨-, size, sized, rfl, rfl⟩ := nextRaw_eq_some_iff.mp read
  have inFront := Nat.le_trans header reaches
  refine nextRaw_eq_some_iff.mpr ⟨?_, size, ?_, (Rest.member_cut inFront).symm,
    (Rest.behind_cut size rest).symm⟩
  · simp only [Rest.cut, List.length_take]
    omega
  · rw [Rest.block_cut inFront]
    exact sized

/-- Data that are there stay as they are. -/
theorem Found.cut_of_le {length : Nat} (few : found.data.length ≤ length) :
    found.cut length = found := by
  rw [cut, List.take_of_length_le few]

theorem add?_cut {length : Nat} (plain : met.add? found = none) :
    met.add? (found.cut length) = none := by
  rw [Announced.add?] at plain ⊢
  have kind : (found.cut length).kind = found.kind := rfl
  have form : (found.cut length).isRecognized = found.isRecognized := rfl
  rw [kind, form]
  split at plain
  · next unknown => rw [if_pos unknown]
  next known =>
    rw [if_neg known]
    split at plain
    · cases plain
    next noName =>
      rw [if_neg noName]
      split at plain
      · cases plain
      next noLink =>
        rw [if_neg noLink]
        split at plain
        · cases plain
        next noFields => rw [if_neg noFields]

theorem le_roundUp (size : Nat) : size ≤ roundUp size := by
  simp only [roundUp, blockSize]
  omega

theorem Rest.take_cut (reaches : rest.place + blockSize ≤ place) :
    (rest.cut place).bytes.take blockSize = rest.bytes.take blockSize := by
  rw [cut, List.take_take, Nat.min_eq_left (by omega)]

theorem Rest.pastBlock_cut (rest : Rest) :
    (rest.cut place).pastBlock = rest.pastBlock.cut place := by
  have left : place - rest.place - blockSize = place - (rest.place + blockSize) := by omega
  simp only [pastBlock, cut, List.drop_take, left]

/-- A map is in front of the data, so that nothing of it is cut off either. -/
theorem Follows.cut {stored : Nat} {more : Bool} {covered done : Covered}
    (follows : Follows stored more covered rest done after) (reaches : after.place ≤ place) :
    Follows stored more covered (rest.cut place) done (after.cut place) := by
  induction follows with
  | ends => exact .ends
  | @block covered between done rest after whole adds follows ih =>
    have onward : rest.place + blockSize ≤ after.place := follows.slides.onward
    have same := Rest.take_cut (Nat.le_trans onward reaches)
    refine .block ?_ (same ▸ adds) ?_
    · rw [Rest.cut, List.length_take]
      omega
    · rw [same, Rest.pastBlock_cut]
      exact ih reaches

theorem Maps.cut {length : Nat} (maps : Maps found rest after) (reaches : after.place ≤ place) :
    Maps (found.cut length) (rest.cut place) (after.cut place) := by
  obtain ⟨covered, done, adds, follows, ends⟩ := maps.covers
  exact ⟨maps.gnu, covered, done, adds, follows.cut reaches, ends⟩

theorem Comes.cut (comes : Comes met rest found after) (reaches : after.place ≤ place) :
    Comes met (rest.cut place) (found.cut (place - after.place)) (after.cut place) := by
  induction comes with
  | member read plain dense => exact .member (nextRaw_cut read reaches) (add?_cut plain) dense
  | @sparse met rest between after found read plain sparse maps =>
    have again := nextRaw_cut read (Nat.le_trans maps.slides.onward reaches)
    have comes := Comes.sparse again (add?_cut plain) sparse (maps.cut reaches)
    have stored : (after.cut place).bytes.take found.size =
        (after.bytes.take found.size).take (place - after.place) := by
      rw [Rest.cut, List.take_take, List.take_take, Nat.min_comm]
    rw [Found.cut, stored] at comes
    exact comes
  | @announcement met more rest between after found other read adds comes ih =>
    -- what is announced stands in front of the next header, so that nothing of it is cut off
    obtain ⟨-, toSkip, data⟩ := passes_of_nextRaw read
    have header := comes.passes.header
    have few := le_roundUp other.size
    have kept : other.cut (place - between.place) = other := by
      apply Found.cut_of_le
      rw [data, List.length_take]
      omega
    have reached : between.place ≤ place := by omega
    have again := nextRaw_cut read reached
    rw [kept] at again
    exact .announcement again adds (ih reaches)

/-- **An archive that ends behind the header of its first regular file is read like the whole**,
up to where it ends. -/
theorem FirstFile.cut (first : FirstFile rest found after) (reaches : after.place ≤ place) :
    FirstFile (rest.cut place) (found.cut (place - after.place)) (after.cut place) := by
  induction first with
  | here comes file => exact .here (comes.cut reaches) file
  | later comes noFile first ih =>
    have header := first.passes.header
    exact .later (comes.cut (by omega)) noFile (ih reaches)

theorem firstFile_take (first : FirstFile { bytes := archive } found after)
    (reaches : after.place ≤ place) :
    firstFile (archive.take place) = .ok (found.data.take (place - after.place)) :=
  firstFile_eq_ok_iff.mpr ⟨_, _, first.cut reaches, rfl⟩

/-! ## Whole files -/

/-- **A file is read whole exactly if the archive is not cut off among its data.** Whatever the
archive, what is read of it are the data of its first regular file, as far as they are there. They
are as many as the header in front of them declares, or an announcement where the header declares
none, exactly if the archive goes on to their end; and wherever the archive is cut off behind that
header, it is read without a fault, up to where it ends. -/
theorem whole_file_iff_not_cut (archive : Bytes) :
    (∀ data, firstFile archive = .ok data ↔
      ∃ found after, FirstFile { bytes := archive } found after ∧ found.data = data) ∧
    ∀ found after, FirstFile { bytes := archive } found after →
      found.header = slice (after.place - blockSize) blockSize archive ∧
      (∃ written, numeric? (slice 124 12 found.header) = some written ∧
        (written ≠ 0 → found.size = written)) ∧
      found.data = slice after.place found.size archive ∧
      (found.data.length = found.size ↔ after.place + found.size ≤ archive.length) ∧
      ∀ place, after.place ≤ place →
        firstFile (archive.take place) = .ok (found.data.take (place - after.place)) := by
  refine ⟨fun data => firstFile_eq_ok_iff, ?_⟩
  intro found after first
  have read := first.read
  have bytes : after.bytes = archive.drop after.place := first.passes.bytes
  have total : after.place + after.bytes.length = 0 + archive.length := first.passes.total
  have header := first.header_eq
  rw [Nat.sub_zero] at header
  refine ⟨header, read.declared, ?_, ?_, fun place => firstFile_take first⟩
  · rw [read.data, bytes]
    rfl
  · rw [read.data, List.length_take]
    omega

/-- The header of a greeting. -/
def greetingHeader : Header :=
  { name := Bytes.ofString "greeting", mode := 0o644, owned := false, size := 5, kind := 0 }

/-- A greeting as an archive, without what fills its last block. -/
def greeting : Bytes :=
  greetingHeader.block ++ Bytes.ofString "hello"

/-- What is read of the greeting. -/
def greeted : Found :=
  { header := greetingHeader.block, size := 5, data := Bytes.ofString "hello" }

/-- What is left of the greeting behind its header. -/
def behindGreeting : Rest :=
  { bytes := Bytes.ofString "hello", place := blockSize, toSkip := blockSize }

theorem firstFile_greeting : FirstFile { bytes := greeting } greeted behindGreeting := by
  have read : nextRaw (({} : Announced).fields.bind announcedSize?) { bytes := greeting } =
      .ok (some (greeted, behindGreeting)) := by
    decide +kernel
  have plain : ({} : Announced).add? greeted = none := by decide +kernel
  exact .here (.member read plain (by decide +kernel)) (by decide +kernel)

theorem whole_file_iff_not_cut_greeting :
    FirstFile { bytes := greeting } greeted behindGreeting ∧ greeting.length = blockSize + 5 ∧
      greeted.data.length = 5 ∧
      firstFile (greeting.take (blockSize + 4)) = .ok (Bytes.ofString "hell") := by
  have length : greeting.length = blockSize + 5 := by decide +kernel
  obtain ⟨-, -, -, whole, cuts⟩ := (whole_file_iff_not_cut greeting).2 _ _ firstFile_greeting
  refine ⟨firstFile_greeting, length, whole.mpr (Nat.le_of_eq length.symm), ?_⟩
  exact cuts (blockSize + 4) (Nat.le_add_right _ _)

/-- **A greeting that is cut off is taken for a whole one.** Five bytes are declared, two are there,
and these are what is read. -/
theorem cut_greeting_taken_for_whole :
    ∃ found after, FirstFile { bytes := greeting.take (blockSize + 2) } found after ∧
      numeric? (slice 124 12 found.header) = some 5 ∧ found.size = 5 ∧
      firstFile (greeting.take (blockSize + 2)) = .ok (Bytes.ofString "he") :=
  ⟨_, _, firstFile_greeting.cut (Nat.le_add_right blockSize 2), by decide +kernel, rfl,
    firstFile_take firstFile_greeting (Nat.le_add_right blockSize 2)⟩

end BuildYard.Archive
