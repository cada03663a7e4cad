import BuildYard.Proofs.Archive.Blocks
import BuildYard.Proofs.Archive.Names
import Mathlib.Data.List.Forall2

/-!
# Archives that are written read back

A reader goes from block to block. What it finds of a header block and of data
behind it is what was written (`nextRaw_block`), an announcement is kept for the
member behind it, and so each member is found again (`next?_member`), in order,
and nothing else (`members_encode`). This holds of every archive whose size is a
number of 64 bits.
-/

set_option autoImplicit false

namespace BuildYard.Archive

/-! ## One block -/

/-- What is left to read, without what belongs to the member read last. -/
structure Rest.Leaves (rest : Rest) (bytes : Bytes) : Prop where
  skipped : rest.toSkip ≤ rest.bytes.length
  left : rest.bytes.drop rest.toSkip = bytes
  /-- places in the whole are numbers of 64 bits -/
  fits : rest.place + rest.bytes.length < UInt64.size

variable {rest : Rest} {header : Header} {data more : Bytes}

/-- **A header and its data are read as they were written.** -/
theorem nextRaw_block (size : header.size = data.length)
    (leaves : rest.Leaves (header.block ++ (padded data ++ more))) :
    ∃ after, nextRaw none rest = .ok (some ({ header := header.block, size := data.length, data },
      after)) ∧ after.Leaves more := by
  have block := header.length_block
  have blocks := length_padded data
  have lengths := congrArg List.length leaves.left
  rw [List.length_drop, List.length_append, List.length_append, block, blocks] at lengths
  have skipped := leaves.skipped
  have fits := leaves.fits
  have behind : rest.bytes.drop (rest.toSkip + blockSize) = padded data ++ more := by
    rw [← List.drop_drop, leaves.left, List.drop_left' block]
  have few : data.length ≤ roundUp data.length := by
    rw [← blocks, padded, List.length_append]
    exact Nat.le_add_right _ _
  have read : (header.block ++ (padded data ++ more)).take blockSize = header.block :=
    List.take_left' block
  have sum := header.checksum_block
  have sumFits : (byteSum (header.block.take 148) + 8 * 32 + byteSum (header.block.drop 156)) %
      UInt32.size = byteSum (header.block.take 148) + 8 * 32 + byteSum (header.block.drop 156) := by
    refine Nat.mod_eq_of_lt ?_
    rw [header.take_front, header.drop_back]
    exact header.checksum_lt.trans (by decide)
  have written : numeric? (slice 124 12 header.block) = some data.length := by
    rw [header.slice_size, size, numeric?_sizeField (by omega)]
  have whole : (padded data ++ more).take data.length = data := by
    rw [padded, List.append_assoc, List.take_left' rfl]
  refine ⟨⟨padded data ++ more, rest.place + rest.toSkip + blockSize, roundUp data.length⟩, ?_, ?_⟩
  · have notEmpty : header.block.isEmpty = false := by
      rw [List.isEmpty_eq_false_iff, ← List.length_pos_iff, block]
      decide
    have dataFit : data.length + (blockSize - 1) < UInt64.size := by
      unfold blockSize at lengths ⊢
      omega
    have placeFits : rest.place + rest.toSkip + blockSize + roundUp data.length < UInt64.size := by
      omega
    have inside : ¬ (UInt64.size ≤ data.length + (blockSize - 1) ||
        UInt64.size ≤ rest.place + rest.toSkip + blockSize + roundUp data.length) = true := by
      rw [Bool.or_eq_true, decide_eq_true_eq, decide_eq_true_eq]
      exact not_or.mpr ⟨Nat.not_le.mpr dataFit, Nat.not_le.mpr placeFits⟩
    simp only [nextRaw, leaves.left, read, if_neg (Nat.not_lt.mpr skipped), notEmpty, block, sum,
      header.block_not_zero, sumFits, written, behind, Bool.false_eq_true, if_false,
      Nat.lt_irrefl, ne_eq, not_true_eq_false, Option.getD_none]
    have sameSize : (if data.length = 0 then 0 else data.length) = data.length := by
      split
      · next none => exact none.symm
      · rfl
    rw [sameSize, if_neg inside, whole]
  · refine ⟨?_, ?_, ?_⟩
    · rw [List.length_append, blocks]
      exact Nat.le_add_right _ _
    · rw [List.drop_left' blocks]
    · simp only [List.length_append, blocks, blockSize] at lengths ⊢
      omega

/-- At the end nothing is found. -/
theorem nextRaw_ending (leaves : rest.Leaves ending) : nextRaw none rest = .ok none := by
  have zeros : (ending.take blockSize).all (· == 0) = true := by
    rw [List.all_eq_true]
    intro b member
    rw [List.eq_of_mem_replicate (List.mem_of_mem_take member)]
    rfl
  have block : (ending.take blockSize).length = blockSize := by
    rw [List.length_take, ending, Bytes.zeros, List.length_replicate]
    decide
  have notEmpty : (ending.take blockSize).isEmpty = false := by
    rw [List.isEmpty_eq_false_iff, ← List.length_pos_iff, block]
    decide
  simp only [nextRaw, leaves.left, if_neg (Nat.not_lt.mpr leaves.skipped), notEmpty, block, zeros,
    Bool.false_eq_true, if_false, if_true, Nat.lt_irrefl]

/-! ## One member -/

section Blocks

variable {found : Found} (same : found.header = header.block)
include same

theorem isRecognized_block : found.isRecognized = true := by
  simp only [Found.isRecognized, Found.isGnu, same, header.slice_magic, beq_self_eq_true,
    Bool.true_or]

theorem kind_block : found.kind = header.kind := by
  rw [Found.kind, same, header.slice_kind]
  rfl

theorem isSparse_block (dense : header.kind ≠ 0x53) : found.isSparse = false := by
  rw [Found.isSparse, kind_block same]
  exact beq_false_of_ne dense

/-- The permission bits are read as far as there are any. -/
theorem mode_found : found.mode = header.mode % 0o10000 := by
  rw [Found.mode, same, header.mode_block, Option.getD_some]
  exact Nat.mod_mod_of_dvd _ (by decide)

theorem nameBytes_field (unannounced : found.longName = none) (short : header.name.length ≤ nameRoom)
    (plain : 0 ∉ header.name) : found.nameBytes = header.name := by
  rw [Found.nameBytes, unannounced, same, header.slice_name]
  exact upToZero_field short plain

theorem linkBytes_field (unannounced : found.longLink = none) (short : header.link.length ≤ nameRoom)
    (plain : 0 ∉ header.link) : found.linkBytes = header.link := by
  rw [Found.linkBytes, unannounced, same, header.slice_link]
  exact upToZero_field short plain

/-- Whether a member announces something is told by its kind. -/
theorem add?_block (met : Announced) : met.add? found =
    if header.kind == longNameKind then
      some (if met.name.isSome then .error .twice else .ok { met with name := some found.data })
    else if header.kind == longLinkKind then
      some (if met.link.isSome then .error .twice else .ok { met with link := some found.data })
    else if header.kind == 0x78 then
      some (if met.fields.isSome then .error .twice else .ok { met with fields := some found.data })
    else none := by
  rw [Announced.add?, isRecognized_block same, kind_block same, Bool.not_true,
    if_neg Bool.false_ne_true]

end Blocks

/-- An announcement stands as it was given, without the zero that closes it. -/
theorem nameBytes_announced {found : Found} {name : Bytes}
    (announced : found.longName = some (name ++ [0])) : found.nameBytes = name := by
  rw [Found.nameBytes, announced]
  simp

theorem linkBytes_announced {found : Found} {link : Bytes}
    (announced : found.longLink = some (link ++ [0])) : found.linkBytes = link := by
  rw [Found.linkBytes, announced]
  simp

/-- A kind of member that announces nothing and whose data stand as they are. -/
def IsPlain (kind : UInt8) : Prop :=
  kind ≠ longNameKind ∧ kind ≠ longLinkKind ∧ kind ≠ 0x78 ∧ kind ≠ 0x53

section Next

variable {met : Announced} {text : String} (noFields : met.fields = none)
include noFields

/-- **A member is found with what was announced for it.** -/
theorem next?_member (plain : IsPlain header.kind) (size : header.size = data.length)
    (leaves : rest.Leaves (header.block ++ (padded data ++ more))) :
    ∃ after, after.Leaves more ∧ ∀ fuel, next? (fuel + 1) met rest = .ok (some
      ({ header := header.block, size := data.length, data, longName := met.name,
         longLink := met.link }, after)) := by
  obtain ⟨after, found, leaves⟩ := nextRaw_block size leaves
  refine ⟨after, leaves, fun fuel => ?_⟩
  obtain ⟨noName, noLink, noField, dense⟩ := plain
  have same : (⟨header.block, data.length, data, none, none⟩ : Found).header = header.block := rfl
  simp only [next?, noFields, Option.bind_none, found, add?_block same, isSparse_block same dense,
    beq_iff_eq, noName, noLink, noField, Bool.false_eq_true, if_false]

/-- What is announced is kept for the member behind it. -/
theorem next?_announcement {announced : Announced} (size : header.size = data.length)
    (adds : met.add? { header := header.block, size := data.length, data } = some (.ok announced))
    (leaves : rest.Leaves (header.block ++ (padded data ++ more))) :
    ∃ after, after.Leaves more ∧
      ∀ fuel, next? (fuel + 1) met rest = next? fuel announced after := by
  obtain ⟨after, found, leaves⟩ := nextRaw_block size leaves
  refine ⟨after, leaves, fun fuel => ?_⟩
  simp only [next?, noFields, Option.bind_none, found, adds]

theorem next?_longName (unannounced : met.name = none)
    (leaves : rest.Leaves (announcement longNameKind text ++ more)) :
    ∃ after, after.Leaves more ∧ ∀ fuel, next? (fuel + 1) met rest =
      next? fuel { met with name := some (Bytes.ofString text ++ [0]) } after := by
  rw [announcement, List.append_assoc] at leaves
  refine next?_announcement noFields rfl ((add?_block rfl met).trans ?_) leaves
  rw [if_pos (beq_self_eq_true _), unannounced]
  rfl

theorem next?_longLink (unannounced : met.link = none)
    (leaves : rest.Leaves (announcement longLinkKind text ++ more)) :
    ∃ after, after.Leaves more ∧ ∀ fuel, next? (fuel + 1) met rest =
      next? fuel { met with link := some (Bytes.ofString text ++ [0]) } after := by
  rw [announcement, List.append_assoc] at leaves
  refine next?_announcement noFields rfl ((add?_block rfl met).trans ?_) leaves
  have other : ¬ (longLinkKind == longNameKind) = true := by decide
  rw [if_neg other, if_pos (beq_self_eq_true _), unannounced]
  rfl

end Next

theorem next?_ending (leaves : rest.Leaves ending) (fuel : Nat) :
    next? (fuel + 1) {} rest = .ok none := by
  simp only [next?, Option.bind_none, nextRaw_ending leaves]
  rfl

/-! ## What stands in front of a member -/

/-- The bytes in front of a member, and what they announce. -/
inductive Announces (kind : UInt8) : Bytes → Option Bytes → Prop where
  | nothing : Announces kind [] none
  | text (text : String) :
      Announces kind (announcement kind text) (some (Bytes.ofString text ++ [0]))

section Announces

variable (met : Announced) {front : Bytes} {announced : Option Bytes}
  (noFields : met.fields = none)
include noFields

/-- The reader comes to what stands behind, a step later at most. -/
theorem Announces.next?_name (announces : Announces longNameKind front announced)
    (unannounced : met.name = none) (leaves : rest.Leaves (front ++ more)) :
    ∃ after used, after.Leaves more ∧ used ≤ 1 ∧
      ∀ fuel, next? (fuel + used) met rest = next? fuel { met with name := announced } after := by
  cases announces with
  | nothing =>
    refine ⟨rest, 0, leaves, Nat.zero_le 1, fun fuel => ?_⟩
    obtain ⟨name, link, fields⟩ := met
    obtain rfl : name = none := unannounced
    rfl
  | text text =>
    obtain ⟨after, leaves, kept⟩ := next?_longName noFields unannounced leaves
    exact ⟨after, 1, leaves, Nat.le_refl 1, kept⟩

theorem Announces.next?_link (announces : Announces longLinkKind front announced)
    (unannounced : met.link = none) (leaves : rest.Leaves (front ++ more)) :
    ∃ after used, after.Leaves more ∧ used ≤ 1 ∧
      ∀ fuel, next? (fuel + used) met rest = next? fuel { met with link := announced } after := by
  cases announces with
  | nothing =>
    refine ⟨rest, 0, leaves, Nat.zero_le 1, fun fuel => ?_⟩
    obtain ⟨name, link, fields⟩ := met
    obtain rfl : link = none := unannounced
    rfl
  | text text =>
    obtain ⟨after, leaves, kept⟩ := next?_longLink noFields unannounced leaves
    exact ⟨after, 1, leaves, Nat.le_refl 1, kept⟩

end Announces

theorem isPlain_fileKind : IsPlain fileKind := by
  unfold IsPlain
  decide

theorem isPlain_directoryKind : IsPlain directoryKind := by
  unfold IsPlain
  decide

theorem isPlain_linkKind : IsPlain linkKind := by
  unfold IsPlain
  decide

/-- **A member is found behind the announcements in front of it**, with what they say. -/
theorem next?_announced {names links : Bytes} {longName longLink : Option Bytes}
    (name : Announces longNameKind names longName) (link : Announces longLinkKind links longLink)
    (plain : IsPlain header.kind) (size : header.size = data.length)
    (leaves : rest.Leaves (names ++ (links ++ (header.block ++ (padded data ++ more)))))
    {fuel : Nat} (enough : 3 ≤ fuel) :
    ∃ found after, after.Leaves more ∧ next? fuel {} rest = .ok (some (found, after)) ∧
      found.header = header.block ∧ found.data = data ∧ found.longName = longName ∧
        found.longLink = longLink := by
  obtain ⟨atLink, one, leaves, oneStep, toLink⟩ := name.next?_name {} rfl rfl leaves
  obtain ⟨atMember, two, leaves, anotherStep, toMember⟩ :=
    link.next?_link { name := longName } rfl rfl leaves
  have met : ({ name := longName, link := longLink } : Announced).fields = none := rfl
  obtain ⟨after, leaves, found⟩ := next?_member met
      plain size leaves
  obtain ⟨less, rfl⟩ : ∃ less, fuel = less + 1 + two + one := ⟨fuel - 1 - two - one, by omega⟩
  exact ⟨_, after, leaves, by rw [toLink, toMember, found], rfl, rfl, rfl, rfl⟩

/-- The same for a member without data. -/
theorem next?_announced_empty {names links : Bytes} {longName longLink : Option Bytes}
    (name : Announces longNameKind names longName) (link : Announces longLinkKind links longLink)
    (plain : IsPlain header.kind) (size : header.size = 0)
    (leaves : rest.Leaves (names ++ (links ++ (header.block ++ more))))
    {fuel : Nat} (enough : 3 ≤ fuel) :
    ∃ found after, after.Leaves more ∧ next? fuel {} rest = .ok (some (found, after)) ∧
      found.header = header.block ∧ found.data = [] ∧ found.longName = longName ∧
        found.longLink = longLink := by
  have empty : padded [] ++ more = more := rfl
  have none : header.size = ([] : Bytes).length := size
  rw [← empty] at leaves
  exact next?_announced name link plain none leaves enough

/-! ## Members -/

/-- The bytes of a name as an archive keeps it: as it was given, or written again. -/
def KeepsName (name : String) (bytes : Bytes) : Prop :=
  ∃ text, bytes = Bytes.ofString text ∧ (text = name ∨ fieldText .name name = .ok text)

/-- The bytes of the target of a link as an archive keeps it: the same path. -/
def KeepsLink (target : String) (bytes : Bytes) : Prop :=
  ∃ text, bytes = Bytes.ofString text ∧ Path.same text target = true

theorem NamePlaced.announces {name : String} {front field : Bytes}
    (placed : NamePlaced name (front, field)) :
    ∃ longName, Announces longNameKind front longName ∧ ∀ (header : Header) (found : Found),
      found.header = header.block → header.name = field → found.longName = longName →
        KeepsName name found.nameBytes := by
  cases placed with
  | inField written fits plain =>
    refine ⟨none, .nothing, fun header found same stands unannounced => ⟨_, ?_, .inr written⟩⟩
    rw [nameBytes_field same unannounced (stands ▸ fits) (stands ▸ plain), stands]
  | inFront fits =>
    refine ⟨_, .text name, fun _ found _ _ announced => ⟨name, ?_, .inl rfl⟩⟩
    exact nameBytes_announced announced

theorem LinkPlaced.announces {target : String} {front field : Bytes}
    (placed : LinkPlaced target (front, field)) :
    ∃ longLink, Announces longLinkKind front longLink ∧ ∀ (header : Header) (found : Found),
      found.header = header.block → header.link = field → found.longLink = longLink →
        KeepsLink target found.linkBytes := by
  cases placed with
  | inField written fits plain =>
    refine ⟨none, .nothing, fun header found same stands unannounced => ?_⟩
    refine ⟨_, ?_, same_of_fieldText written⟩
    rw [linkBytes_field same unannounced (stands ▸ fits) (stands ▸ plain), stands]
  | inFront =>
    refine ⟨_, .text target, fun _ found _ _ announced => ⟨target, ?_, ?_⟩⟩
    · exact linkBytes_announced announced
    · rw [Path.same, beq_self_eq_true, beq_self_eq_true, Bool.and_self]

/-- What is found is of the kind of a member, with its data or target. -/
def Content.ShownBy : Content → Found → Prop
  | .file data, found => found.kind = fileKind ∧ found.data = data
  | .directory, found => found.kind = directoryKind ∧ found.data = []
  | .link target, found =>
    found.kind = linkKind ∧ found.data = [] ∧ KeepsLink target found.linkBytes

/-- **What is found shows a member**: its name, its permission bits, its kind and its data. -/
structure Shows (member : Member) (found : Found) : Prop where
  name : KeepsName member.name found.nameBytes
  mode : found.mode = member.mode % 0o10000
  content : member.content.ShownBy found

/-- **A member that is written is found again.** -/
theorem Member.shown {member : Member} {bytes : Bytes} (encoded : member.encode = .ok bytes)
    (leaves : rest.Leaves (bytes ++ more)) {fuel : Nat} (enough : 3 ≤ fuel) :
    ∃ found after, after.Leaves more ∧ next? fuel {} rest = .ok (some (found, after)) ∧
      Shows member found := by
  obtain ⟨name, mode, content⟩ := member
  simp only [Member.encode, bind, Except.bind] at encoded
  cases placed : placeName name with
  | error fault =>
    rw [placed] at encoded
    cases encoded
  | ok place =>
    obtain ⟨front, field⟩ := place
    obtain ⟨longName, announces, named⟩ := (placeName_placed placed).announces
    rw [placed] at encoded
    cases content with
    | file data =>
      obtain rfl := Except.ok.inj encoded
      simp only [List.append_assoc] at leaves
      obtain ⟨found, after, leaves, next, same, kept, long, -⟩ :=
        next?_announced announces .nothing isPlain_fileKind rfl leaves enough
      exact ⟨found, after, leaves, next, named _ _ same rfl long, mode_found same,
        kind_block same, kept⟩
    | directory =>
      obtain rfl := Except.ok.inj encoded
      rw [List.append_assoc, ← List.nil_append (_ ++ more)] at leaves
      obtain ⟨found, after, leaves, next, same, kept, long, -⟩ :=
        next?_announced_empty announces .nothing isPlain_directoryKind rfl leaves enough
      exact ⟨found, after, leaves, next, named _ _ same rfl long, mode_found same,
        kind_block same, kept⟩
    | link target =>
      simp only at encoded
      cases linkPlaced : placeLink target with
      | error fault =>
        rw [linkPlaced] at encoded
        cases encoded
      | ok place =>
        obtain ⟨linkFront, linkField⟩ := place
        obtain ⟨longLink, linkAnnounces, linked⟩ := (placeLink_placed linkPlaced).announces
        rw [linkPlaced] at encoded
        obtain rfl := Except.ok.inj encoded
        simp only [List.append_assoc] at leaves
        obtain ⟨found, after, leaves, next, same, kept, long, longLink⟩ :=
          next?_announced_empty announces linkAnnounces isPlain_linkKind rfl leaves enough
        exact ⟨found, after, leaves, next, named _ _ same rfl long, mode_found same,
          kind_block same, kept, linked _ _ same rfl longLink⟩

/-- The bytes of a member are a block at least. -/
theorem Member.length_encode {member : Member} {bytes : Bytes}
    (encoded : member.encode = .ok bytes) : blockSize ≤ bytes.length := by
  obtain ⟨name, mode, content⟩ := member
  simp only [Member.encode, bind, Except.bind] at encoded
  split at encoded
  · cases encoded
  · split at encoded
    · obtain rfl := Except.ok.inj encoded
      simp only [List.length_append, Header.length_block]
      omega
    · obtain rfl := Except.ok.inj encoded
      simp only [List.length_append, Header.length_block]
      omega
    · split at encoded
      · cases encoded
      · obtain rfl := Except.ok.inj encoded
        simp only [List.length_append, Header.length_block]
        omega

/-- **A member can be written if its name and the target of its link can be kept.** -/
theorem Member.encode_ok {member : Member} (named : ∃ place, placeName member.name = .ok place)
    (linked : ∀ target, member.content = .link target → ∃ place, placeLink target = .ok place) :
    ∃ bytes, member.encode = .ok bytes := by
  obtain ⟨name, mode, content⟩ := member
  obtain ⟨place, named⟩ := named
  simp only [Member.encode, named, bind, Except.bind]
  cases content with
  | file data => exact ⟨_, rfl⟩
  | directory => exact ⟨_, rfl⟩
  | link target =>
    obtain ⟨place, linked⟩ := linked target rfl
    simp only [linked]
    exact ⟨_, rfl⟩

/-! ## Whole archives -/

/-- Members are written one after another. -/
theorem encode_eq_ok {members : List Member} {archive : Bytes} :
    encode members = .ok archive ↔ ∃ parts,
      List.Forall₂ (fun (member : Member) part => member.encode = .ok part) members parts ∧
        archive = parts.flatten ++ ending := by
  have each (members : List Member) (parts : List Bytes) :
      members.mapM Member.encode = .ok parts ↔
        List.Forall₂ (fun (member : Member) part => member.encode = .ok part) members parts := by
    induction members generalizing parts with
    | nil =>
      rw [List.forall₂_nil_left_iff, List.mapM_nil]
      exact ⟨fun same => (Except.ok.inj same).symm, fun same => congrArg Except.ok same.symm⟩
    | cons member members ih =>
      rw [List.forall₂_cons_left_iff, List.mapM_cons]
      cases first : member.encode with
      | error fault =>
        refine ⟨fun failed => ?_, ?_⟩
        · cases failed
        · rintro ⟨part, rest, encoded, -⟩
          cases encoded
      | ok part =>
        cases others : members.mapM Member.encode with
        | error fault =>
          refine ⟨fun failed => ?_, ?_⟩
          · cases failed
          · rintro ⟨part, rest, -, more, -⟩
            rw [(ih rest).mpr more] at others
            cases others
        | ok rest =>
          refine ⟨fun same => ?_, ?_⟩
          · exact ⟨part, rest, rfl, (ih rest).mp others, (Except.ok.inj same).symm⟩
          · rintro ⟨_, more, same, further, rfl⟩
            cases same
            rw [(ih more).mpr further] at others
            cases others
            rfl
  rw [encode]
  cases parts : members.mapM Member.encode with
  | error fault =>
    refine ⟨fun failed => ?_, ?_⟩
    · cases failed
    · rintro ⟨found, encoded, -⟩
      rw [(each members found).mpr encoded] at parts
      cases parts
  | ok found =>
    refine ⟨fun same => ⟨found, (each members found).mp parts, (Except.ok.inj same).symm⟩, ?_⟩
    rintro ⟨others, encoded, rfl⟩
    rw [(each members others).mpr encoded] at parts
    cases parts
    rfl

/-- **What consists of members that can be written can be written.** -/
theorem encode_ok {members : List Member}
    (each : ∀ member ∈ members, ∃ bytes, member.encode = .ok bytes) :
    ∃ archive, encode members = .ok archive := by
  obtain ⟨parts, written⟩ : ∃ parts,
      List.Forall₂ (fun (member : Member) part => member.encode = .ok part) members parts := by
    induction members with
    | nil => exact ⟨[], .nil⟩
    | cons member members ih =>
      obtain ⟨⟨part, first⟩, others⟩ := List.forall_mem_cons.mp each
      obtain ⟨parts, rest⟩ := ih others
      exact ⟨part :: parts, .cons first rest⟩
  exact ⟨_, encode_eq_ok.mpr ⟨parts, written, rfl⟩⟩

/-- Reading goes on as long as there are members, and then ends. -/
theorem membersFrom_encoded {members : List Member} {parts : List Bytes}
    (encoded : List.Forall₂ (fun (member : Member) part => member.encode = .ok part) members parts)
    (leaves : rest.Leaves (parts.flatten ++ ending)) {fuel : Nat}
    (enough : (parts.flatten ++ ending).length < blockSize * fuel) :
    ∃ found, membersFrom fuel rest = .ok found ∧ List.Forall₂ Shows members found := by
  have closing : ending.length = 2 * blockSize := by
    rw [ending, Bytes.zeros, List.length_replicate]
  induction encoded generalizing rest fuel with
  | nil =>
    obtain ⟨less, rfl⟩ : ∃ less, fuel = less + 1 := by
      refine Nat.exists_eq_succ_of_ne_zero ?_
      rintro rfl
      exact absurd enough (Nat.not_lt_zero _)
    refine ⟨[], ?_, .nil⟩
    rw [membersFrom, next?_ending leaves]
  | @cons member part members parts encoded _ ih =>
    have block := Member.length_encode encoded
    have size : blockSize = 512 := rfl
    rw [List.flatten_cons, List.append_assoc] at leaves enough
    rw [List.length_append, List.length_append, closing, size] at enough
    rw [size] at block
    obtain ⟨less, rfl⟩ : ∃ less, fuel = less + 1 := ⟨fuel - 1, by omega⟩
    have fewer : (parts.flatten ++ ending).length < blockSize * less := by
      rw [List.length_append, closing, size]
      rw [Nat.mul_succ] at enough
      exact Nat.lt_of_add_lt_add_right (Nat.lt_of_le_of_lt (by omega) enough)
    obtain ⟨found, after, leaves, next, shows⟩ :=
      Member.shown encoded leaves (show 3 ≤ less + 1 by omega)
    obtain ⟨others, read, all⟩ := ih leaves fewer
    refine ⟨found :: others, ?_, .cons shows all⟩
    simp only [membersFrom, next, read, Except.map]

/-- **All members of an archive that is written are found again, in order, and nothing else.** -/
theorem members_encode {written : List Member} {archive : Bytes}
    (encoded : encode written = .ok archive) (fits : archive.length < UInt64.size) :
    ∃ found, members archive = .ok found ∧ List.Forall₂ Shows written found := by
  obtain ⟨parts, each, rfl⟩ := encode_eq_ok.mp encoded
  refine membersFrom_encoded each ⟨Nat.zero_le _, rfl, ?_⟩ ?_
  · rwa [Nat.zero_add]
  · rw [blockCount, blockSize]
    omega

end BuildYard.Archive
