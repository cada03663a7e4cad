import BuildYard.Archive.Reader
import BuildYard.Proofs.Text.Bytes
import BuildYard.Proofs.Text.Digits

/-!
# Header blocks read back

A header is written into one block, and each of its fields stands at its place
in the block: numbers are read back from their digits, or from binary where they
have too many (`octal?_octalField`, `numeric?_sizeField`), and the checksum is
the sum that a reader forms over the block (`Header.checksum_block`).
-/

set_option autoImplicit false

namespace BuildYard

/-! ## Digits -/

namespace Text

theorem dropWhile_eq_self {α : Type} {p : α → Bool} {cs : List α} (none : ∀ c ∈ cs, p c = false) :
    cs.dropWhile p = cs := by
  cases cs with
  | nil => rfl
  | cons c cs => rw [List.dropWhile_cons_of_neg (by simp [none c List.mem_cons_self])]

theorem strip_eq_self {cs : List Char} (none : ∀ c ∈ cs, isBlank c = false) : strip cs = cs := by
  rw [strip, dropLastWhile, dropWhile_eq_self none,
    dropWhile_eq_self fun c member => none c (List.mem_reverse.mp member), List.reverse_reverse]

theorem isBlank_digitChar {d : Nat} (digit : d < 10) : isBlank (digitChar d) = false := by
  interval_cases d <;> rfl

/-- A number of a fixed width that is below the limit is read back. -/
theorem natBelow?_fixed {width n limit : Nat} (some : 0 < width) (fits : n % 8 ^ width < limit) :
    natBelow? 8 limit (strip (fixed 8 width n)) = .some (n % 8 ^ width) := by
  have digits : ∀ c ∈ fixed 8 width n, ∃ d < 8, c = digitChar d := fun c member => by
    obtain ⟨d, rfl, below⟩ := of_mem_fixed member
    exact ⟨d, below (by decide), rfl⟩
  have plain : ∀ c ∈ fixed 8 width n, isBlank c = false := fun c member => by
    obtain ⟨d, below, rfl⟩ := digits c member
    exact isBlank_digitChar (below.trans (by decide))
  have read : nat? 8 (fixed 8 width n) = .some (n % 8 ^ width) := by
    have more : (fixed 8 width n).isEmpty = false := by
      rw [List.isEmpty_eq_false_iff, ← List.length_pos_iff, length_fixed]
      exact some
    rw [nat?, more, if_neg Bool.false_ne_true, natFrom?_fixed (by decide) (by decide)]
  rw [strip_eq_self plain, natBelow?.eq_def]
  split
  · next rest equal =>
    obtain ⟨d, below, sign⟩ := digits '+' (equal ▸ List.mem_cons_self)
    interval_cases d <;> cases sign
  · rw [read]
    exact if_pos fits

end Text

namespace Archive

/-! ## Numbers -/

variable {width value : Nat}

/-- The bytes of octal digits. -/
theorem of_mem_digits {b : UInt8}
    (member : b ∈ Bytes.ofString (String.ofList (Text.fixed 8 width value))) :
    0x30 ≤ b ∧ b ≤ 0x37 := by
  obtain ⟨c, digit, inside⟩ := List.mem_flatMap.mp member
  rw [String.toList_ofList] at digit
  obtain ⟨d, rfl, below⟩ := Text.of_mem_fixed digit
  have few := below (by decide)
  interval_cases d <;> (obtain rfl := List.mem_singleton.mp inside; decide)

theorem length_digits :
    (Bytes.ofString (String.ofList (Text.fixed 8 width value))).length = width := by
  rw [Bytes.ofString, String.toList_ofList, List.length_flatMap]
  have single : ∀ c ∈ Text.fixed 8 width value, (String.utf8EncodeChar c).length = 1 := by
    intro c digit
    obtain ⟨d, rfl, below⟩ := Text.of_mem_fixed digit
    have few := below (by decide)
    interval_cases d <;> rfl
  rw [List.map_congr_left single, List.map_const', List.sum_replicate_nat, Nat.mul_one,
    Text.length_fixed]

theorem upToZero_append_zero {bytes rest : Bytes} (plain : 0 ∉ bytes) :
    upToZero (bytes ++ 0 :: rest) = bytes := by
  have kept : ∀ b ∈ bytes, (b != 0) = true := fun b member =>
    bne_iff_ne.mpr fun zero => plain (zero ▸ member)
  rw [upToZero, List.takeWhile_append_of_pos kept, List.takeWhile_cons_of_neg (by decide),
    List.append_nil]

/-- **A number is read back from its octal digits.** -/
theorem octal?_octalField (some : 0 < width) (fits : value % 8 ^ width < UInt64.size) :
    octal? (octalField (width + 1) value) = .some (value % 8 ^ width) := by
  have plain : 0 ∉ Bytes.ofString (String.ofList (Text.fixed 8 width value)) := fun zero =>
    absurd (of_mem_digits zero).1 (by decide)
  rw [octal?, octalField, Nat.add_sub_cancel, upToZero_append_zero plain, Bytes.text?_ofString,
    Option.bind_some, String.toList_ofList, Text.natBelow?_fixed some fits]

theorem length_octalField (width value : Nat) : (octalField (width + 1) value).length = width + 1 := by
  rw [octalField, List.length_append, Nat.add_sub_cancel, length_digits, List.length_singleton]

theorem length_bigEndian (n value : Nat) : (bigEndian n value).length = n := by
  induction n generalizing value with
  | zero => rfl
  | succ n ih => rw [bigEndian, List.length_append, ih, List.length_singleton]

/-- The bytes of a number stand for it. -/
theorem foldl_bigEndian (n value : Nat) :
    (bigEndian n value).foldl (fun n b => n * 256 + b.toNat) 0 = value % 256 ^ n := by
  induction n generalizing value with
  | zero => rw [bigEndian, List.foldl_nil, Nat.pow_zero, Nat.mod_one]
  | succ n ih =>
    have last : (UInt8.ofNat (value % 256)).toNat = value % 256 :=
      UInt8.toNat_ofNat_of_lt' (Nat.mod_lt _ (by decide))
    rw [bigEndian, List.foldl_append, ih, List.foldl_cons, List.foldl_nil, last, Nat.pow_succ,
      Nat.mul_comm (256 ^ n), Nat.mod_mul, Nat.mul_comm, Nat.add_comm]

theorem length_sizeField (size : Nat) : (sizeField size).length = 12 := by
  rw [sizeField]
  split
  · exact length_octalField 11 size
  · rw [List.length_append, length_bigEndian]
    rfl

/-- **A size of up to 64 bits is read back from its field.** -/
theorem numeric?_sizeField {size : Nat} (fits : size < UInt64.size) :
    numeric? (sizeField size) = some size := by
  rw [sizeField]
  split
  · next octal =>
    have small : size % 8 ^ 11 = size := Nat.mod_eq_of_lt octal
    have read : octal? (octalField 12 size) = some size := by
      rw [octal?_octalField (by decide) (small.symm ▸ fits), small]
    cases digits : Bytes.ofString (String.ofList (Text.fixed 8 11 size)) with
    | nil => exact absurd (length_digits.symm.trans (congrArg List.length digits)) (by decide)
    | cons first rest =>
      have low : ¬ 0x80 ≤ first := by
        have below := (of_mem_digits (digits ▸ List.mem_cons_self)).2
        exact fun high => absurd (UInt8.le_trans high below) (by decide)
      have split : octalField 12 size = first :: (rest ++ [0]) := by
        rw [octalField, digits, List.cons_append]
      rw [split] at read ⊢
      rw [numeric?, if_neg low, read]
  · refine congrArg some ((foldl_bigEndian 8 size).trans ?_)
    exact Nat.mod_eq_of_lt fits

/-! ## Fields and their places -/

theorem length_field (n : Nat) (bytes : Bytes) : (field n bytes).length = n := by
  rw [field, List.length_append, List.length_take, Bytes.zeros, List.length_replicate]
  omega

/-- What stands in a field is read up to the first zero. -/
theorem upToZero_field {n : Nat} {bytes : Bytes} (short : bytes.length ≤ n) (plain : 0 ∉ bytes) :
    upToZero (field n bytes) = bytes := by
  rw [field, List.take_of_length_le short, Bytes.zeros]
  cases n - bytes.length with
  | zero =>
    have kept : ∀ b ∈ bytes, (b != 0) = true := fun b member =>
      bne_iff_ne.mpr fun zero => plain (zero ▸ member)
    rw [List.replicate_zero, upToZero, List.takeWhile_append_of_pos kept, List.takeWhile_nil,
      List.append_nil]
  | succ more => exact upToZero_append_zero plain

/-- Behind other fields a field stands as far behind its own place. -/
theorem slice_append {front rest : Bytes} {start length : Nat} (behind : front.length ≤ start) :
    slice start length (front ++ rest) = slice (start - front.length) length rest := by
  rw [slice, slice, List.drop_append, List.drop_of_length_le behind, List.nil_append]

/-- A field in front is its own. -/
theorem slice_zero {front rest : Bytes} {length : Nat} (same : front.length = length) :
    slice 0 length (front ++ rest) = front := by
  rw [slice, List.drop_zero, List.take_left' same]

theorem byteSum_eq_sum (bytes : Bytes) : byteSum bytes = (bytes.map UInt8.toNat).sum := by
  rw [byteSum, List.sum_eq_foldl, List.foldl_map]

theorem byteSum_le (bytes : Bytes) : byteSum bytes ≤ 255 * bytes.length := by
  rw [byteSum_eq_sum]
  induction bytes with
  | nil => exact Nat.le_refl _
  | cons b bytes ih =>
    have top : b.toNat < 256 := b.toNat_lt
    rw [List.map_cons, List.sum_cons, List.length_cons]
    omega

/-! ## Blocks -/

namespace Header

variable (header : Header)

/-- The field for an owner. -/
def owner : Bytes :=
  if header.owned then octalField 8 0 else Bytes.zeros 8

theorem length_owner : header.owner.length = 8 := by
  rw [owner]
  split
  · exact length_octalField 7 0
  · exact List.length_replicate

/-- What follows the fields of a header: which form it is of, and zeros. -/
def rest : Bytes :=
  Bytes.ofString "ustar  " ++ [0] ++ Bytes.zeros 247

/-- A block field by field. -/
theorem block_eq : header.block =
    field 100 header.name ++ (octalField 8 header.mode ++ (header.owner ++ (header.owner ++
      (sizeField header.size ++ (octalField 12 0 ++ (octalField 8 header.checksum ++
        ([header.kind] ++ (field 100 header.link ++ rest)))))))) := by
  simp only [block, front, back, rest, owner, List.append_assoc, List.cons_append, List.nil_append]

theorem length_front : header.front.length = 148 := by
  have owners := header.length_owner
  rw [owner] at owners
  simp only [front, List.length_append, length_field, length_octalField, length_sizeField, owners]

theorem length_back : header.back.length = 356 := by
  have magic : (Bytes.ofString "ustar  ").length = 7 := by decide
  simp only [back, List.length_append, List.length_cons, length_field, magic, Bytes.zeros,
    List.length_replicate, List.length_nil]

theorem length_block : header.block.length = blockSize := by
  simp only [block, List.length_append, length_front, length_octalField, length_back]
  rfl

/-! ### Places of fields -/

theorem slice_name : slice 0 100 header.block = field 100 header.name := by
  rw [block_eq]
  exact slice_zero (length_field 100 _)

theorem slice_mode : slice 100 8 header.block = octalField 8 header.mode := by
  rw [block_eq, slice_append (by rw [length_field]), length_field]
  exact slice_zero (length_octalField 7 _)

theorem slice_size : slice 124 12 header.block = sizeField header.size := by
  rw [block_eq, slice_append (by rw [length_field]; decide), length_field,
    slice_append (by rw [length_octalField]; decide), length_octalField,
    slice_append (by rw [length_owner]; decide), length_owner,
    slice_append (by rw [length_owner]), length_owner]
  exact slice_zero (length_sizeField _)

theorem take_front : header.block.take 148 = header.front := by
  rw [block, List.append_assoc, List.take_left' header.length_front]

theorem drop_back : header.block.drop 156 = header.back := by
  rw [block, List.drop_left']
  rw [List.length_append, length_front, length_octalField]

theorem slice_checksum : slice 148 8 header.block = octalField 8 header.checksum := by
  rw [block, List.append_assoc, slice_append (by rw [length_front]), length_front]
  exact slice_zero (length_octalField 7 _)

theorem slice_back (start length : Nat) :
    slice (156 + start) length header.block = slice start length header.back := by
  rw [slice, slice, ← List.drop_drop, drop_back]

theorem back_eq : header.back = [header.kind] ++ (field 100 header.link ++ rest) := by
  simp only [back, rest, List.append_assoc, List.cons_append, List.nil_append]

theorem slice_kind : slice 156 1 header.block = [header.kind] := by
  rw [header.slice_back 0, back_eq]
  exact slice_zero rfl

theorem slice_link : slice 157 100 header.block = field 100 header.link := by
  rw [header.slice_back 1, back_eq, slice_append (Nat.le_refl 1)]
  exact slice_zero (length_field 100 _)

theorem slice_magic : slice 257 8 header.block = Bytes.ofString "ustar  " ++ [0] := by
  rw [header.slice_back 101, back_eq, slice_append (show 1 ≤ 101 by decide),
    slice_append (by rw [length_field]; exact Nat.le_refl 100), length_field, rest]
  exact slice_zero (by decide)

/-! ### Fields as they are read -/

/-- A sum over a block has few digits. -/
theorem checksum_lt : header.checksum < 8 ^ 7 := by
  have front := byteSum_le header.front
  have back := byteSum_le header.back
  rw [length_front] at front
  rw [length_back] at back
  rw [checksum]
  omega

/-- **The checksum is the sum over the block.** -/
theorem checksum_block : octal? (slice 148 8 header.block) =
    some (byteSum (header.block.take 148) + 8 * 32 + byteSum (header.block.drop 156)) := by
  have few : header.checksum % 8 ^ 7 = header.checksum := Nat.mod_eq_of_lt header.checksum_lt
  have fits : header.checksum < UInt64.size := header.checksum_lt.trans (by decide)
  rw [slice_checksum, octal?_octalField (by decide) (few.symm ▸ fits), few, take_front, drop_back]
  rfl

theorem mode_block : octal? (slice 100 8 header.block) = some (header.mode % 8 ^ 7) := by
  rw [slice_mode, octal?_octalField (by decide)]
  exact (Nat.mod_lt _ (by decide)).trans (by decide)

/-- No header is an empty block. -/
theorem block_not_zero : header.block.all (· == 0) = false := by
  refine Bool.eq_false_iff.mpr fun zero => ?_
  have inside : 0x75 ∈ header.block := by
    rw [block, back_eq]
    refine List.mem_append_right _ (List.mem_append_right _ (List.mem_append_right _ ?_))
    exact List.mem_append_left _ (List.mem_append_left _ (by decide))
  exact absurd (List.all_eq_true.mp zero _ inside) (by decide)

end Header

/-! ## Data -/

theorem length_padded (data : Bytes) : (padded data).length = roundUp data.length := by
  simp only [padded, padding, Bytes.zeros, List.length_append, List.length_replicate, roundUp,
    blockSize]
  omega

end Archive

end BuildYard
