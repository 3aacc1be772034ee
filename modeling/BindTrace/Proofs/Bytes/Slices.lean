import BindTrace.Bytes.LittleEndian

/-! # Slices and writes as parts of a byte string

A slice that ends an append is the right part, and neighbouring slices merge.
A write splits the string into what stands before it, the written bytes, and
what stands behind it; one that stays within a part of an append changes that
part only. Blocks that agree on a range have the same slices within it. Blocks
of zeros stay zeros under slicing and spell zero.
-/

namespace BindTrace

namespace Block

/-! ## Slices -/

theorem slice_append_self {m k : Nat} (left : Block m) (right : Block k) (start : Nat)
    (hstart : start = m) (h : start + k ≤ m + k) :
    slice (left ++ right) start k h = right := by
  subst hstart
  ext i hi
  simp

theorem slice_append_next {n : Nat} (block : Block n) {start m next k : Nat}
    {hm : start + m ≤ n} {hk : next + k ≤ n} (hnext : next = start + m) :
    slice block start m hm ++ slice block next k hk =
      slice block start (m + k) (by omega) := by
  subst hnext
  exact slice_append_slice block start m k (by omega)

@[simp]
theorem slice_zero {n : Nat} (start len : Nat) (h : start + len ≤ n) :
    slice (zero n) start len h = zero len := by
  ext i hi
  simp

theorem slice_slice {n : Nat} (block : Block n) (start len first count : Nat)
    (h : start + len ≤ n) (hinner : first + count ≤ len) :
    slice (slice block start len h) first count hinner =
      slice block (start + first) count (by omega) := by
  ext i hi
  simp [Nat.add_assoc]

theorem toList_slice {n : Nat} (block : Block n) (start len : Nat) (h : start + len ≤ n) :
    (slice block start len h).toList = (block.toList.drop start).take len := by
  apply List.ext_getElem
  · simp
    omega
  · intro i _ _
    simp

theorem getElem?_slice {n : Nat} (block : Block n) (start len : Nat) (h : start + len ≤ n)
    {place : Nat} (hplace : place < len) :
    (slice block start len h)[place]? = block[start + place]? := by
  rw [Vector.getElem?_eq_getElem hplace, Vector.getElem?_eq_getElem (by omega), getElem_slice]

/-! ## Words of zero bytes -/

@[simp]
theorem toUInt16_zero : toUInt16 (zero 2) = 0 := rfl

@[simp]
theorem toUInt32_zero : toUInt32 (zero 4) = 0 := rfl

@[simp]
theorem toInt32_zero : toInt32 (zero 4) = 0 := rfl

/-! ## Writes -/

/-- A write that fits replaces a range and keeps everything around it. -/
theorem toList_write {n : Nat} (block : Block n) (start : Nat) (bytes : List UInt8)
    (h : start + bytes.length ≤ n) :
    (write block start bytes).toList =
      block.toList.take start ++ bytes ++ block.toList.drop (start + bytes.length) := by
  apply List.ext_getElem
  · simp
    omega
  · intro i hleft _
    have hi : i < n := by simpa using hleft
    rw [Vector.getElem_toList, getElem_write]
    by_cases hbefore : i < start
    · rw [dif_neg (by omega), List.getElem_append_left (by simp; omega),
        List.getElem_append_left (by simp; omega)]
      simp
    · by_cases hwithin : i - start < bytes.length
      · rw [dif_pos ⟨by omega, hwithin⟩, List.getElem_append_left (by simp; omega),
          List.getElem_append_right (by simp; omega)]
        congr 1
        simp
        omega
      · rw [dif_neg (by omega), List.getElem_append_right (by simp; omega)]
        simp
        congr 1
        omega

/-- What stands behind a write is not touched by it. -/
theorem drop_write_behind {n : Nat} (block : Block n) (start stop : Nat) (bytes : List UInt8)
    (h : start + bytes.length ≤ stop) :
    (write block start bytes).toList.drop stop = block.toList.drop stop := by
  apply List.ext_getElem
  · simp
  · intro i _ _
    rw [List.getElem_drop, List.getElem_drop, Vector.getElem_toList, Vector.getElem_toList,
      getElem_write, dif_neg (by omega)]

theorem drop_write_at {n : Nat} (block : Block n) (start : Nat) (bytes : List UInt8)
    (h : start + bytes.length ≤ n) :
    (write block start bytes).toList.drop start =
      bytes ++ block.toList.drop (start + bytes.length) := by
  rw [toList_write block start bytes h, List.append_assoc]
  exact List.drop_left' (by simp; omega)

theorem take_write_front {n : Nat} (block : Block n) (bytes : List UInt8)
    (h : bytes.length ≤ n) : (write block 0 bytes).toList.take bytes.length = bytes := by
  rw [toList_write block 0 bytes (by omega)]
  simp

theorem write_append_left {m k w : Nat} (left : Block m) (right : Block k) (start : Nat)
    (part : Block w) (h : start + w ≤ m) :
    write (left ++ right) start part.toList = write left start part.toList ++ right := by
  ext i hi
  rw [getElem_write, Vector.getElem_append, Vector.getElem_append]
  by_cases hleft : i < m
  · simp [hleft, getElem_write]
  · rw [dif_neg (by simp; omega), dif_neg hleft, dif_neg hleft]

theorem write_append_self {m k : Nat} (left : Block m) (right part : Block k) (start : Nat)
    (hstart : start = m) : write (left ++ right) start part.toList = left ++ part := by
  subst hstart
  ext i hi
  rw [getElem_write, Vector.getElem_append, Vector.getElem_append]
  by_cases hleft : i < start
  · rw [dif_neg (by omega), dif_pos hleft, dif_pos hleft]
  · rw [dif_pos (by simp; omega), dif_neg hleft]
    simp

theorem write_all {n : Nat} (block part : Block n) : write block 0 part.toList = part := by
  ext i hi
  simp [getElem_write, hi]

/-- Writing the same bytes again changes nothing. -/
theorem write_write {n : Nat} (block : Block n) (start : Nat) (bytes : List UInt8) :
    write (write block start bytes) start bytes = write block start bytes := by
  ext i hi
  rw [getElem_write, getElem_write]
  split <;> rfl

/-- Writing over a slice and putting the slice back is writing over the block. -/
theorem write_write_slice {n w : Nat} (block : Block n) (start len first : Nat) (part : Block w)
    (h : start + len ≤ n) (hinner : first + w ≤ len) :
    write block start (write (slice block start len h) first part.toList).toList =
      write block (start + first) part.toList := by
  ext i hi
  rw [getElem_write, getElem_write]
  by_cases hrange : start ≤ i ∧ i - start < len
  · rw [dif_pos (by simpa using hrange), Vector.getElem_toList, getElem_write]
    by_cases hpart : first ≤ i - start ∧ i - start - first < w
    · rw [dif_pos (by simpa using hpart), dif_pos (by simp; omega)]
      simp only [Nat.sub_sub]
    · rw [dif_neg (by simpa using hpart), dif_neg (by simp; omega), getElem_slice]
      simp only [Nat.add_sub_cancel' hrange.1]
  · rw [dif_neg (by simpa using hrange), dif_neg (by simp; omega)]

/-- A slice over the written range reads what was written. -/
theorem slice_write_self {n w : Nat} (block : Block n) (start : Nat) (part : Block w)
    (h : start + w ≤ n) : slice (write block start part.toList) start w h = part := by
  ext i hi
  simp [getElem_write, hi]

/-- A slice over a range apart from the written one reads what stood there. -/
theorem slice_write_apart {n w : Nat} (block : Block n) (start first len : Nat) (part : Block w)
    (h : first + len ≤ n) (hapart : start + w ≤ first ∨ first + len ≤ start) :
    slice (write block start part.toList) first len h = slice block first len h := by
  ext i hi
  rw [getElem_slice, getElem_slice, getElem_write, dif_neg (by simp; omega)]

/-! ## Agreement -/

def AgreeOn {n : Nat} (left right : Block n) (start stop : Nat) : Prop :=
  ∀ position, start ≤ position → position < stop → left[position]? = right[position]?

namespace AgreeOn

variable {n start stop : Nat} {left right : Block n}

theorem slice_eq (h : left.AgreeOn right start stop) (first count : Nat)
    (hfits : first + count ≤ n := by decide) (hfirst : start ≤ first := by decide)
    (hlast : first + count ≤ stop := by decide) :
    left.slice first count hfits = right.slice first count hfits := by
  ext i hi
  have hagree := h (first + i) (by omega) (by omega)
  rw [Vector.getElem?_eq_getElem (by omega), Vector.getElem?_eq_getElem (by omega)] at hagree
  rw [getElem_slice, getElem_slice, Option.some.inj hagree]

theorem slice (first count : Nat) (h : left.AgreeOn right (first + start) (first + stop))
    (hfits : first + count ≤ n := by decide) (hstop : stop ≤ count := by decide) :
    (left.slice first count hfits).AgreeOn (right.slice first count hfits) start stop := by
  intro position hstart hposition
  rw [getElem?_slice _ _ _ _ (by omega), getElem?_slice _ _ _ _ (by omega)]
  exact h (first + position) (by omega) (by omega)

end AgreeOn

/-! ## Prefixes -/

/-- A block is read back from the front of whatever begins with it. -/
theorem ofPrefix?_append {n : Nat} (block : Block n) (rest : List UInt8) :
    ofPrefix? n (block.toList ++ rest) = some block := by
  have hlength : block.toList.length = n := Vector.length_toList
  have hfits : n ≤ (block.toList ++ rest).length := by
    rw [List.length_append]
    omega
  rw [ofPrefix?, dif_pos hfits]
  congr 1
  apply Vector.toList_inj.mp
  exact List.take_left' hlength

end Block

end BindTrace
