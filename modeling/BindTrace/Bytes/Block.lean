/-!
# Fixed-size byte blocks

`Block n` holds exactly `n` bytes.  Wire fields, ring slots and scratch buffers are blocks; byte
strings of no fixed size are lists.  A slice copies a range out of a block, a write copies a string
over one, and both are described byte by byte.
-/

namespace BindTrace

abbrev Block (n : Nat) := Vector UInt8 n

namespace Block

def fill (n : Nat) (value : UInt8) : Block n :=
  Vector.replicate n value

def zero (n : Nat) : Block n :=
  fill n 0

def slice {n : Nat} (block : Block n) (start len : Nat) (h : start + len ≤ n := by decide) :
    Block len :=
  Vector.ofFn fun i => block[start + i.val]

/--
Copies `bytes` over the block from offset `start`.  Bytes that would land past the end are lost.
-/
def write {n : Nat} (block : Block n) (start : Nat) : List UInt8 → Block n
  | [] => block
  | byte :: rest => write (block.setIfInBounds start byte) (start + 1) rest

/-- The first `n` bytes of a string that has that many. -/
def ofPrefix? (n : Nat) (bytes : List UInt8) : Option (Block n) :=
  if h : n ≤ bytes.length then
    some ⟨(bytes.take n).toArray, by simp [h]⟩
  else
    none

/-- The first `n` bytes of a string, with zeros behind a shorter one. -/
def ofPadded (n : Nat) (bytes : List UInt8) : Block n :=
  write (zero n) 0 bytes

@[simp]
theorem getElem_fill {n : Nat} (value : UInt8) (i : Nat) (h : i < n) :
    (fill n value)[i] = value := by
  simp [fill]

@[simp]
theorem getElem_zero {n : Nat} (i : Nat) (h : i < n) : (zero n)[i] = 0 := by
  simp [zero]

@[simp]
theorem getElem_slice {n : Nat} (block : Block n) (start len : Nat) (h : start + len ≤ n)
    (i : Nat) (hi : i < len) :
    (slice block start len h)[i] = block[start + i] := by
  simp [slice]

theorem getElem_write {n : Nat} (block : Block n) (start : Nat) (bytes : List UInt8)
    (i : Nat) (h : i < n) :
    (write block start bytes)[i] =
      if hi : start ≤ i ∧ i - start < bytes.length then bytes[i - start] else block[i] := by
  induction bytes generalizing block start with
  | nil => simp [write]
  | cons byte rest ih =>
      rw [write, ih]
      by_cases hlt : i < start
      · rw [dif_neg (by omega), dif_neg (by omega), Vector.getElem_setIfInBounds]
        simp [show start ≠ i by omega]
      · by_cases heq : i = start
        · subst heq
          rw [dif_neg (by omega), dif_pos (by simp), Vector.getElem_setIfInBounds]
          simp
        · have hsub : i - start = (i - (start + 1)) + 1 := by omega
          by_cases hlen : i - (start + 1) < rest.length
          · rw [dif_pos (by omega), dif_pos ⟨by omega, by simp; omega⟩]
            simp [hsub]
          · rw [dif_neg (by omega), dif_neg (by simp; omega), Vector.getElem_setIfInBounds]
            simp [show start ≠ i by omega]

/-- Two neighbouring slices make up the slice over both ranges. -/
theorem slice_append_slice {n : Nat} (block : Block n) (start m k : Nat)
    (h : start + (m + k) ≤ n) :
    slice block start m (by omega) ++ slice block (start + m) k (by omega) =
      slice block start (m + k) h := by
  ext i hi
  rw [Vector.getElem_append]
  split
  · simp
  · simp [show start + m + (i - m) = start + i by omega]

@[simp]
theorem slice_all {n : Nat} (block : Block n) (h : 0 + n ≤ n) : slice block 0 n h = block := by
  ext i hi
  simp

/-- A slice that ends within the left part of an append reads that part. -/
theorem slice_append_left {m k : Nat} (left : Block m) (right : Block k) (start len : Nat)
    (h : start + len ≤ m) :
    slice (left ++ right) start len (by omega) = slice left start len h := by
  ext i hi
  simp [show start + i < m by omega]

end Block

end BindTrace
