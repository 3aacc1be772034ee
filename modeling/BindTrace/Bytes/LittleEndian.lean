import BindTrace.Bytes.Block

/-!
# Little-endian words

A word of `width` bytes is written least significant byte first.  Reading undoes writing and writing
undoes reading, for every fixed-width integer type that occurs on the wire.
-/

namespace BindTrace

namespace LittleEndian

/-- The `width` low bytes of a number, least significant first. -/
def ofNat : Nat → Nat → List UInt8
  | 0, _ => []
  | width + 1, n => UInt8.ofNat n :: ofNat width (n / 256)

def toNat : List UInt8 → Nat
  | [] => 0
  | byte :: rest => byte.toNat + 256 * toNat rest

/-- How many numbers `width` bytes can spell. -/
def bound : Nat → Nat
  | 0 => 1
  | width + 1 => 256 * bound width

@[simp]
theorem length_ofNat (width n : Nat) : (ofNat width n).length = width := by
  induction width generalizing n with
  | zero => rfl
  | succ width ih => simp [ofNat, ih]

/-- The byte at a place is the low byte of the number behind that many bytes. -/
theorem getElem_ofNat (width n place : Nat) (h : place < (ofNat width n).length) :
    (ofNat width n)[place] = UInt8.ofNat (n >>> (8 * place)) := by
  induction width generalizing n place with
  | zero => simp at h
  | succ width ih =>
      cases place with
      | zero => simp [ofNat]
      | succ place =>
          have hrest : place < (ofNat width (n / 256)).length := by simpa using h
          have hbyte : n >>> 8 = n / 256 := Nat.shiftRight_eq_div_pow n 8
          have hshift : (n / 256) >>> (8 * place) = n >>> (8 * (place + 1)) := by
            rw [Nat.mul_succ, Nat.add_comm, Nat.shiftRight_add, hbyte]
          simp only [ofNat, List.getElem_cons_succ, ih (n / 256) place hrest, hshift]

theorem toNat_ofNat (width n : Nat) : toNat (ofNat width n) = n % bound width := by
  induction width generalizing n with
  | zero => simp [ofNat, toNat, bound, Nat.mod_one]
  | succ width ih =>
      have hsplit : n % (256 * bound width) = n % 256 + 256 * (n / 256 % bound width) :=
        Nat.mod_mul
      rw [ofNat, toNat, ih, UInt8.toNat_ofNat', bound, hsplit]

theorem toNat_lt (bytes : List UInt8) : toNat bytes < bound bytes.length := by
  induction bytes with
  | nil => simp [toNat, bound]
  | cons byte rest ih =>
      have hbyte : byte.toNat < 256 := byte.toNat_lt
      rw [toNat, List.length_cons, bound]
      omega

theorem ofNat_toNat (bytes : List UInt8) : ofNat bytes.length (toNat bytes) = bytes := by
  induction bytes with
  | nil => rfl
  | cons byte rest ih =>
      have hbyte : byte.toNat < 256 := byte.toNat_lt
      rw [List.length_cons, ofNat, toNat]
      congr 1
      · apply UInt8.toNat_inj.mp
        rw [UInt8.toNat_ofNat']
        omega
      · rw [Nat.add_mul_div_left _ _ (by omega), Nat.div_eq_of_lt hbyte, Nat.zero_add, ih]

end LittleEndian

namespace Block

def ofNat (width n : Nat) : Block width :=
  ⟨(LittleEndian.ofNat width n).toArray, by simp⟩

def toNat {width : Nat} (block : Block width) : Nat :=
  LittleEndian.toNat block.toList

theorem getElem_ofNat (width n place : Nat) (h : place < width) :
    (ofNat width n)[place] = UInt8.ofNat (n >>> (8 * place)) :=
  LittleEndian.getElem_ofNat width n place (by simpa using h)

theorem toNat_ofNat (width n : Nat) : toNat (ofNat width n) = n % LittleEndian.bound width := by
  simp [toNat, ofNat, Vector.toList, LittleEndian.toNat_ofNat]

theorem toNat_lt {width : Nat} (block : Block width) : toNat block < LittleEndian.bound width := by
  have h := LittleEndian.toNat_lt block.toList
  rwa [Vector.length_toList] at h

theorem ofNat_toNat {width : Nat} (block : Block width) : ofNat width (toNat block) = block := by
  have h := LittleEndian.ofNat_toNat block.toList
  rw [Vector.length_toList] at h
  apply Vector.toList_inj.mp
  simpa [ofNat, toNat, Vector.toList] using h

def ofUInt16 (word : UInt16) : Block 2 := ofNat 2 word.toNat

def toUInt16 (block : Block 2) : UInt16 := UInt16.ofNat (toNat block)

def ofUInt32 (word : UInt32) : Block 4 := ofNat 4 word.toNat

def toUInt32 (block : Block 4) : UInt32 := UInt32.ofNat (toNat block)

def ofUInt64 (word : UInt64) : Block 8 := ofNat 8 word.toNat

def toUInt64 (block : Block 8) : UInt64 := UInt64.ofNat (toNat block)

def ofInt32 (word : Int32) : Block 4 := ofUInt32 word.toUInt32

def toInt32 (block : Block 4) : Int32 := (toUInt32 block).toInt32

@[simp]
theorem toUInt16_ofUInt16 (word : UInt16) : toUInt16 (ofUInt16 word) = word := by
  apply UInt16.toNat_inj.mp
  have h : word.toNat < 65536 := word.toNat_lt
  have hbound : LittleEndian.bound 2 = 65536 := rfl
  rw [toUInt16, ofUInt16, toNat_ofNat, UInt16.toNat_ofNat', hbound]
  omega

@[simp]
theorem ofUInt16_toUInt16 (block : Block 2) : ofUInt16 (toUInt16 block) = block := by
  have h : toNat block < 65536 := toNat_lt block
  rw [ofUInt16, toUInt16, UInt16.toNat_ofNat', Nat.mod_eq_of_lt h, ofNat_toNat]

@[simp]
theorem toUInt32_ofUInt32 (word : UInt32) : toUInt32 (ofUInt32 word) = word := by
  apply UInt32.toNat_inj.mp
  have h : word.toNat < 4294967296 := word.toNat_lt
  have hbound : LittleEndian.bound 4 = 4294967296 := rfl
  rw [toUInt32, ofUInt32, toNat_ofNat, UInt32.toNat_ofNat', hbound]
  omega

@[simp]
theorem ofUInt32_toUInt32 (block : Block 4) : ofUInt32 (toUInt32 block) = block := by
  have h : toNat block < 4294967296 := toNat_lt block
  rw [ofUInt32, toUInt32, UInt32.toNat_ofNat', Nat.mod_eq_of_lt h, ofNat_toNat]

@[simp]
theorem toUInt64_ofUInt64 (word : UInt64) : toUInt64 (ofUInt64 word) = word := by
  apply UInt64.toNat_inj.mp
  have h : word.toNat < 18446744073709551616 := word.toNat_lt
  have hbound : LittleEndian.bound 8 = 18446744073709551616 := rfl
  rw [toUInt64, ofUInt64, toNat_ofNat, UInt64.toNat_ofNat', hbound]
  omega

@[simp]
theorem ofUInt64_toUInt64 (block : Block 8) : ofUInt64 (toUInt64 block) = block := by
  have h : toNat block < 18446744073709551616 := toNat_lt block
  rw [ofUInt64, toUInt64, UInt64.toNat_ofNat', Nat.mod_eq_of_lt h, ofNat_toNat]

@[simp]
theorem toInt32_ofInt32 (word : Int32) : toInt32 (ofInt32 word) = word := by
  simp [toInt32, ofInt32]

@[simp]
theorem ofInt32_toInt32 (block : Block 4) : ofInt32 (toInt32 block) = block := by
  simp [toInt32, ofInt32]

end Block

end BindTrace
