import BindTrace.Proofs.Bytes.Slices

/-! # Fields and the ranges of bytes they own

A part of a structure has its place in the byte image of the whole: the image
of the part stands there, and setting the part writes over that place and over
nothing else. A part of a part has a place again. Fields are where this ends,
words and plain bytes; fields that follow each other without a gap share the
image out among them.
-/

namespace BindTrace

open Block

/-! ## Values of fields -/

/-- A little-endian word, or plain bytes. -/
inductive Scalar where
  | u16
  | u32
  | u64
  | i32
  | bytes (count : Nat)
deriving DecidableEq

namespace Scalar

abbrev Value : Scalar → Type
  | u16 => UInt16
  | u32 => UInt32
  | u64 => UInt64
  | i32 => Int32
  | bytes count => Block count

abbrev width : Scalar → Nat
  | u16 => 2
  | u32 => 4
  | u64 => 8
  | i32 => 4
  | bytes count => count

abbrev image : (scalar : Scalar) → scalar.Value → Block scalar.width
  | u16, word => ofUInt16 word
  | u32, word => ofUInt32 word
  | u64, word => ofUInt64 word
  | i32, word => ofInt32 word
  | bytes _, block => block

/--
The byte at a place of a value: the low byte of a word behind that many bytes, a negative one in
two's complement, or the byte that is there.
-/
def byte : (scalar : Scalar) → scalar.Value → Nat → UInt8
  | u16, word, place => UInt8.ofNat (word.toNat >>> (8 * place))
  | u32, word, place => UInt8.ofNat (word.toNat >>> (8 * place))
  | u64, word, place => UInt8.ofNat (word.toNat >>> (8 * place))
  | i32, word, place => UInt8.ofNat (word.toUInt32.toNat >>> (8 * place))
  | bytes _, block, place => block[place]?.getD 0

theorem getElem_image (scalar : Scalar) (value : scalar.Value) (place : Nat)
    (h : place < scalar.width) : (scalar.image value)[place] = scalar.byte value place := by
  cases scalar with
  | u16 => exact getElem_ofNat 2 _ place h
  | u32 => exact getElem_ofNat 4 _ place h
  | u64 => exact getElem_ofNat 8 _ place h
  | i32 => exact getElem_ofNat 4 _ place h
  | bytes count => simp [byte, h]

theorem image_inj (scalar : Scalar) {value other : scalar.Value}
    (h : scalar.image value = scalar.image other) : value = other := by
  cases scalar with
  | u16 => simpa using congrArg toUInt16 h
  | u32 => simpa using congrArg toUInt32 h
  | u64 => simpa using congrArg toUInt64 h
  | i32 => simpa using congrArg toInt32 h
  | bytes count => exact h

end Scalar

/-! ## Parts -/

/-- A part of `α`: where its bytes start in the image of the whole, how it is read and set. -/
structure Part (α β : Type) where
  start : Nat
  get : α → β
  set : α → β → α

namespace Part

variable {α β γ : Type} {n m k : Nat}

def within (outer : Part α β) (inner : Part β γ) : Part α γ where
  start := outer.start + inner.start
  get whole := inner.get (outer.get whole)
  set whole value := outer.set whole (inner.set (outer.get whole) value)

/-- The image of the part stands at its place, and setting the part writes there alone. -/
structure Sits (part : Part α β) (whole : α → Block n) (image : β → Block m) : Prop where
  fits : part.start + m ≤ n
  read : ∀ a, (whole a).slice part.start m fits = image (part.get a)
  write : ∀ a value, whole (part.set a value) = (whole a).write part.start (image value).toList

namespace Sits

variable {whole : α → Block n} {image : β → Block m} {last : γ → Block k}

theorem within {outer : Part α β} {inner : Part β γ} (ho : outer.Sits whole image)
    (hi : inner.Sits image last) : (outer.within inner).Sits whole last := by
  have houter := ho.fits
  have hinner := hi.fits
  have hfits : outer.start + inner.start + k ≤ n := by omega
  refine ⟨hfits, fun a => ?_, fun a value => ?_⟩
  · have hread := slice_slice (whole a) outer.start m inner.start k houter hinner
    rw [ho.read, hi.read] at hread
    exact hread.symm
  · -- To write into the part and the part into the whole is one write into the whole.
    have hwrite := ho.write a (inner.set (outer.get a) value)
    rw [hi.write, ← ho.read, write_write_slice _ _ _ _ _ houter hinner] at hwrite
    exact hwrite

variable {part : Part α β} {other : Part α γ}

theorem image_set (h : part.Sits whole image) (a : α) (value : β) :
    image (part.get (part.set a value)) = image value := by
  rw [← h.read, h.write, slice_write_self]

theorem image_set_apart (h : part.Sits whole image) (hother : other.Sits whole last) (a : α)
    (value : β) (hapart : part.start + m ≤ other.start ∨ other.start + k ≤ part.start) :
    last (other.get (part.set a value)) = last (other.get a) := by
  rw [← hother.read, ← hother.read, h.write, slice_write_apart _ _ _ _ _ _ hapart]

theorem getElem_set_apart (h : part.Sits whole image) (a : α) (value : β) (position : Nat)
    (hapart : position < part.start ∨ part.start + m ≤ position) (hposition : position < n) :
    (whole (part.set a value))[position] = (whole a)[position] := by
  simp only [h.write]
  rw [getElem_write, dif_neg (by simp; omega)]

end Sits

end Part

/-! ## Fields -/

structure Field (α : Type) where
  scalar : Scalar
  part : Part α scalar.Value

namespace Field

variable {α β : Type} {n m : Nat}

def start (field : Field α) : Nat :=
  field.part.start

def width (field : Field α) : Nat :=
  field.scalar.width

def get (field : Field α) : α → field.scalar.Value :=
  field.part.get

def set (field : Field α) : α → field.scalar.Value → α :=
  field.part.set

def range (field : Field α) : Nat × Nat :=
  (field.start, field.width)

def within (outer : Part α β) (field : Field β) : Field α where
  scalar := field.scalar
  part := outer.within field.part

def Covers (field : Field α) (position : Nat) : Prop :=
  field.start ≤ position ∧ position < field.start + field.width

instance (field : Field α) (position : Nat) : Decidable (field.Covers position) :=
  inferInstanceAs (Decidable (_ ∧ _))

def Apart (field other : Field α) : Prop :=
  field.start + field.width ≤ other.start ∨ other.start + other.width ≤ field.start

def Sits (field : Field α) (whole : α → Block n) : Prop :=
  field.part.Sits whole field.scalar.image

namespace Sits

variable {field other : Field α} {whole : α → Block n}

theorem getElem_byte (h : field.Sits whole) (a : α) (place : Nat) (hplace : place < field.width) :
    (whole a)[field.start + place]? = some (field.scalar.byte (field.get a) place) := by
  have hfits : field.start + field.width ≤ n := h.fits
  have hread : (whole a).slice field.start field.width hfits = field.scalar.image (field.get a) :=
    h.read a
  rw [Vector.getElem?_eq_getElem (by omega)]
  congr 1
  calc
    (whole a)[field.start + place] = ((whole a).slice field.start field.width hfits)[place] := by
      rw [getElem_slice]
    _ = (field.scalar.image (field.get a))[place] :=
      congrArg (fun block : Block field.width => block[place]) hread
    _ = field.scalar.byte (field.get a) place :=
      field.scalar.getElem_image (field.get a) place hplace

theorem get_set (h : field.Sits whole) (a : α) (value : field.scalar.Value) :
    field.get (field.set a value) = value :=
  field.scalar.image_inj (h.image_set a value)

theorem get_set_apart (h : field.Sits whole) (hother : other.Sits whole)
    (hapart : field.Apart other) (a : α) (value : field.scalar.Value) :
    other.get (field.set a value) = other.get a :=
  other.scalar.image_inj (h.image_set_apart hother a value hapart)

theorem getElem_set (h : field.Sits whole) (a : α) (value : field.scalar.Value) (position : Nat)
    (houtside : ¬ field.Covers position) :
    (whole (field.set a value))[position]? = (whole a)[position]? := by
  have hapart : position < field.start ∨ field.start + field.width ≤ position := by
    unfold Covers at houtside
    omega
  by_cases hposition : position < n
  · rw [Vector.getElem?_eq_getElem hposition, Vector.getElem?_eq_getElem hposition]
    exact congrArg some (h.getElem_set_apart a value position hapart hposition)
  · rw [Vector.getElem?_eq_none (by omega), Vector.getElem?_eq_none (by omega)]

end Sits

end Field

/-! ## Fields without a gap -/

/-- The fields follow each other from `start` to `stop`. -/
def Tiled {α : Type} : List (Field α) → Nat → Nat → Prop
  | [], start, stop => start = stop
  | field :: rest, start, stop => field.start = start ∧ Tiled rest (start + field.width) stop

instance decidableTiled {α : Type} : (fields : List (Field α)) → (start stop : Nat) →
    Decidable (Tiled fields start stop)
  | [], start, stop => inferInstanceAs (Decidable (start = stop))
  | field :: rest, start, stop =>
      have := decidableTiled rest (start + field.width) stop
      inferInstanceAs (Decidable (field.start = start ∧ Tiled rest (start + field.width) stop))

namespace Tiled

variable {α β : Type} {fields others : List (Field α)} {start middle stop : Nat}

theorem append (h : Tiled fields start middle) (hothers : Tiled others middle stop) :
    Tiled (fields ++ others) start stop := by
  induction fields generalizing start with
  | nil =>
      have heq : start = middle := h
      exact heq ▸ hothers
  | cons field rest ih => exact ⟨h.1, ih h.2⟩

theorem within (h : Tiled fields start stop) (outer : Part β α) :
    Tiled (fields.map (Field.within outer)) (outer.start + start) (outer.start + stop) := by
  induction fields generalizing start with
  | nil => exact congrArg (outer.start + ·) h
  | cons field rest ih =>
      have hrest := ih h.2
      rw [← Nat.add_assoc] at hrest
      exact ⟨congrArg (outer.start + ·) h.1, hrest⟩

theorem start_le (h : Tiled fields start stop) {field : Field α} (hfield : field ∈ fields) :
    start ≤ field.start := by
  induction fields generalizing start with
  | nil => simp at hfield
  | cons head rest ih =>
      have hhead : head.start = start := h.1
      rcases List.mem_cons.mp hfield with rfl | hrest
      · omega
      · have hle := ih h.2 hrest
        omega

theorem exists_covers (h : Tiled fields start stop) {position : Nat} (hstart : start ≤ position)
    (hstop : position < stop) : ∃ field ∈ fields, field.Covers position := by
  induction fields generalizing start with
  | nil =>
      have heq : start = stop := h
      omega
  | cons field rest ih =>
      have hfield : field.start = start := h.1
      by_cases hwithin : position < start + field.width
      · exact ⟨field, by simp, by unfold Field.Covers; omega⟩
      · obtain ⟨other, hother, hcovers⟩ := ih h.2 (by omega)
        exact ⟨other, by simp [hother], hcovers⟩

theorem apart (h : Tiled fields start stop) {field other : Field α} (hfield : field ∈ fields)
    (hother : other ∈ fields) (hne : other ≠ field) : field.Apart other := by
  induction fields generalizing start with
  | nil => simp at hfield
  | cons head rest ih =>
      have hhead : head.start = start := h.1
      unfold Field.Apart
      rcases List.mem_cons.mp hfield with rfl | hlater
      · rcases List.mem_cons.mp hother with rfl | hbehind
        · exact absurd rfl hne
        · have hle := h.2.start_le hbehind
          omega
      · rcases List.mem_cons.mp hother with rfl | hbehind
        · have hle := h.2.start_le hlater
          omega
        · exact ih h.2 hlater hbehind

theorem eq_of_covers (h : Tiled fields start stop) {field other : Field α}
    (hfield : field ∈ fields) (hother : other ∈ fields) {position : Nat}
    (hcovers : field.Covers position) (hcovered : other.Covers position) : other = field := by
  apply Classical.byContradiction
  intro hne
  have hapart := h.apart hfield hother hne
  unfold Field.Covers at hcovers hcovered
  unfold Field.Apart at hapart
  omega

end Tiled

/-- Fields that share the image of a structure out among them. -/
structure Layout {α : Type} {n : Nat} (fields : List (Field α)) (image : α → Block n) : Prop where
  sits : ∀ field ∈ fields, field.Sits image
  tiled : Tiled fields 0 n

/-- The fields of a part are fields of the whole. -/
theorem Layout.sits_within {α β : Type} {n m : Nat} {fields : List (Field β)}
    {image : β → Block m} {whole : α → Block n} (h : Layout fields image) {part : Part α β}
    (hpart : part.Sits whole image) :
    ∀ field ∈ fields.map (Field.within part), field.Sits whole := by
  intro field hfield
  obtain ⟨inner, hinner, rfl⟩ := List.mem_map.mp hfield
  exact hpart.within (h.sits inner hinner)

end BindTrace
