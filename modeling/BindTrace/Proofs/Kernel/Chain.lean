import BindTrace.Proofs.Kernel.Readable

/-! # Chains of pointers

A number that the kernel tells of a task stands at the end of a chain: pointers
are followed from the task to a structure, and the number is read there. A chain
breaks where a pointer is null or cannot be read, where a pid claims to be
nested too deep, and where the number itself cannot be read. What a chain tells
depends on nothing but the bytes that it reads, the failing reads included.
-/

namespace BindTrace

namespace Memory

def Within (address : UInt64) (n place : Nat) : Prop :=
  address.toNat ≤ place ∧ place < address.toNat + n

variable {memory other : Memory} {address : UInt64}

/-- Memories with the same bytes in a range read the same there. -/
theorem read?_congr {n : Nat}
    (same : ∀ place, Within address n place → other.byte? place = memory.byte? place) :
    other.read? address n = memory.read? address n := by
  refine Option.ext fun block => ?_
  rw [read?_eq_some_iff, read?_eq_some_iff]
  refine forall_congr' fun i => forall_congr' fun hi => ?_
  rw [same _ ⟨Nat.le_add_right _ _, Nat.add_lt_add_left hi _⟩]

theorem word32?_congr
    (same : ∀ place, Within address 4 place → other.byte? place = memory.byte? place) :
    other.word32? address = memory.word32? address :=
  congrArg (Option.map Block.toUInt32) (read?_congr same)

theorem word64?_congr
    (same : ∀ place, Within address 8 place → other.byte? place = memory.byte? place) :
    other.word64? address = memory.word64? address :=
  congrArg (Option.map Block.toUInt64) (read?_congr same)

theorem word32?_eq_none_iff : memory.word32? address = none ↔ ¬ memory.Mapped address 4 := by
  rw [word32?, Option.map_eq_none_iff, read?_eq_none_iff]

/-- One lost byte makes a read fail. -/
theorem not_mapped_of_lost {n place : Nat} (within : Within address n place)
    (lost : memory.byte? place = none) : ¬ memory.Mapped address n := by
  intro mapped
  obtain ⟨hfirst, hlast⟩ := within
  have hbyte := mapped ⟨place - address.toNat, by omega⟩
  rw [Nat.add_sub_cancel' hfirst, lost] at hbyte
  cases hbyte

/-! ## Numbers of two widths -/

inductive Width
  | word32
  | word64
deriving DecidableEq

namespace Width

def bytes : Width → Nat
  | word32 => 4
  | word64 => 8

end Width

def number? (memory : Memory) (address : UInt64) : Width → Option UInt64
  | .word32 => (memory.word32? address).map UInt32.toUInt64
  | .word64 => memory.word64? address

theorem number?_eq_none_iff {width : Width} :
    memory.number? address width = none ↔ ¬ memory.Mapped address width.bytes := by
  cases width with
  | word32 => rw [number?, Option.map_eq_none_iff, word32?_eq_none_iff, Width.bytes]
  | word64 => rw [number?, word64?_eq_none_iff, Width.bytes]

theorem number?_congr {width : Width}
    (same : ∀ place, Within address width.bytes place → other.byte? place = memory.byte? place) :
    other.number? address width = memory.number? address width := by
  cases width with
  | word32 => exact congrArg (Option.map UInt32.toUInt64) (word32?_congr same)
  | word64 => exact word64?_congr same

end Memory

namespace KernelMemory

open Memory (Within Width)

/-- What a chain ends in: a member of a structure, or the number of a pid at its own level. -/
inductive ChainEnd
  | member (width : Width) (offset : UInt64)
  | ownNumber

/-- The pointers from a task to a structure, by their offsets, and the number that is read there. -/
structure Chain where
  pointers : List UInt64
  last : ChainEnd

/-! ## What chains tell, and where they break -/

/-- The level of a pid, which counts as the outermost if it cannot be read. -/
inductive LevelOf (memory : KernelMemory) (pid : UInt64) : UInt32 → Prop
  | read {level : UInt32} (hlevel : memory.word32? (pid + Layout.pidLevel) = some level) :
      LevelOf memory pid level
  | unread (unmapped : ¬ memory.Mapped (pid + Layout.pidLevel) 4) : LevelOf memory pid 0

/-- Where in a structure the number of a chain stands, and how wide it is. -/
inductive StandsAt (memory : KernelMemory) (base : UInt64) : ChainEnd → UInt64 → Width → Prop
  | member (width : Width) (offset : UInt64) :
      StandsAt memory base (.member width offset) (base + offset) width
  | ownNumber {level : UInt32} (hlevel : memory.LevelOf base level)
      (shallow : level < Layout.pidLevelLimit) :
      StandsAt memory base .ownNumber
        (base + Layout.pidNumbers + level.toUInt64 * Layout.pidNumberStride) .word32

/-- Every pointer leads to a structure, and the number in the last one is this. -/
inductive Tells (memory : KernelMemory) (last : ChainEnd) :
    List UInt64 → UInt64 → UInt64 → Prop
  | here {base address value : UInt64} {width : Width} (present : base ≠ 0)
      (stands : memory.StandsAt base last address width)
      (number : memory.number? address width = some value) : Tells memory last [] base value
  | beyond {base offset target value : UInt64} {rest : List UInt64} (present : base ≠ 0)
      (pointer : memory.word64? (base + offset) = some target)
      (onward : Tells memory last rest target value) : Tells memory last (offset :: rest) base value

/-- A pointer of the chain is null or cannot be read, or there is no number at its end. -/
inductive Breaks (memory : KernelMemory) (last : ChainEnd) : List UInt64 → UInt64 → Prop
  | null (pointers : List UInt64) : Breaks memory last pointers 0
  | pointerUnread {base offset : UInt64} {rest : List UInt64}
      (unmapped : ¬ memory.Mapped (base + offset) 8) : Breaks memory last (offset :: rest) base
  | beyond {base offset target : UInt64} {rest : List UInt64}
      (pointer : memory.word64? (base + offset) = some target)
      (onward : Breaks memory last rest target) : Breaks memory last (offset :: rest) base
  | tooDeep {base : UInt64} {level : UInt32} (own : last = .ownNumber)
      (hlevel : memory.LevelOf base level) (deep : Layout.pidLevelLimit ≤ level) :
      Breaks memory last [] base
  | numberUnread {base address : UInt64} {width : Width}
      (stands : memory.StandsAt base last address width)
      (unmapped : ¬ memory.Mapped address width.bytes) : Breaks memory last [] base

/-! ## The number of a chain, computed -/

def levelOf (memory : KernelMemory) (pid : UInt64) : UInt32 :=
  (memory.word32? (pid + Layout.pidLevel)).getD 0

/-- Where the number stands, unless it is that of a pid which is nested too deep. -/
def spot? (memory : KernelMemory) (base : UInt64) : ChainEnd → Option (UInt64 × Width)
  | .member width offset => some (base + offset, width)
  | .ownNumber =>
      let level := memory.levelOf base
      if Layout.pidLevelLimit ≤ level then none
      else some (base + Layout.pidNumbers + level.toUInt64 * Layout.pidNumberStride, .word32)

def follow? (memory : KernelMemory) (last : ChainEnd) : List UInt64 → UInt64 → Option UInt64
  | [], base =>
      if base = 0 then none
      else (memory.spot? base last).bind fun spot => memory.number? spot.1 spot.2
  | offset :: rest, base =>
      if base = 0 then none
      else (memory.word64? (base + offset)).bind fun target => memory.follow? last rest target

variable {memory other : KernelMemory} {last : ChainEnd} {pointers : List UInt64} {base : UInt64}

theorem levelOf_eq_iff {level : UInt32} :
    memory.levelOf base = level ↔ memory.LevelOf base level := by
  unfold levelOf
  cases hlevel : memory.word32? (base + Layout.pidLevel) with
  | none =>
      have hunmapped := Memory.word32?_eq_none_iff.mp hlevel
      constructor
      · rintro rfl
        exact .unread hunmapped
      · rintro (hread | -)
        · rw [hlevel] at hread
          cases hread
        · rfl
  | some found =>
      constructor
      · rintro rfl
        exact .read hlevel
      · rintro (hread | hunmapped)
        · rw [hlevel] at hread
          exact Option.some.inj hread
        · rw [Memory.word32?_eq_none_iff.mpr hunmapped] at hlevel
          cases hlevel

theorem spot?_eq_some_iff {address : UInt64} {width : Width} :
    memory.spot? base last = some (address, width) ↔ memory.StandsAt base last address width := by
  constructor
  · intro h
    cases last with
    | member =>
        obtain ⟨rfl, rfl⟩ := Prod.mk.inj (Option.some.inj h)
        exact .member _ _
    | ownNumber =>
        rw [spot?] at h
        split at h
        · cases h
        · next shallow =>
            obtain ⟨rfl, rfl⟩ := Prod.mk.inj (Option.some.inj h)
            exact .ownNumber (levelOf_eq_iff.mp rfl) (UInt32.not_le.mp shallow)
  · rintro (_ | ⟨hlevel, shallow⟩)
    · rfl
    · rw [spot?, levelOf_eq_iff.mpr hlevel, if_neg (UInt32.not_le.mpr shallow)]

theorem spot?_eq_none_iff :
    memory.spot? base last = none ↔
      last = .ownNumber ∧ ∃ level, memory.LevelOf base level ∧ Layout.pidLevelLimit ≤ level := by
  cases last with
  | member => simp [spot?]
  | ownNumber =>
      rw [spot?]
      split
      · next deep => exact ⟨fun _ => ⟨rfl, _, levelOf_eq_iff.mp rfl, deep⟩, fun _ => rfl⟩
      · next shallow =>
          refine ⟨nofun, ?_⟩
          rintro ⟨-, level, hlevel, deep⟩
          rw [levelOf_eq_iff.mpr hlevel] at shallow
          exact absurd deep shallow

theorem follow?_eq_some_iff {value : UInt64} :
    memory.follow? last pointers base = some value ↔ memory.Tells last pointers base value := by
  constructor
  · intro h
    induction pointers generalizing base with
    | nil =>
        rw [follow?] at h
        split at h
        · cases h
        · next present =>
            obtain ⟨⟨address, width⟩, hspot, hnumber⟩ := Option.bind_eq_some_iff.mp h
            exact .here present (spot?_eq_some_iff.mp hspot) hnumber
    | cons offset rest ih =>
        rw [follow?] at h
        split at h
        · cases h
        · next present =>
            obtain ⟨target, hpointer, honward⟩ := Option.bind_eq_some_iff.mp h
            exact .beyond present hpointer (ih honward)
  · intro h
    induction h with
    | here present stands number =>
        rw [follow?, if_neg present, spot?_eq_some_iff.mpr stands]
        exact number
    | beyond present pointer _ ih =>
        rw [follow?, if_neg present, pointer]
        exact ih

theorem follow?_eq_none_iff :
    memory.follow? last pointers base = none ↔ memory.Breaks last pointers base := by
  constructor
  · intro h
    induction pointers generalizing base with
    | nil =>
        rw [follow?] at h
        split at h
        · next null => exact null ▸ .null []
        · cases hspot : memory.spot? base last with
          | none =>
              obtain ⟨own, level, hlevel, deep⟩ := spot?_eq_none_iff.mp hspot
              exact .tooDeep own hlevel deep
          | some spot =>
              rw [hspot] at h
              exact .numberUnread (spot?_eq_some_iff.mp hspot) (Memory.number?_eq_none_iff.mp h)
    | cons offset rest ih =>
        rw [follow?] at h
        split at h
        · next null => exact null ▸ .null (offset :: rest)
        · cases hpointer : memory.word64? (base + offset) with
          | none => exact .pointerUnread (Memory.word64?_eq_none_iff.mp hpointer)
          | some target =>
              rw [hpointer] at h
              exact .beyond hpointer (ih h)
  · intro h
    induction h with
    | null pointers => cases pointers <;> rfl
    | pointerUnread unmapped =>
        rw [follow?, Memory.word64?_eq_none_iff.mpr unmapped]
        exact ite_self none
    | beyond pointer _ ih =>
        rw [follow?, pointer, Option.bind_some, ih]
        exact ite_self none
    | tooDeep own hlevel deep =>
        rw [follow?, spot?_eq_none_iff.mpr ⟨own, _, hlevel, deep⟩]
        exact ite_self none
    | numberUnread stands unmapped =>
        rw [follow?, spot?_eq_some_iff.mpr stands, Option.bind_some,
          Memory.number?_eq_none_iff.mpr unmapped]
        exact ite_self none

/-- A chain tells a number or breaks. -/
theorem tells_or_breaks (memory : KernelMemory) (last : ChainEnd) (pointers : List UInt64)
    (base : UInt64) :
    (∃ value, memory.Tells last pointers base value) ∨ memory.Breaks last pointers base := by
  cases h : memory.follow? last pointers base with
  | none => exact .inr (follow?_eq_none_iff.mp h)
  | some value => exact .inl ⟨value, follow?_eq_some_iff.mp h⟩

/-! ## What chains read -/

inductive Purpose
  | vital
  | level

/-- The places at which a chain reads, also where the read fails. -/
inductive Reads (memory : KernelMemory) (last : ChainEnd) :
    List UInt64 → UInt64 → Purpose → Nat → Prop
  | pointer {base offset : UInt64} {rest : List UInt64} {place : Nat} (present : base ≠ 0)
      (within : Within (base + offset) 8 place) :
      Reads memory last (offset :: rest) base .vital place
  | beyond {base offset target : UInt64} {rest : List UInt64} {purpose : Purpose} {place : Nat}
      (present : base ≠ 0) (pointer : memory.word64? (base + offset) = some target)
      (onward : Reads memory last rest target purpose place) :
      Reads memory last (offset :: rest) base purpose place
  | level {base : UInt64} {place : Nat} (present : base ≠ 0) (own : last = .ownNumber)
      (within : Within (base + Layout.pidLevel) 4 place) : Reads memory last [] base .level place
  | number {base address : UInt64} {width : Width} {place : Nat} (present : base ≠ 0)
      (stands : memory.StandsAt base last address width)
      (within : Within address width.bytes place) : Reads memory last [] base .vital place

/-- Where a pid has its level, memories agree on where its own number stands. -/
theorem spot?_congr (present : base ≠ 0)
    (same : ∀ place, memory.Reads last [] base .level place →
      other.byte? place = memory.byte? place) :
    other.spot? base last = memory.spot? base last := by
  cases last with
  | member => rfl
  | ownNumber =>
      have hlevel : other.levelOf base = memory.levelOf base :=
        congrArg (Option.getD · 0)
          (Memory.word32?_congr fun place within => same place (.level present rfl within))
      rw [spot?, spot?, hlevel]

/-- Memories with the same bytes where a chain reads have the same number at its end. -/
theorem follow?_congr
    (same : ∀ purpose place, memory.Reads last pointers base purpose place →
      other.byte? place = memory.byte? place) :
    other.follow? last pointers base = memory.follow? last pointers base := by
  -- The pointers read so far are the same, so both memories go on from the same place.
  induction pointers generalizing base with
  | nil =>
      rw [follow?, follow?]
      by_cases null : base = 0
      · rw [if_pos null, if_pos null]
      · rw [if_neg null, if_neg null, spot?_congr null fun place => same .level place]
        cases hspot : memory.spot? base last with
        | none => rfl
        | some spot =>
            exact Memory.number?_congr fun place within =>
              same .vital place (.number null (spot?_eq_some_iff.mp hspot) within)
  | cons offset rest ih =>
      rw [follow?, follow?]
      by_cases null : base = 0
      · rw [if_pos null, if_pos null]
      · rw [if_neg null, if_neg null,
          Memory.word64?_congr fun place within => same .vital place (.pointer null within)]
        cases hpointer : memory.word64? (base + offset) with
        | none => rfl
        | some target =>
            exact ih fun purpose place onward => same purpose place (.beyond null hpointer onward)

/-- The one memory is the other with some bytes lost. -/
def LosesFrom (other memory : KernelMemory) : Prop :=
  ∀ place, other.byte? place = none ∨ other.byte? place = memory.byte? place

/-- A read of a memory with lost bytes fails or reads what was there. -/
theorem LosesFrom.word64? (loses : other.LosesFrom memory) (address : UInt64) :
    other.word64? address = none ∨ other.word64? address = memory.word64? address := by
  by_cases kept : ∀ place, Within address 8 place → other.byte? place = memory.byte? place
  · exact .inr (Memory.word64?_congr kept)
  · obtain ⟨place, changed⟩ := Classical.not_forall.mp kept
    obtain ⟨within, changed⟩ := Classical.not_imp.mp changed
    have lost : other.byte? place = none := (loses place).resolve_right changed
    exact .inl (Memory.word64?_eq_none_iff.mpr (Memory.not_mapped_of_lost within lost))

/-- A chain that has lost a vital byte, and none of its level, breaks. -/
theorem LosesFrom.breaks (loses : other.LosesFrom memory) {place : Nat}
    (vital : memory.Reads last pointers base .vital place) (lost : other.byte? place = none)
    (kept : ∀ place, memory.Reads last pointers base .level place →
      other.byte? place = memory.byte? place) : other.Breaks last pointers base := by
  induction pointers generalizing base with
  | nil =>
      cases vital with
      | number present stands within =>
          -- With its level kept, a pid has its number where it was.
          have hspot := (spot?_congr present kept).trans (spot?_eq_some_iff.mpr stands)
          exact .numberUnread (spot?_eq_some_iff.mp hspot)
            (Memory.not_mapped_of_lost within lost)
  | cons offset rest ih =>
      cases vital with
      | pointer _ within => exact .pointerUnread (Memory.not_mapped_of_lost within lost)
      | beyond present pointer onward =>
          -- The pointer on the way is lost as well, or leads to the same place as before.
          rcases loses.word64? (base + offset) with hlost | hsame
          · exact .pointerUnread (Memory.word64?_eq_none_iff.mp hlost)
          · exact .beyond (hsame.trans pointer)
              (ih onward fun place hlevel => kept place (.beyond present pointer hlevel))

end KernelMemory

end BindTrace
