import BindTrace.Kernel.Registers
import BindTrace.Kernel.Task

/-! # The call that is entered

The registers of the caller tell which system call is entered, and with which
arguments. They count only as a whole: where a pointer is missing or null, or
one of the bytes behind it is not mapped, the call is taken for a `bind` with
all arguments zero.
-/

namespace BindTrace

namespace KernelMemory

variable {memory : KernelMemory} {pointer : Option UInt64}

/-- A pointer that is there and not null leads to these bytes. -/
inductive HoldsRegisters (memory : KernelMemory) : Option UInt64 → Block 168 → Prop
  | behind {address : UInt64} {block : Block 168} (present : address ≠ 0)
      (bytes : ∀ i (h : i < 168), memory.byte? (address.toNat + i) = some block[i]) :
      HoldsRegisters memory (some address) block

/-- The arguments and the number of a call, as the registers behind a pointer tell them. -/
inductive Enters (memory : KernelMemory) (pointer : Option UInt64) : CallArguments → Int32 → Prop
  | told {block : Block 168} (held : memory.HoldsRegisters pointer block) :
      Enters memory pointer
        { fd := (Block.toUInt64 (block.slice 112 8)).toUInt32.toInt32
          address := Block.toUInt64 (block.slice 104 8)
          addrLength := (Block.toUInt64 (block.slice 96 8)).toUInt32.toInt32 }
        (Block.toUInt64 (block.slice 120 8)).toUInt32.toInt32
  | untold (lost : ∀ block, ¬ memory.HoldsRegisters pointer block) :
      Enters memory pointer { fd := 0, address := 0, addrLength := 0 } 49

theorem registers_eq_some_iff {block : Block 168} :
    Registers.read? memory pointer = some { block := block } ↔
      memory.HoldsRegisters pointer block := by
  constructor
  · intro h
    cases pointer with
    | none => cases h
    | some address =>
        rw [Registers.read?] at h
        split at h
        · cases h
        · next present =>
            obtain ⟨_, hblock, hsame⟩ := Option.map_eq_some_iff.mp h
            cases hsame
            exact .behind present (Memory.read?_eq_some_iff.mp hblock)
  · rintro ⟨present, bytes⟩
    rw [Registers.read?, if_neg present, Memory.read?_eq_some_iff.mpr bytes]
    rfl

/-- What is entered is told by the registers that are read, and by nothing else. -/
theorem enters_iff {args : CallArguments} {syscall : Int32} :
    memory.Enters pointer args syscall ↔
      ((Registers.read? memory pointer).map Registers.callArguments).getD {} = args ∧
        ((Registers.read? memory pointer).map Registers.syscall).getD bindSyscall = syscall := by
  cases hread : Registers.read? memory pointer with
  | none =>
      have hlost : ∀ block, ¬ memory.HoldsRegisters pointer block := by
        intro block held
        cases hread.symm.trans (registers_eq_some_iff.mpr held)
      constructor
      · rintro (held | -)
        · exact absurd held (hlost _)
        · exact ⟨rfl, rfl⟩
      · rintro ⟨rfl, rfl⟩
        exact .untold hlost
  | some registers =>
      have held := registers_eq_some_iff.mp hread
      constructor
      · rintro (other | lost)
        · cases hread.symm.trans (registers_eq_some_iff.mpr other)
          exact ⟨rfl, rfl⟩
        · exact absurd held (lost _)
      · rintro ⟨rfl, rfl⟩
        exact .told held

theorem exists_enters (memory : KernelMemory) (pointer : Option UInt64) :
    ∃ args syscall, memory.Enters pointer args syscall :=
  ⟨_, _, enters_iff.mpr ⟨rfl, rfl⟩⟩

end KernelMemory

end BindTrace
