import BindTrace.Capture.Site

/-!
# Arguments of a system call

The kernel hands a system call the registers of the caller by pointer.  The block of saved
registers is read whole; the arguments of the call are in three of its words and the call's number
in a fourth.
-/

namespace BindTrace

structure Registers where
  block : Block 168

namespace Registers

/-- The registers at a pointer that is neither missing nor null. -/
def read? (memory : Memory) (pointer : Option UInt64) : Option Registers :=
  match pointer with
  | none => none
  | some address =>
      if address = 0 then none
      else (memory.read? address 168).map fun block => { block := block }

def rdi (registers : Registers) : UInt64 :=
  Block.toUInt64 (registers.block.slice 112 8)

def rsi (registers : Registers) : UInt64 :=
  Block.toUInt64 (registers.block.slice 104 8)

def rdx (registers : Registers) : UInt64 :=
  Block.toUInt64 (registers.block.slice 96 8)

def origRax (registers : Registers) : UInt64 :=
  Block.toUInt64 (registers.block.slice 120 8)

def syscall (registers : Registers) : Int32 :=
  (lowWord registers.origRax).toInt32

def callArguments (registers : Registers) : CallArguments where
  fd := (lowWord registers.rdi).toInt32
  address := registers.rsi
  addrLength := (lowWord registers.rdx).toInt32

end Registers

end BindTrace
