import BindTrace.Address.Basic
import BindTrace.Memory

/-!
# Decoding addresses from memory

The family tag is read first and alone.  Once it is known, the body is read in the size that the
family fixes, whatever length the caller of `bind(2)` claims.
-/

namespace BindTrace

/-- Exchanges the two bytes of a word: network order to host order and back. -/
def swapBytes (word : UInt16) : UInt16 :=
  (word >>> 8) ||| (word <<< 8)

namespace SocketAddress

def ipv4Size : Nat := 16

def ipv6Size : Nat := 28

def unixSize : Nat := 110

def ofIpv4Block (block : Block 16) : SocketAddress :=
  ipv4 (block.slice 4 4) (swapBytes (Block.toUInt16 (block.slice 2 2)))

def ofIpv6Block (block : Block 28) : SocketAddress :=
  ipv6 (block.slice 8 16) (swapBytes (Block.toUInt16 (block.slice 2 2)))

def ofUnixBlock (block : Block 110) : SocketAddress :=
  unix (block.slice 2 108)

/-- The body of an address by its family, if the family is decoded and the body is mapped. -/
def body? (memory : Memory) (pointer : UInt64) (family : UInt16) : Option SocketAddress :=
  if family = familyIpv4 then (memory.read? pointer ipv4Size).map ofIpv4Block
  else if family = familyIpv6 then (memory.read? pointer ipv6Size).map ofIpv6Block
  else if family = familyUnix then (memory.read? pointer unixSize).map ofUnixBlock
  else none

/--
The address at a pointer: none if the pointer is null or not even the tag can be read, and the tag
alone if the body cannot be read.
-/
def decode? (memory : Memory) (pointer : UInt64) : Option SocketAddress :=
  if pointer = 0 then none
  else
    (memory.word16? pointer).map fun family =>
      (body? memory pointer family).getD (familyOnly family)

end SocketAddress

end BindTrace
