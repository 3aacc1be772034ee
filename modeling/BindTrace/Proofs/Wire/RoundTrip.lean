import BindTrace.Proofs.Bytes.Slices
import BindTrace.Wire.Image
import BindTrace.Wire.PathSlot

/-! # Byte images read back

Every part of an event is read back from its image as it was, and every block
of the right size is the image of what is read from it. The event read from
zero bytes is zero in every field.
-/

namespace BindTrace

open Block

/-! ## Reading what was written -/

@[simp]
theorem Header.ofBlock_toBlock (header : Header) : Header.ofBlock header.toBlock = header := by
  simp (disch := decide) only [Header.ofBlock, Header.toBlock, slice_append_self,
    slice_append_left, slice_all, toInt32_ofInt32, toUInt16_ofUInt16, toUInt32_ofUInt32]

@[simp]
theorem Stamp.ofBlock_toBlock (stamp : Stamp) : Stamp.ofBlock stamp.toBlock = stamp := by
  simp (disch := decide) only [Stamp.ofBlock, Stamp.toBlock, slice_append_self,
    slice_append_left, slice_all, toInt32_ofInt32, toUInt16_ofUInt16, toUInt64_ofUInt64]

@[simp]
theorem Identity.ofBlock_toBlock (identity : Identity) :
    Identity.ofBlock identity.toBlock = identity := by
  simp (disch := decide) only [Identity.ofBlock, Identity.toBlock, slice_append_self,
    slice_append_left, slice_all, toUInt32_ofUInt32, toUInt64_ofUInt64]

@[simp]
theorem Node.ofBlock_toBlock (node : Node) : Node.ofBlock node.toBlock = node := by
  simp (disch := decide) only [Node.ofBlock, Node.toBlock, slice_append_self,
    slice_append_left, slice_all]

@[simp]
theorem Context.ofBlock_toBlock (context : Context) :
    Context.ofBlock context.toBlock = context := by
  simp (disch := decide) only [Context.ofBlock, Context.toBlock, slice_append_self,
    slice_append_left, slice_all, Stamp.ofBlock_toBlock, Identity.ofBlock_toBlock,
    Node.ofBlock_toBlock]

@[simp]
theorem PathSlot.ofBlock_toBlock (slot : PathSlot) : PathSlot.ofBlock slot.toBlock = slot := by
  simp (disch := decide) only [PathSlot.ofBlock, PathSlot.toBlock, slice_append_self,
    slice_append_left, slice_all, toUInt32_ofUInt32]

/-- An event is read back from its image as it was. -/
@[simp]
theorem Event.ofBlock_toBlock (event : Event) : Event.ofBlock event.toBlock = event := by
  simp (disch := decide) only [Event.ofBlock, Event.toBlock, slice_append_self,
    slice_append_left, slice_all, Header.ofBlock_toBlock, Context.ofBlock_toBlock,
    PathSlot.ofBlock_toBlock]

/-! ## Writing what was read -/

@[simp]
theorem Header.toBlock_ofBlock (block : Block Header.size) :
    (Header.ofBlock block).toBlock = block := by
  simp (disch := decide) only [Header.ofBlock, Header.toBlock, ofInt32_toInt32,
    ofUInt16_toUInt16, ofUInt32_toUInt32, slice_append_next]
  exact slice_all block _

@[simp]
theorem Stamp.toBlock_ofBlock (block : Block Stamp.size) :
    (Stamp.ofBlock block).toBlock = block := by
  simp (disch := decide) only [Stamp.ofBlock, Stamp.toBlock, ofUInt64_toUInt64,
    ofInt32_toInt32, ofUInt16_toUInt16, slice_append_next]
  exact slice_all block _

@[simp]
theorem Identity.toBlock_ofBlock (block : Block Identity.size) :
    (Identity.ofBlock block).toBlock = block := by
  simp (disch := decide) only [Identity.ofBlock, Identity.toBlock, ofUInt64_toUInt64,
    ofUInt32_toUInt32, slice_append_next]
  exact slice_all block _

@[simp]
theorem Node.toBlock_ofBlock (block : Block Node.size) : (Node.ofBlock block).toBlock = block := by
  simp (disch := decide) only [Node.ofBlock, Node.toBlock, slice_append_next]
  exact slice_all block _

@[simp]
theorem Context.toBlock_ofBlock (block : Block Context.size) :
    (Context.ofBlock block).toBlock = block := by
  simp (disch := decide) only [Context.ofBlock, Context.toBlock, Stamp.toBlock_ofBlock,
    Identity.toBlock_ofBlock, Node.toBlock_ofBlock, slice_append_next]
  exact slice_all block _

@[simp]
theorem PathSlot.toBlock_ofBlock (block : Block PathSlot.size) :
    (PathSlot.ofBlock block).toBlock = block := by
  simp (disch := decide) only [PathSlot.ofBlock, PathSlot.toBlock, ofUInt32_toUInt32,
    slice_append_next]
  exact slice_all block _

/-- Every block of the size of a record is the image of the event in it. -/
@[simp]
theorem Event.toBlock_ofBlock (block : Block Event.size) :
    (Event.ofBlock block).toBlock = block := by
  simp (disch := decide) only [Event.ofBlock, Event.toBlock, Header.toBlock_ofBlock,
    Context.toBlock_ofBlock, PathSlot.toBlock_ofBlock, slice_append_next]
  exact slice_all block _

/-! ## Zero bytes -/

/-- The header of which every byte is zero. -/
def Header.zero : Header where
  kind := 0
  fd := 0
  addrLength := 0
  result := 0
  family := 0
  port := 0
  v4 := Block.zero 4
  v6 := Block.zero 16
  unixPath := Block.zero unixPathSize
  pad := 0

@[simp]
theorem Header.ofBlock_zero : Header.ofBlock (Block.zero Header.size) = Header.zero := by
  simp only [Header.ofBlock, slice_zero, toInt32_zero, toUInt16_zero, toUInt32_zero, Header.zero]

@[simp]
theorem PathSlot.ofBlock_zero : PathSlot.ofBlock (Block.zero PathSlot.size) = PathSlot.zero := by
  simp only [PathSlot.ofBlock, slice_zero, toUInt32_zero, PathSlot.zero]

def Context.zero : Context :=
  Context.ofBlock (Block.zero Context.size)

@[simp]
theorem Context.pad_stamp_zero : Context.zero.stamp.pad = Block.zero 2 := by
  simp only [Context.zero, Context.ofBlock, Stamp.ofBlock, slice_zero]

@[simp]
theorem Context.pad_zero : Context.zero.pad = Block.zero 2 := by
  simp only [Context.zero, Context.ofBlock, slice_zero]

def Event.zero : Event where
  header := Header.zero
  context := Context.zero
  cwd := PathSlot.zero
  exe := PathSlot.zero

theorem Event.ofBlock_zero : Event.ofBlock (Block.zero Event.size) = Event.zero := by
  simp only [Event.ofBlock, slice_zero, Header.ofBlock_zero, PathSlot.ofBlock_zero, Event.zero,
    Context.zero]

end BindTrace
