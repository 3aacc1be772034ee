import BindTrace.Kernel.Task

/-!
# Paths of the current task

A path is put together from its last component to its first: each name is written in front of what
is already there, at the end of the scratch buffer, with a slash before it.  The walk ends at a
directory entry that is its own parent, at one that cannot be read, and after sixteen components.
-/

namespace BindTrace

def componentLimit : Nat := 16

def nameLimit : Nat := 255

def slash : UInt8 := 0x2F

namespace KernelMemory

def directoryLeaf? (memory : KernelMemory) (task : UInt64) : Option UInt64 :=
  if task = 0 then none
  else do
    let fs ← memory.pointer? (task + Layout.taskFs)
    memory.pointer? (fs + Layout.fsPwdDentry)

/-- The directory entry of a task's executable, which kernel threads lack. -/
def executableLeaf? (memory : KernelMemory) (task : UInt64) : Option UInt64 :=
  if task = 0 then none
  else do
    let mm ← memory.pointer? (task + Layout.taskMm)
    let file ← memory.pointer? (mm + Layout.mmExeFile)
    memory.pointer? (file + Layout.fileDentry)

def leaf? (memory : KernelMemory) (task : UInt64) : PathKind → Option UInt64
  | .cwd => memory.directoryLeaf? task
  | .exe => memory.executableLeaf? task

/-- The parent of a directory entry that is not the root of its mount. -/
def parent? (memory : KernelMemory) (dentry : UInt64) : Option UInt64 :=
  (memory.pointer? (dentry + Layout.dentryParent)).filter (· ≠ dentry)

structure NameRef where
  address : UInt64
  length : Nat

/-- The name of a directory entry: the high half of one word is its length, the next its place. -/
def nameRef? (memory : KernelMemory) (dentry : UInt64) : Option NameRef :=
  (memory.read? (dentry + Layout.dentryName) 16).map fun block => {
    address := Block.toUInt64 (block.slice 8 8)
    length := min (highWord (Block.toUInt64 (block.slice 0 8))).toNat nameLimit }

/--
Reads bytes into the buffer.  A read that fails leaves zeros in the place where the bytes were to
go.
-/
def readInto (memory : KernelMemory) (address : UInt64) (length : Nat) (scratch : Scratch)
    (position : Nat) : Bool × Scratch :=
  match memory.read? address length with
  | some bytes => (true, scratch.write position bytes.toList)
  | none => (false, scratch.write position (List.replicate length 0))

structure PathBuffer where
  scratch : Scratch
  position : Nat

/-- Writes the components from a directory entry upwards in front of the path, up to a depth. -/
def climb (memory : KernelMemory) : Nat → UInt64 → PathBuffer → PathBuffer
  | 0, _, buffer => buffer
  | depth + 1, dentry, buffer =>
      match memory.parent? dentry, memory.nameRef? dentry with
      | some parent, some name =>
          if buffer.position < name.length + 1 then buffer
          else
            let start := buffer.position - name.length
            let outcome := memory.readInto name.address name.length buffer.scratch start
            if outcome.1 then
              memory.climb depth parent
                { scratch := outcome.2.write (start - 1) [slash], position := start - 1 }
            else
              { buffer with scratch := outcome.2 }
      | _, _ => buffer

/-- An empty path is shown as the root. -/
def orRoot (buffer : PathBuffer) : PathBuffer :=
  if buffer.position = scratchSize then
    { scratch := buffer.scratch.write (scratchSize - 1) [slash], position := scratchSize - 1 }
  else
    buffer

def assemblePath (memory : KernelMemory) (task : UInt64) (path : PathKind) (scratch : Scratch) :
    Scratch × List UInt8 :=
  match memory.leaf? task path with
  | none => (scratch, [])
  | some leaf =>
      let buffer := orRoot
        (memory.climb componentLimit leaf { scratch := scratch, position := scratchSize })
      (buffer.scratch, buffer.scratch.toList.drop buffer.position)

end KernelMemory

end BindTrace
