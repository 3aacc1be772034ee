import BindTrace.Machine
import BindTrace.Proofs.Bytes.Slices
import BindTrace.Proofs.Capture.Ending

/-! # Paths as the names on the way to the root

A path is the names of the directory entries on the way up, each with a slash
before it, the last name first when climbing. The climb builds it backwards at
the end of the scratch buffer: what it returns is the written suffix, so the
path depends on the kernel memory alone and on nothing the buffer held before,
also when reading a name fails halfway.
-/

namespace BindTrace

namespace KernelMemory

/-! ## The path of a task -/

def name? (memory : KernelMemory) (dentry : UInt64) : Option (List UInt8) := do
  let ref ← memory.nameRef? dentry
  let bytes ← memory.read? ref.address ref.length
  some bytes.toList

def components (memory : KernelMemory) : Nat → UInt64 → List (List UInt8)
  | 0, _ => []
  | depth + 1, dentry =>
      match memory.parent? dentry, memory.name? dentry with
      | some parent, some name => name :: memory.components depth parent
      | _, _ => []

/-- The path of names that are given from the last to the first. -/
def absolute : List (List UInt8) → List UInt8
  | [] => []
  | name :: above => absolute above ++ slash :: name

def rooted : List (List UInt8) → List UInt8
  | [] => [slash]
  | name :: above => absolute (name :: above)

def resolvedPath (memory : KernelMemory) (task : UInt64) (path : PathKind) : List UInt8 :=
  match memory.leaf? task path with
  | none => []
  | some leaf => rooted (memory.components componentLimit leaf)

/-! ## The climb -/

theorem name?_of_read {memory : KernelMemory} {dentry : UInt64} {ref : NameRef}
    {bytes : Block ref.length} (href : memory.nameRef? dentry = some ref)
    (hread : memory.read? ref.address ref.length = some bytes) :
    memory.name? dentry = some bytes.toList := by
  simp [name?, href, hread]

theorem nameRef?_length_le {memory : KernelMemory} {dentry : UInt64} {ref : NameRef}
    (href : memory.nameRef? dentry = some ref) : ref.length ≤ nameLimit := by
  unfold nameRef? at href
  cases hread : memory.read? (dentry + Layout.dentryName) 16 with
  | none => simp [hread] at href
  | some block =>
      rw [hread, Option.map_some, Option.some.injEq] at href
      rw [← href]
      exact Nat.min_le_right _ _

theorem climb_of_lost {memory : KernelMemory} {dentry : UInt64}
    (lost : memory.parent? dentry = none ∨ memory.nameRef? dentry = none) (depth : Nat)
    (buffer : PathBuffer) : memory.climb (depth + 1) dentry buffer = buffer := by
  unfold climb
  cases hparent : memory.parent? dentry with
  | none => rfl
  | some parent =>
      cases href : memory.nameRef? dentry with
      | none => rfl
      | some ref => simp [hparent, href] at lost

theorem components_of_lost {memory : KernelMemory} {dentry : UInt64}
    (lost : memory.parent? dentry = none ∨ memory.name? dentry = none) (depth : Nat) :
    memory.components (depth + 1) dentry = [] := by
  unfold components
  cases hparent : memory.parent? dentry with
  | none => rfl
  | some parent =>
      cases href : memory.name? dentry with
      | none => rfl
      | some ref => simp [hparent, href] at lost

theorem components_of_read {memory : KernelMemory} {dentry parent : UInt64} {name : List UInt8}
    (hparent : memory.parent? dentry = some parent) (hname : memory.name? dentry = some name)
    (depth : Nat) :
    memory.components (depth + 1) dentry = name :: memory.components depth parent := by
  conv => lhs; unfold components
  rw [hparent, hname]

theorem climb_of_unread {memory : KernelMemory} {dentry parent : UInt64} {ref : NameRef}
    {buffer : PathBuffer} (hparent : memory.parent? dentry = some parent)
    (href : memory.nameRef? dentry = some ref) (hfits : ref.length + 1 ≤ buffer.position)
    (hread : memory.read? ref.address ref.length = none) (depth : Nat) :
    memory.climb (depth + 1) dentry buffer =
      { buffer with
        scratch := buffer.scratch.write (buffer.position - ref.length)
          (List.replicate ref.length 0) } := by
  unfold climb
  rw [hparent, href]
  dsimp only
  rw [if_neg (by omega), readInto, hread]
  rfl

theorem climb_of_read {memory : KernelMemory} {dentry parent : UInt64} {ref : NameRef}
    {bytes : Block ref.length}
    {buffer : PathBuffer} (hparent : memory.parent? dentry = some parent)
    (href : memory.nameRef? dentry = some ref) (hfits : ref.length + 1 ≤ buffer.position)
    (hread : memory.read? ref.address ref.length = some bytes) (depth : Nat) :
    memory.climb (depth + 1) dentry buffer =
      memory.climb depth parent
        { scratch := (buffer.scratch.write (buffer.position - ref.length) bytes.toList).write
            (buffer.position - ref.length - 1) [slash]
          position := buffer.position - ref.length - 1 } := by
  conv => lhs; unfold climb
  rw [hparent, href]
  dsimp only
  rw [if_neg (by omega), readInto, hread]
  rfl

/-- A name with a slash before it, written in front of the path. -/
theorem drop_write_name (scratch : Scratch) {position : Nat} (name : List UInt8)
    (hroom : name.length + 1 ≤ position) (hend : position ≤ scratchSize) :
    ((scratch.write (position - name.length) name).write
        (position - name.length - 1) [slash]).toList.drop (position - name.length - 1) =
      slash :: name ++ scratch.toList.drop position := by
  have hslash : position - name.length - 1 + 1 = position - name.length := by omega
  have hname : position - name.length + name.length = position := by omega
  rw [Block.drop_write_at _ _ _ (by simp; omega), List.length_singleton, hslash,
    Block.drop_write_at _ _ _ (by omega), hname]
  rfl

/-- A climb writes its components in front of the path, and changes nothing behind. -/
theorem climb_suffix (memory : KernelMemory) (depth : Nat) (dentry : UInt64) (buffer : PathBuffer)
    (hroom : 256 * depth ≤ buffer.position) (hend : buffer.position ≤ scratchSize) :
    (memory.climb depth dentry buffer).scratch.toList.drop
        (memory.climb depth dentry buffer).position =
      absolute (memory.components depth dentry) ++ buffer.scratch.toList.drop buffer.position ∧
    (memory.climb depth dentry buffer).position +
        (absolute (memory.components depth dentry)).length = buffer.position := by
  induction depth generalizing dentry buffer with
  | zero => exact ⟨rfl, rfl⟩
  | succ depth ih =>
      cases hparent : memory.parent? dentry with
      | none =>
          rw [climb_of_lost (.inl hparent), components_of_lost (.inl hparent)]
          exact ⟨rfl, rfl⟩
      | some parent =>
          cases href : memory.nameRef? dentry with
          | none =>
              have hname : memory.name? dentry = none := by rw [name?, href]; rfl
              rw [climb_of_lost (.inr href), components_of_lost (.inr hname)]
              exact ⟨rfl, rfl⟩
          | some ref =>
              have hlimit : ref.length ≤ 255 := nameRef?_length_le href
              have hfits : ref.length + 1 ≤ buffer.position := by omega
              cases hread : memory.read? ref.address ref.length with
              | none =>
                  have hname : memory.name? dentry = none := by
                    rw [name?, href]
                    change (memory.read? ref.address ref.length).bind _ = none
                    rw [hread]
                    rfl
                  have hbehind : buffer.position - ref.length +
                      (List.replicate ref.length (0 : UInt8)).length ≤ buffer.position := by
                    rw [List.length_replicate]
                    omega
                  rw [climb_of_unread hparent href hfits hread, components_of_lost (.inr hname)]
                  exact ⟨Block.drop_write_behind _ _ _ _ hbehind, rfl⟩
              | some bytes =>
                  have hname := name?_of_read href hread
                  have hlength : bytes.toList.length = ref.length := Vector.length_toList
                  have hsuffix := drop_write_name buffer.scratch bytes.toList (by omega) hend
                  rw [climb_of_read hparent href hfits hread,
                    components_of_read hparent hname, absolute]
                  rw [hlength] at hsuffix
                  obtain ⟨hdrop, hposition⟩ := ih parent
                    { scratch := (buffer.scratch.write (buffer.position - ref.length)
                        bytes.toList).write (buffer.position - ref.length - 1) [slash]
                      position := buffer.position - ref.length - 1 }
                    (by dsimp only; omega) (by dsimp only; omega)
                  dsimp only at hposition
                  refine ⟨?_, ?_⟩
                  · rw [hdrop, hsuffix, List.append_assoc]
                  · rw [List.length_append, List.length_cons, hlength]
                    omega

theorem length_absolute_pos (name : List UInt8) (above : List (List UInt8)) :
    0 < (absolute (name :: above)).length := by
  rw [absolute, List.length_append, List.length_cons]
  omega

theorem orRoot_suffix {buffer : PathBuffer} {names : List (List UInt8)}
    (hdrop : buffer.scratch.toList.drop buffer.position = absolute names)
    (hposition : buffer.position + (absolute names).length = scratchSize) :
    (orRoot buffer).scratch.toList.drop (orRoot buffer).position = rooted names := by
  cases names with
  | nil =>
      have hlast : (buffer.scratch.write (scratchSize - 1) [slash]).toList.drop
          (scratchSize - 1) = [slash] := by
        rw [Block.drop_write_at _ _ _ (by decide)]
        simp
      have hend : buffer.position = scratchSize := hposition
      rw [orRoot, if_pos hend]
      exact hlast
  | cons name above =>
      have hpos := length_absolute_pos name above
      rw [orRoot, if_neg (by omega)]
      exact hdrop

/-- Sixteen names of 255 bytes fit, so the buffer always holds the whole path. -/
theorem assemblePath_eq (memory : KernelMemory) (task : UInt64) (path : PathKind)
    (scratch : Scratch) :
    (memory.assemblePath task path scratch).2 = memory.resolvedPath task path := by
  unfold assemblePath resolvedPath
  cases hleaf : memory.leaf? task path with
  | none => rfl
  | some leaf =>
      have hroom : 256 * componentLimit ≤ scratchSize := by decide
      obtain ⟨hdrop, hposition⟩ := memory.climb_suffix componentLimit leaf
        { scratch := scratch, position := scratchSize } hroom (Nat.le_refl _)
      have hempty : scratch.toList.drop scratchSize = [] := by simp
      rw [hempty, List.append_nil] at hdrop
      exact orRoot_suffix hdrop hposition

theorem length_resolvedPath (memory : KernelMemory) (task : UInt64) (path : PathKind) :
    (memory.resolvedPath task path).length ≤ scratchSize := by
  rw [← memory.assemblePath_eq task path (Block.zero scratchSize)]
  unfold assemblePath
  cases memory.leaf? task path with
  | none => exact Nat.zero_le _
  | some leaf =>
      dsimp only
      rw [List.length_drop, Vector.length_toList]
      exact Nat.sub_le _ _

end KernelMemory

/-- What a probe learns about the paths of its task does not depend on the scratch buffer. -/
theorem Machine.surroundings_assembles (machine : Machine) (syscall : Int32) :
    (machine.surroundings syscall).Assembles
      (machine.kernelMemory.resolvedPath machine.task) := by
  intro path scratch
  exact machine.kernelMemory.assemblePath_eq machine.task path scratch

end BindTrace
