import BindTrace.Proofs.Kernel.Path
import BindTrace.Proofs.Kernel.Readable
import Mathlib.Algebra.Ring.Nat

/-! # The way up from a leaf

A path is made of the names that are passed on the way from a leaf to an entry
which cannot be passed, or of sixteen of them. Sixteen names of 255 bytes with a
slash each fill the scratch buffer to its first byte, so the climb comes to each
entry with room for whatever name it has, also where parents form a cycle.
-/

namespace BindTrace

namespace KernelMemory

variable {memory : KernelMemory}

/-! ## Leaves -/

/-- The directory entry at which a path of a task ends. -/
inductive LeafAt (memory : KernelMemory) (task : UInt64) : PathKind → UInt64 → Prop
  | cwd {fs leaf : UInt64} (present : task ≠ 0)
      (hfs : memory.word64? (task + Layout.taskFs) = some fs) (fsPresent : fs ≠ 0)
      (hleaf : memory.word64? (fs + Layout.fsPwdDentry) = some leaf) (leafPresent : leaf ≠ 0) :
      LeafAt memory task .cwd leaf
  | exe {mm file leaf : UInt64} (present : task ≠ 0)
      (hmm : memory.word64? (task + Layout.taskMm) = some mm) (mmPresent : mm ≠ 0)
      (hfile : memory.word64? (mm + Layout.mmExeFile) = some file) (filePresent : file ≠ 0)
      (hleaf : memory.word64? (file + Layout.fileDentry) = some leaf) (leafPresent : leaf ≠ 0) :
      LeafAt memory task .exe leaf

theorem leaf?_eq_some_iff {task leaf : UInt64} {path : PathKind} :
    memory.leaf? task path = some leaf ↔ memory.LeafAt task path leaf := by
  constructor
  · intro h
    cases path with
    | cwd =>
        rw [leaf?, directoryLeaf?] at h
        split at h
        · cases h
        · next present =>
            obtain ⟨fs, hfs, hleaf⟩ := Option.bind_eq_some_iff.mp h
            obtain ⟨hfs, fsPresent⟩ := Memory.pointer?_eq_some_iff.mp hfs
            obtain ⟨hleaf, leafPresent⟩ := Memory.pointer?_eq_some_iff.mp hleaf
            exact .cwd present hfs fsPresent hleaf leafPresent
    | exe =>
        rw [leaf?, executableLeaf?] at h
        split at h
        · cases h
        · next present =>
            obtain ⟨mm, hmm, h⟩ := Option.bind_eq_some_iff.mp h
            obtain ⟨file, hfile, hleaf⟩ := Option.bind_eq_some_iff.mp h
            obtain ⟨hmm, mmPresent⟩ := Memory.pointer?_eq_some_iff.mp hmm
            obtain ⟨hfile, filePresent⟩ := Memory.pointer?_eq_some_iff.mp hfile
            obtain ⟨hleaf, leafPresent⟩ := Memory.pointer?_eq_some_iff.mp hleaf
            exact .exe present hmm mmPresent hfile filePresent hleaf leafPresent
  · intro h
    cases h with
    | cwd present hfs fsPresent hleaf leafPresent =>
        have hfs := Memory.pointer?_eq_some_iff.mpr ⟨hfs, fsPresent⟩
        have hleaf := Memory.pointer?_eq_some_iff.mpr ⟨hleaf, leafPresent⟩
        simp [leaf?, directoryLeaf?, present, hfs, hleaf]
    | exe present hmm mmPresent hfile filePresent hleaf leafPresent =>
        have hmm := Memory.pointer?_eq_some_iff.mpr ⟨hmm, mmPresent⟩
        have hfile := Memory.pointer?_eq_some_iff.mpr ⟨hfile, filePresent⟩
        have hleaf := Memory.pointer?_eq_some_iff.mpr ⟨hleaf, leafPresent⟩
        simp [leaf?, executableLeaf?, present, hmm, hfile, hleaf]

theorem leaf?_eq_none_iff {task : UInt64} {path : PathKind} :
    memory.leaf? task path = none ↔ ∀ leaf, ¬ memory.LeafAt task path leaf := by
  simp only [Option.eq_none_iff_forall_ne_some, ne_eq, leaf?_eq_some_iff]

/-! ## Entries that are passed -/

/-- Bytes of a name of which the first word tells the length in its high half. -/
def nameLength (lengthAndHash : UInt64) : Nat :=
  min (lengthAndHash >>> 32).toNat 255

/-- A directory entry with another entry as its parent, and with a name that can be read. -/
inductive Passes (memory : KernelMemory) (dentry parent : UInt64) : List UInt8 → Prop
  | of {block : Block 16} {name : Block (nameLength (Block.toUInt64 (block.slice 0 8)))}
      (hparent : memory.word64? (dentry + Layout.dentryParent) = some parent)
      (present : parent ≠ 0) (other : parent ≠ dentry)
      (hblock : memory.read? (dentry + Layout.dentryName) 16 = some block)
      (hname : memory.read? (Block.toUInt64 (block.slice 8 8)) _ = some name) :
      Passes memory dentry parent name.toList

theorem parent?_eq_some_iff {dentry parent : UInt64} :
    memory.parent? dentry = some parent ↔
      memory.word64? (dentry + Layout.dentryParent) = some parent ∧ parent ≠ 0 ∧
        parent ≠ dentry := by
  simp [parent?, Option.filter_eq_some_iff, Memory.pointer?_eq_some_iff, and_assoc]

theorem nameLength_eq (lengthAndHash : UInt64) :
    nameLength lengthAndHash = min (highWord lengthAndHash).toNat 255 := by
  rw [nameLength, toNat_highWord, UInt64.toNat_shiftRight, Nat.shiftRight_eq_div_pow]
  rfl

theorem nameRef?_of_block {dentry : UInt64} {block : Block 16}
    (hblock : memory.read? (dentry + Layout.dentryName) 16 = some block) :
    memory.nameRef? dentry = some {
      address := Block.toUInt64 (block.slice 8 8)
      length := nameLength (Block.toUInt64 (block.slice 0 8)) } := by
  rw [nameRef?, hblock, Option.map_some, nameLength_eq]
  rfl

theorem passes_iff {dentry parent : UInt64} {name : List UInt8} :
    memory.Passes dentry parent name ↔
      memory.parent? dentry = some parent ∧ memory.name? dentry = some name := by
  constructor
  · rintro ⟨hparent, present, other, hblock, hname⟩
    exact ⟨parent?_eq_some_iff.mpr ⟨hparent, present, other⟩,
      name?_of_read (nameRef?_of_block hblock) hname⟩
  · rintro ⟨hparent, hname⟩
    obtain ⟨hparent, present, other⟩ := parent?_eq_some_iff.mp hparent
    cases hblock : memory.read? (dentry + Layout.dentryName) 16 with
    | none => simp [name?, nameRef?, hblock] at hname
    | some block =>
        rw [name?, nameRef?_of_block hblock] at hname
        change (memory.read? _ _).bind _ = some name at hname
        obtain ⟨bytes, hbytes, hname⟩ := Option.bind_eq_some_iff.mp hname
        cases hname
        exact .of hparent present other hblock hbytes

/-- What the climb reads at an entry that it passes. -/
theorem Passes.read {dentry parent : UInt64} {name : List UInt8}
    (passes : memory.Passes dentry parent name) :
    ∃ (ref : NameRef) (bytes : Block ref.length), memory.parent? dentry = some parent ∧
      memory.nameRef? dentry = some ref ∧ memory.read? ref.address ref.length = some bytes ∧
      ref.length ≤ 255 := by
  have hparent := (passes_iff.mp passes).1
  cases passes with
  | of _ _ _ hblock hbytes =>
      have href := nameRef?_of_block hblock
      exact ⟨_, _, hparent, href, hbytes, nameRef?_length_le href⟩

/-- What the way from a leaf to an entry passes, from the leaf on. -/
inductive Ascends (memory : KernelMemory) : UInt64 → List (List UInt8) → UInt64 → Prop
  | here (dentry : UInt64) : Ascends memory dentry [] dentry
  | up {leaf parent top : UInt64} {name : List UInt8} {above : List (List UInt8)}
      (passes : memory.Passes leaf parent name) (ascends : Ascends memory parent above top) :
      Ascends memory leaf (name :: above) top

/-- The names of a path, from the last to the first. -/
structure Route (memory : KernelMemory) (leaf : UInt64) (names : List (List UInt8)) : Prop where
  length_le : names.length ≤ componentLimit
  ended : ∃ top, memory.Ascends leaf names top ∧
    (names.length = componentLimit ∨ ∀ parent name, ¬ memory.Passes top parent name)

theorem components_of_not_passes {dentry : UInt64}
    (ended : ∀ parent name, ¬ memory.Passes dentry parent name) (depth : Nat) :
    memory.components depth dentry = [] := by
  cases depth with
  | zero => rfl
  | succ depth =>
      cases hparent : memory.parent? dentry with
      | none => exact components_of_lost (.inl hparent) depth
      | some parent =>
          cases hname : memory.name? dentry with
          | none => exact components_of_lost (.inr hname) depth
          | some name => exact absurd (passes_iff.mpr ⟨hparent, hname⟩) (ended parent name)

theorem Ascends.components_eq {leaf top : UInt64} {names : List (List UInt8)}
    (ascends : memory.Ascends leaf names top) (depth : Nat) :
    memory.components (names.length + depth) leaf = names ++ memory.components depth top := by
  induction ascends with
  | here dentry => rw [List.length_nil, Nat.zero_add, List.nil_append]
  | up passes _ ih =>
      obtain ⟨hparent, hname⟩ := passes_iff.mp passes
      rw [List.length_cons, Nat.add_right_comm, components_of_read hparent hname, ih,
        List.cons_append]

theorem exists_ascends_components (depth : Nat) (leaf : UInt64) :
    (memory.components depth leaf).length ≤ depth ∧
      ∃ top, memory.Ascends leaf (memory.components depth leaf) top ∧
        ((memory.components depth leaf).length = depth ∨
          ∀ parent name, ¬ memory.Passes top parent name) := by
  induction depth generalizing leaf with
  | zero => exact ⟨Nat.le_refl _, leaf, .here leaf, .inl rfl⟩
  | succ depth ih =>
      by_cases passed : ∃ parent name, memory.Passes leaf parent name
      · obtain ⟨parent, name, passes⟩ := passed
        obtain ⟨hparent, hname⟩ := passes_iff.mp passes
        obtain ⟨hlength, top, ascends, hended⟩ := ih parent
        rw [components_of_read hparent hname, List.length_cons]
        refine ⟨Nat.succ_le_succ hlength, top, .up passes ascends, ?_⟩
        exact hended.imp_left (congrArg (· + 1))
      · have ended : ∀ parent name, ¬ memory.Passes leaf parent name :=
          fun parent name passes => passed ⟨parent, name, passes⟩
        rw [components_of_not_passes ended]
        exact ⟨Nat.zero_le _, leaf, .here leaf, .inr ended⟩

theorem route_components (leaf : UInt64) :
    memory.Route leaf (memory.components componentLimit leaf) := by
  obtain ⟨hlength, hended⟩ := memory.exists_ascends_components componentLimit leaf
  exact ⟨hlength, hended⟩

theorem Route.eq_components {leaf : UInt64} {names : List (List UInt8)}
    (route : memory.Route leaf names) : names = memory.components componentLimit leaf := by
  obtain ⟨top, ascends, hended⟩ := route.ended
  have hcomponents := ascends.components_eq (componentLimit - names.length)
  rw [Nat.add_sub_cancel' route.length_le] at hcomponents
  have hnone : memory.components (componentLimit - names.length) top = [] := by
    rcases hended with hfull | ended
    · rw [hfull, Nat.sub_self]
      rfl
    · exact components_of_not_passes ended _
  rw [hcomponents, hnone, List.append_nil]

/-! ## The text of a route -/

theorem absolute_eq (names : List (List UInt8)) :
    absolute names = names.reverse.flatMap fun name => slash :: name := by
  induction names with
  | nil => rfl
  | cons name above ih =>
      rw [absolute, ih, List.reverse_cons, List.flatMap_append, List.flatMap_singleton]

theorem rooted_eq (names : List (List UInt8)) :
    rooted names =
      if names = [] then [slash] else names.reverse.flatMap fun name => slash :: name := by
  cases names with
  | nil => rfl
  | cons name above => rw [rooted, absolute_eq, if_neg (List.cons_ne_nil _ _)]

theorem rooted_ne_nil (names : List (List UInt8)) : rooted names ≠ [] := by
  cases names with
  | nil => exact List.cons_ne_nil _ _
  | cons name above => exact List.ne_nil_of_length_pos (length_absolute_pos name above)

def pathLength (names : List (List UInt8)) : Nat :=
  (names.map fun name => name.length + 1).sum

theorem length_absolute (names : List (List UInt8)) :
    (absolute names).length = pathLength names := by
  induction names with
  | nil => rfl
  | cons name above ih =>
      rw [absolute, List.length_append, ih, List.length_cons, pathLength, pathLength, List.map_cons,
        List.sum_cons, Nat.add_comm]

/-! ## Room for each name -/

theorem Passes.length_le {dentry parent : UInt64} {name : List UInt8}
    (passes : memory.Passes dentry parent name) : name.length ≤ nameLimit := by
  cases passes with
  | of hparent present other hblock hname =>
      rw [Vector.length_toList]
      exact Nat.min_le_right _ _

theorem Ascends.pathLength_le {leaf top : UInt64} {names : List (List UInt8)}
    (ascends : memory.Ascends leaf names top) : pathLength names ≤ 256 * names.length := by
  induction ascends with
  | here dentry => exact Nat.le_refl _
  | up passes ascends ih =>
      have hname : _ ≤ 255 := passes.length_le
      rw [pathLength, List.map_cons, List.sum_cons, List.length_cons]
      rw [pathLength] at ih
      omega

/-- A climb may be interrupted at each entry that it comes to. -/
theorem Ascends.climb_eq {leaf top : UInt64} {names : List (List UInt8)}
    (ascends : memory.Ascends leaf names top) (depth : Nat) (buffer : PathBuffer)
    (hroom : 256 * (names.length + depth) ≤ buffer.position) :
    memory.climb (names.length + depth) leaf buffer =
      memory.climb depth top (memory.climb names.length leaf buffer) := by
  induction ascends generalizing buffer with
  | here dentry =>
      rw [List.length_nil, Nat.zero_add]
      rfl
  | up passes ascends ih =>
      obtain ⟨ref, bytes, hparent, href, hbytes, hlimit⟩ := passes.read
      rw [List.length_cons] at hroom ⊢
      have hfits : ref.length + 1 ≤ buffer.position := by omega
      rw [Nat.add_right_comm, climb_of_read hparent href hfits hbytes,
        climb_of_read hparent href hfits hbytes]
      exact ih _ (by dsimp only; omega)

/-- The climb as it comes to an entry, having passed these names on the way from the leaf. -/
structure Arrives (memory : KernelMemory) (leaf : UInt64) (scratch : Scratch)
    (names : List (List UInt8)) (dentry : UInt64) (buffer : PathBuffer) : Prop where
  resumes : memory.climb componentLimit leaf { scratch := scratch, position := scratchSize } =
    memory.climb (componentLimit - names.length) dentry buffer
  position_eq : buffer.position + pathLength names = scratchSize
  le_position : scratchSize - 256 * names.length ≤ buffer.position
  roomy : names.length < componentLimit →
    ∀ ref, memory.nameRef? dentry = some ref → ref.length + 1 ≤ buffer.position

theorem Ascends.arrives {leaf dentry : UInt64} {names : List (List UInt8)}
    (ascends : memory.Ascends leaf names dentry) (hlength : names.length ≤ componentLimit)
    (scratch : Scratch) :
    memory.Arrives leaf scratch names dentry
      (memory.climb names.length leaf { scratch := scratch, position := scratchSize }) := by
  have hlimit : names.length ≤ 16 := hlength
  have hcomponents : memory.components names.length leaf = names :=
    (ascends.components_eq 0).trans (List.append_nil names)
  have hroom : 256 * names.length ≤ scratchSize := Nat.mul_le_mul_left 256 hlimit
  have hposition := (memory.climb_suffix names.length leaf
    { scratch := scratch, position := scratchSize } hroom (Nat.le_refl _)).2
  rw [hcomponents, length_absolute] at hposition
  have hbound := ascends.pathLength_le
  have harith : ∀ position, position + pathLength names = scratchSize →
      scratchSize - 256 * names.length ≤ position := by
    intro position h
    omega
  have hat := harith _ hposition
  have hresumes := ascends.climb_eq (componentLimit - names.length)
    { scratch := scratch, position := scratchSize }
  rw [Nat.add_sub_cancel' hlength] at hresumes
  refine ⟨hresumes (Nat.le_refl _), hposition, hat, ?_⟩
  intro hless ref href
  have hname : ref.length ≤ 255 := nameRef?_length_le href
  have hless : names.length < 16 := hless
  have hspace : ref.length + 1 ≤ scratchSize - 256 * names.length := by
    change ref.length + 1 ≤ 4096 - 256 * names.length
    omega
  exact Nat.le_trans hspace hat

/-- Where names of full length are passed up to the limit, the climb ends at the first byte. -/
theorem Arrives.position_eq_zero {leaf dentry : UInt64} {scratch : Scratch}
    {names : List (List UInt8)} {buffer : PathBuffer}
    (arrives : memory.Arrives leaf scratch names dentry buffer)
    (full : names.length = componentLimit) (long : ∀ name ∈ names, name.length = nameLimit) :
    buffer.position = 0 := by
  have hsum : pathLength names = names.length * (nameLimit + 1) := by
    have hconst : (names.map fun name => name.length + 1) = names.map fun _ => nameLimit + 1 :=
      List.map_congr_left fun name h => congrArg (· + 1) (long name h)
    rw [pathLength, hconst, List.map_const', List.sum_replicate_nat]
  have hposition := arrives.position_eq
  rw [hsum, full] at hposition
  change buffer.position + 4096 = 4096 at hposition
  omega

/-- A path is told in full by its route, and empty only if there is no leaf to start from. -/
theorem path_resolved (memory : KernelMemory) (task : UInt64) (path : PathKind)
    (scratch : Scratch) :
    ((memory.assemblePath task path scratch).2 = [] ↔ ∀ leaf, ¬ memory.LeafAt task path leaf) ∧
    (∀ leaf, memory.LeafAt task path leaf →
      ∃ names, memory.Route leaf names ∧ (∀ other, memory.Route leaf other → other = names) ∧
        (memory.assemblePath task path scratch).2 =
          if names = [] then [slash] else names.reverse.flatMap fun name => slash :: name) ∧
    (memory.assemblePath task path scratch).2.length ≤ scratchSize ∧
    ∀ leaf names dentry, memory.Ascends leaf names dentry → names.length ≤ componentLimit →
      ∃ buffer, buffer =
          memory.climb names.length leaf { scratch := scratch, position := scratchSize } ∧
        memory.Arrives leaf scratch names dentry buffer ∧
        (names.length = componentLimit → (∀ name ∈ names, name.length = nameLimit) →
          buffer.position = 0) := by
  have hroute : ∀ leaf, memory.LeafAt task path leaf →
      (memory.assemblePath task path scratch).2 =
        rooted (memory.components componentLimit leaf) := by
    intro leaf hleaf
    rw [assemblePath_eq, resolvedPath, leaf?_eq_some_iff.mpr hleaf]
  refine ⟨?_, ?_, ?_, ?_⟩
  · rw [← leaf?_eq_none_iff, assemblePath_eq, resolvedPath]
    cases memory.leaf? task path with
    | none => simp
    | some leaf => simpa using rooted_ne_nil _
  · intro leaf hleaf
    refine ⟨memory.components componentLimit leaf, route_components leaf,
      fun other route => route.eq_components, ?_⟩
    rw [hroute leaf hleaf, rooted_eq]
  · rw [assemblePath_eq]
    exact length_resolvedPath _ _ _
  · intro leaf names dentry ascends hlength
    have arrives := ascends.arrives hlength scratch
    exact ⟨_, rfl, arrives, arrives.position_eq_zero⟩

/-- Memory of ones, but for the parent of one entry: two entries are the parents of each other. -/
def crossedKernel : KernelMemory where
  byte? := fun address =>
    if 0x0101010101010119 ≤ address ∧ address < 0x0101010101010121 then some 2 else some 1

def Crossed (dentry : UInt64) : Prop :=
  dentry = 0x0101010101010101 ∨ dentry = 0x0202020202020202

theorem exists_read_crossedKernel (address : UInt64) (n : Nat) :
    ∃ block, crossedKernel.read? address n = some block := by
  have hmapped : crossedKernel.Mapped address n := by
    intro i
    change (if _ then some 2 else some 1 : Option UInt8).isSome = true
    split <;> rfl
  exact Option.isSome_iff_exists.mp (Memory.read?_isSome.mpr hmapped)

theorem Crossed.passes {dentry : UInt64} (crossed : Crossed dentry) :
    ∃ parent name, crossedKernel.Passes dentry parent name ∧ Crossed parent ∧
      name.length = nameLimit := by
  have hnamed : ∀ dentry parent : UInt64,
      crossedKernel.word64? (dentry + Layout.dentryParent) = some parent → parent ≠ 0 →
      parent ≠ dentry →
      crossedKernel.read? (dentry + Layout.dentryName) 16 = some (Block.fill 16 1) →
      ∃ name, crossedKernel.Passes dentry parent name ∧ name.length = nameLimit := by
    intro dentry parent hparent present other hblock
    obtain ⟨name, hname⟩ := exists_read_crossedKernel
      (Block.toUInt64 ((Block.fill 16 1).slice 8 8))
      (nameLength (Block.toUInt64 ((Block.fill 16 1).slice 0 8)))
    exact ⟨_, .of hparent present other hblock hname, Vector.length_toList.trans (by decide)⟩
  rcases crossed with rfl | rfl
  · obtain ⟨name, passes, hlength⟩ := hnamed 0x0101010101010101 0x0202020202020202
      (by decide +kernel) (by decide) (by decide) (by decide +kernel)
    exact ⟨_, name, passes, .inr rfl, hlength⟩
  · obtain ⟨name, passes, hlength⟩ := hnamed 0x0202020202020202 0x0101010101010101
      (by decide +kernel) (by decide) (by decide) (by decide +kernel)
    exact ⟨_, name, passes, .inl rfl, hlength⟩

theorem Crossed.ascends {dentry : UInt64} (crossed : Crossed dentry) (count : Nat) :
    ∃ names top, crossedKernel.Ascends dentry names top ∧ names.length = count ∧
      ∀ name ∈ names, name.length = nameLimit := by
  induction count generalizing dentry with
  | zero => exact ⟨[], dentry, .here dentry, rfl, nofun⟩
  | succ count ih =>
      obtain ⟨parent, name, passes, hparent, hname⟩ := crossed.passes
      obtain ⟨above, top, ascends, hcount, hlength⟩ := ih hparent
      refine ⟨name :: above, top, .up passes ascends, congrArg (· + 1) hcount, ?_⟩
      exact List.forall_mem_cons.mpr ⟨hname, hlength⟩

/-- In a cycle of entries with names of full length, the path fills the buffer. -/
theorem crossed_path_fills :
    crossedKernel.LeafAt 4096 .cwd 0x0101010101010101 ∧
      ∃ names top, crossedKernel.Ascends 0x0101010101010101 names top ∧
        names.length = componentLimit ∧ (∀ name ∈ names, name.length = nameLimit) ∧
        (crossedKernel.assemblePath 4096 .cwd (Block.zero scratchSize)).2 =
          names.reverse.flatMap (fun name => slash :: name) ∧
        (crossedKernel.climb names.length 0x0101010101010101
          { scratch := Block.zero scratchSize, position := scratchSize }).position = 0 := by
  obtain ⟨-, hpath, -, hclimb⟩ := path_resolved crossedKernel 4096 .cwd (Block.zero scratchSize)
  have hfs : crossedKernel.word64? (4096 + Layout.taskFs) = some 0x0101010101010101 := by
    decide +kernel
  have hdentry : crossedKernel.word64? (0x0101010101010101 + Layout.fsPwdDentry) =
      some 0x0101010101010101 := by
    decide +kernel
  have hleaf : crossedKernel.LeafAt 4096 .cwd 0x0101010101010101 :=
    .cwd (by decide) hfs (by decide) hdentry (by decide)
  have hstart : Crossed 0x0101010101010101 := .inl rfl
  obtain ⟨names, top, ascends, hcount, hlength⟩ := hstart.ascends componentLimit
  obtain ⟨_, rfl, -, hzero⟩ := hclimb _ names top ascends (Nat.le_of_eq hcount)
  obtain ⟨route, -, hunique, hresult⟩ := hpath _ hleaf
  have hroute : names = route := hunique names ⟨Nat.le_of_eq hcount, top, ascends, .inl hcount⟩
  have hsome : names ≠ [] := by
    rintro rfl
    cases hcount
  rw [← hroute, if_neg hsome] at hresult
  exact ⟨hleaf, names, top, ascends, hcount, hlength, hresult, hzero hcount hlength⟩

end KernelMemory

end BindTrace
