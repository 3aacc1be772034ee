import BindTrace.Address.Decode
import BindTrace.Pipeline
import BindTrace.Proofs.Hosting.Simulation
import BindTrace.Proofs.Kernel.Ascent
import BindTrace.Proofs.Kernel.Faults
import BindTrace.Proofs.Pipeline.Firing

/-! # A machine as settings

What a probe would find on a machine can be written down beforehand: the answers
of the kernel as settings, and of the caller's memory the bytes at the address,
as far as they are mapped and an address can reach. Which settings and which
bytes these are is told by the bytes of both memories alone, and all that are
told leave a firing no difference to see.
-/

namespace BindTrace

/-! ## The memory at an address -/

namespace Memory

variable {memory : Memory}

/-- The mapped bytes from a place on, up to the first that is not mapped or to a limit. -/
structure MappedRun (memory : Memory) (start limit : Nat) (bytes : List UInt8) : Prop where
  length_le : bytes.length ≤ limit
  byte_eq : ∀ i (h : i < bytes.length), memory.byte? (start + i) = some bytes[i]
  ended : bytes.length < limit → memory.byte? (start + bytes.length) = none

theorem exists_mappedRun (memory : Memory) (start limit : Nat) :
    ∃ bytes, memory.MappedRun start limit bytes := by
  induction limit generalizing start with
  | zero => exact ⟨[], Nat.le_refl _, nofun, nofun⟩
  | succ limit ih =>
      cases hfirst : memory.byte? start with
      | none => exact ⟨[], Nat.zero_le _, nofun, fun _ => hfirst⟩
      | some byte =>
          obtain ⟨bytes, run⟩ := ih (start + 1)
          -- The rest of the run starts one place later.
          have hshift : ∀ i, start + (i + 1) = start + 1 + i := fun i => by omega
          refine ⟨byte :: bytes, Nat.succ_le_succ run.length_le, ?_, ?_⟩
          · intro i h
            cases i with
            | zero => exact hfirst
            | succ i =>
                rw [hshift]
                exact run.byte_eq i (Nat.lt_of_succ_lt_succ h)
          · intro short
            rw [List.length_cons, hshift]
            exact run.ended (Nat.lt_of_succ_lt_succ short)

theorem byte?_ofRun (start i : Nat) (bytes : List UInt8) :
    (ofRun start bytes.toArray).byte? (start + i) = bytes[i]? := by
  have hplace : start + i - start = i := Nat.add_sub_cancel_left _ _
  rw [ofRun, map]
  dsimp only
  rw [hplace, List.getElem?_toArray]
  by_cases within : i < bytes.length
  · rw [if_pos ⟨Nat.le_add_right _ _, Nat.add_lt_add_left within _⟩]
  · rw [if_neg fun h => within (Nat.lt_of_add_lt_add_left h.2),
      List.getElem?_eq_none (Nat.le_of_not_lt within)]
    rfl

namespace MappedRun

variable {address : UInt64} {limit : Nat} {bytes : List UInt8}

/-- Reads within the limit see no difference between a memory and its run. -/
theorem read?_eq (run : memory.MappedRun address.toNat limit bytes) {n : Nat}
    (within : n ≤ limit) :
    (ofRun address.toNat bytes.toArray).read? address n = memory.read? address n := by
  apply Option.ext
  intro block
  rw [read?_eq_some_iff, read?_eq_some_iff]
  constructor
  · intro hbytes i hi
    have hrun := hbytes i hi
    rw [byte?_ofRun] at hrun
    obtain ⟨hlength, hbyte⟩ := List.getElem?_eq_some_iff.mp hrun
    rw [run.byte_eq i hlength, hbyte]
  · intro hbytes i hi
    -- Were the run shorter than what is read, a byte that is read would be unmapped.
    have hlength : n ≤ bytes.length := by
      refine Nat.le_of_not_lt fun short => ?_
      have hlost := run.ended (Nat.lt_of_lt_of_le short within)
      cases hlost.symm.trans (hbytes _ short)
    have hi' : i < bytes.length := Nat.lt_of_lt_of_le hi hlength
    rw [byte?_ofRun, List.getElem?_eq_getElem hi', ← run.byte_eq i hi', hbytes i hi]

theorem decode?_eq (run : memory.MappedRun address.toNat 110 bytes) :
    SocketAddress.decode? (ofRun address.toNat bytes.toArray) address =
      SocketAddress.decode? memory address := by
  have hword : (ofRun address.toNat bytes.toArray).word16? address = memory.word16? address :=
    congrArg (Option.map Block.toUInt16) (run.read?_eq (by decide))
  have hbody : ∀ family,
      SocketAddress.body? (ofRun address.toNat bytes.toArray) address family =
        SocketAddress.body? memory address family := by
    intro family
    have hipv4 := run.read?_eq (show SocketAddress.ipv4Size ≤ 110 by decide)
    have hipv6 := run.read?_eq (show SocketAddress.ipv6Size ≤ 110 by decide)
    have hunix := run.read?_eq (show SocketAddress.unixSize ≤ 110 by decide)
    rw [SocketAddress.body?, hipv4, hipv6, hunix]
    rfl
  rw [SocketAddress.decode?, hword]
  simp only [hbody]
  rfl

theorem fill_eq {args : CallArguments} (run : memory.MappedRun args.address.toNat 110 bytes) :
    args.fill (ofRun args.address.toNat bytes.toArray) = args.fill memory := by
  funext header
  rw [CallArguments.fill, CallArguments.fill, run.decode?_eq]

end MappedRun

end Memory

/-! ## The names of the node -/

structure Node.Spells (node : Node) (names : Block 390) : Prop where
  sysname_eq : node.sysname = names.slice 0 65
  nodename_eq : node.nodename = names.slice 65 65
  release_eq : node.release = names.slice 130 65
  version_eq : node.version = names.slice 195 65
  machine_eq : node.machine = names.slice 260 65
  domainname_eq : node.domainname = names.slice 325 65

theorem Node.spells_iff {node : Node} {names : Block 390} :
    node.Spells names ↔ node = Node.ofBlock names := by
  constructor
  · intro spells
    cases node
    obtain ⟨hsysname, hnodename, hrelease, hversion, hmachine, hdomainname⟩ := spells
    dsimp only at hsysname hnodename hrelease hversion hmachine hdomainname
    rw [ofBlock, hsysname, hnodename, hrelease, hversion, hmachine, hdomainname]
  · rintro rfl
    exact ⟨rfl, rfl, rfl, rfl, rfl, rfl⟩

namespace KernelMemory

variable {memory : KernelMemory} {task : UInt64}

/-- The bytes of all names, behind two pointers that are not null. -/
inductive NamesAt (memory : KernelMemory) (task : UInt64) : Block 390 → Prop
  | behind {nsproxy uts : UInt64} {names : Block 390} (present : task ≠ 0)
      (hnsproxy : memory.word64? (task + Layout.taskNsproxy) = some nsproxy)
      (nsproxyPresent : nsproxy ≠ 0)
      (huts : memory.word64? (nsproxy + Layout.nsproxyUts) = some uts) (utsPresent : uts ≠ 0)
      (bytes : ∀ i (h : i < 390),
        memory.byte? ((uts + Layout.utsNames).toNat + i) = some names[i]) :
      NamesAt memory task names

theorem node?_eq_some_iff {node : Node} :
    memory.node? task = some node ↔ ∃ names, memory.NamesAt task names ∧ node.Spells names := by
  constructor
  · intro h
    rw [node?] at h
    split at h
    · cases h
    · next present =>
        obtain ⟨nsproxy, hnsproxy, h⟩ := Option.bind_eq_some_iff.mp h
        obtain ⟨uts, huts, h⟩ := Option.bind_eq_some_iff.mp h
        obtain ⟨names, hnames, rfl⟩ := Option.map_eq_some_iff.mp h
        obtain ⟨hnsproxy, nsproxyPresent⟩ := Memory.pointer?_eq_some_iff.mp hnsproxy
        obtain ⟨huts, utsPresent⟩ := Memory.pointer?_eq_some_iff.mp huts
        have hbytes := Memory.read?_eq_some_iff.mp hnames
        exact ⟨names, .behind present hnsproxy nsproxyPresent huts utsPresent hbytes,
          Node.spells_iff.mpr rfl⟩
  · rintro ⟨names, ⟨present, hnsproxy, nsproxyPresent, huts, utsPresent, bytes⟩, spells⟩
    have hnsproxy := Memory.pointer?_eq_some_iff.mpr ⟨hnsproxy, nsproxyPresent⟩
    have huts := Memory.pointer?_eq_some_iff.mpr ⟨huts, utsPresent⟩
    have hnames := Memory.read?_eq_some_iff.mpr bytes
    simp [node?, present, hnsproxy, huts, hnames, Node.spells_iff.mp spells]

theorem node?_of_names {names : Block 390} (held : memory.NamesAt task names) :
    memory.node? task = some (Node.ofBlock names) :=
  node?_eq_some_iff.mpr ⟨names, held, Node.spells_iff.mpr rfl⟩

/-! ## The text of a path -/

/-- The path of a task: nothing without a leaf, and otherwise the names of its route. -/
inductive ResolvesTo (memory : KernelMemory) (task : UInt64) (path : PathKind) :
    List UInt8 → Prop
  | nowhere (noLeaf : ∀ leaf, ¬ memory.LeafAt task path leaf) : ResolvesTo memory task path []
  | along {leaf : UInt64} {names : List (List UInt8)} (hleaf : memory.LeafAt task path leaf)
      (route : memory.Route leaf names) :
      ResolvesTo memory task path
        (if names = [] then [slash] else names.reverse.flatMap fun name => slash :: name)

theorem resolvesTo_iff {path : PathKind} {bytes : List UInt8} :
    memory.ResolvesTo task path bytes ↔ memory.resolvedPath task path = bytes := by
  rw [resolvedPath]
  constructor
  · rintro (noLeaf | ⟨hleaf, route⟩)
    · rw [leaf?_eq_none_iff.mpr noLeaf]
    · rw [leaf?_eq_some_iff.mpr hleaf, ← rooted_eq, route.eq_components]
  · rintro rfl
    cases hleaf : memory.leaf? task path with
    | none => exact .nowhere (leaf?_eq_none_iff.mp hleaf)
    | some leaf =>
        dsimp only
        rw [rooted_eq]
        exact .along (leaf?_eq_some_iff.mp hleaf) (memory.route_components leaf)

end KernelMemory

/-! ## The answers of the kernel -/

/-- These are the answers of a kernel that shows what is on a machine. -/
structure Settings.TakenFrom (settings : Settings) (machine : Machine) (syscall : Int32) :
    Prop where
  syscall_eq : settings.syscall = syscall
  processor_eq : settings.processor = machine.processor
  pidTgid_eq : settings.pidTgid = machine.pidTgid
  uidGid_eq : settings.uidGid = machine.uidGid
  cgroupId_eq : settings.cgroupId = machine.cgroupId
  comm_eq : settings.comm = machine.comm?.getD (Block.zero commSize)
  task_iff : settings.taskReadable = true ↔ ¬ machine.kernelMemory.ViewLost machine.task
  task_of : settings.taskReadable = true →
    machine.kernelMemory.Faithful machine.task settings.task
  node_iff : settings.nodeReadable = true ↔
    ∃ names, machine.kernelMemory.NamesAt machine.task names
  node_of : ∀ names, machine.kernelMemory.NamesAt machine.task names →
    settings.node.Spells names
  scratch_eq : settings.scratchAvailable = machine.scratchAvailable
  cwd_of : machine.kernelMemory.ResolvesTo machine.task .cwd settings.cwd
  exe_of : machine.kernelMemory.ResolvesTo machine.task .exe settings.exe

namespace Settings.TakenFrom

variable {settings : Settings} {machine : Machine} {syscall : Int32}

theorem view?_eq (taken : settings.TakenFrom machine syscall) :
    machine.kernelMemory.view? machine.task =
      if settings.taskReadable then some settings.task else none := by
  by_cases readable : settings.taskReadable = true
  · have found := taken.task_iff.mp readable
    obtain ⟨view, hview⟩ :=
      Option.ne_none_iff_exists'.mp fun hnone => found (KernelMemory.viewLost_iff.mpr hnone)
    have hsame := (KernelMemory.faithful hview).unique (taken.task_of readable)
    rw [if_pos readable, hview, hsame]
  · have lost := Classical.not_not.mp fun found => readable (taken.task_iff.mpr found)
    rw [if_neg readable, KernelMemory.viewLost_iff.mp lost]

theorem node?_eq (taken : settings.TakenFrom machine syscall) :
    machine.kernelMemory.node? machine.task =
      if settings.nodeReadable then some settings.node else none := by
  by_cases readable : settings.nodeReadable = true
  · obtain ⟨names, held⟩ := taken.node_iff.mp readable
    rw [if_pos readable]
    exact KernelMemory.node?_eq_some_iff.mpr ⟨names, held, taken.node_of names held⟩
  · rw [if_neg readable, Option.eq_none_iff_forall_ne_some]
    intro node hnode
    obtain ⟨names, held, -⟩ := KernelMemory.node?_eq_some_iff.mp hnode
    exact readable (taken.node_iff.mpr ⟨names, held⟩)

theorem resolved_eq (taken : settings.TakenFrom machine syscall) (path : PathKind) :
    settings.resolved path = machine.kernelMemory.resolvedPath machine.task path := by
  have hsource : settings.source path =
      machine.kernelMemory.resolvedPath machine.task path := by
    cases path with
    | cwd => exact (KernelMemory.resolvesTo_iff.mp taken.cwd_of).symm
    | exe => exact (KernelMemory.resolvesTo_iff.mp taken.exe_of).symm
  rw [Settings.resolved, hsource]
  exact List.take_of_length_le (machine.kernelMemory.length_resolvedPath machine.task path)

/-- Settings taken from a machine tell what the machine tells. -/
theorem agree (taken : settings.TakenFrom machine syscall)
    (counted : machine.counterAvailable = true) :
    (machine.surroundings syscall).Agree settings.surroundings where
  syscall_eq := taken.syscall_eq.symm
  processor_eq := taken.processor_eq.symm
  pidTgid_eq := taken.pidTgid_eq.symm
  uidGid_eq := taken.uidGid_eq.symm
  cgroupId_eq := taken.cgroupId_eq.symm
  comm_eq := taken.comm_eq.symm
  task_eq := taken.view?_eq
  node_eq := taken.node?_eq
  counter_eq := counted
  scratch_eq := taken.scratch_eq.symm
  path_eq path scratch scratch' := by
    rw [machine.surroundings_assembles syscall path scratch,
      settings.surroundings_assembles path scratch', taken.resolved_eq]

end Settings.TakenFrom

/-! ## Settings exist -/

namespace KernelMemory

variable (memory : KernelMemory) (task : UInt64)

theorem exists_view : ∃ (view : TaskView) (readable : Bool),
    (readable = true ↔ ¬ memory.ViewLost task) ∧
      (readable = true → memory.Faithful task view) := by
  rw [viewLost_iff]
  cases hview : memory.view? task with
  | none => exact ⟨⟨0, 0, 0, 0, 0, 0, 0, 0, 0⟩, false, by simp, nofun⟩
  | some view => exact ⟨view, true, by simp, fun _ => faithful hview⟩

theorem exists_node : ∃ (node : Node) (readable : Bool),
    (readable = true ↔ ∃ names, memory.NamesAt task names) ∧
      ∀ names, memory.NamesAt task names → node.Spells names := by
  cases hnode : memory.node? task with
  | none =>
      have hlost : ∀ names, ¬ memory.NamesAt task names := by
        intro names held
        cases hnode.symm.trans (node?_of_names held)
      exact ⟨Node.ofBlock (Block.zero 390), false,
        ⟨nofun, fun ⟨names, held⟩ => absurd held (hlost names)⟩,
        fun names held => absurd held (hlost names)⟩
  | some node =>
      obtain ⟨names, held, -⟩ := node?_eq_some_iff.mp hnode
      refine ⟨node, true, ⟨fun _ => ⟨names, held⟩, fun _ => rfl⟩, fun other again => ?_⟩
      have hsame := hnode.symm.trans (node?_of_names again)
      exact Node.spells_iff.mpr (Option.some.inj hsame)

end KernelMemory

/-- What a machine shows can be written down. -/
theorem Machine.exists_takenFrom (machine : Machine) (syscall : Int32) :
    ∃ settings : Settings, settings.TakenFrom machine syscall := by
  obtain ⟨view, viewed, hviewed, hview⟩ := machine.kernelMemory.exists_view machine.task
  obtain ⟨node, named, hnamed, hnode⟩ := machine.kernelMemory.exists_node machine.task
  refine ⟨{
    pidTgid := machine.pidTgid
    uidGid := machine.uidGid
    cgroupId := machine.cgroupId
    comm := machine.comm?.getD (Block.zero commSize)
    task := view
    taskReadable := viewed
    node := node
    nodeReadable := named
    scratchAvailable := machine.scratchAvailable
    cwd := machine.kernelMemory.resolvedPath machine.task .cwd
    exe := machine.kernelMemory.resolvedPath machine.task .exe
    processor := machine.processor
    syscall := syscall }, rfl, rfl, rfl, rfl, rfl, rfl, hviewed, hview, hnamed, hnode, rfl, ?_, ?_⟩
  · exact KernelMemory.resolvesTo_iff.mpr rfl
  · exact KernelMemory.resolvesTo_iff.mpr rfl

end BindTrace
