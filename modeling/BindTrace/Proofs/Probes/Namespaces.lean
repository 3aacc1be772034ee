import BindTrace.Proofs.History
import BindTrace.Proofs.Kernel.View
import BindTrace.Proofs.Probes.Turn

/-! # The pid namespaces of which a record speaks

A task has a number in its own pid namespace and in each one around it. A record
tells the task and its leader by their numbers in their own namespace. It tells
the parent by its number in the parent's own namespace, though, and names the
namespace of the children. All of it speaks of one namespace only where parent
and children live in the task's own; a first process of a container, whose
parent lives outside, shows that this need not be so.
-/

namespace BindTrace

namespace KernelMemory

variable {memory : KernelMemory}

/-! ## Numbers in namespaces -/

def pidNs? (memory : KernelMemory) (pid : UInt64) (level : UInt32) : Option UInt64 :=
  memory.word64? (pid + Layout.pidNumbers + level.toUInt64 * Layout.pidNumberStride +
    Layout.pidNumberNs)

/--
Number of a task in a pid namespace of a level: that of its entry at the level, if it has one there
and the entry is of this namespace, and otherwise zero.
-/
def numberIn (memory : KernelMemory) (task : UInt64) (level : UInt32) (ns : UInt64) : UInt32 :=
  match memory.pointer? (task + Layout.taskThreadPid) with
  | none => 0
  | some pid =>
      if level ≤ (memory.word32? (pid + Layout.pidLevel)).getD 0 ∧
          memory.pidNs? pid level = some ns then
        (memory.pidNumber? pid level).getD 0
      else 0

def nsInum (memory : KernelMemory) (ns : UInt64) : UInt64 :=
  ((memory.word32? (ns + Layout.pidNsNumber)).map UInt32.toUInt64).getD 0

/-- The own pid namespace of a task, how deep it is, and the number of the task in it. -/
structure Seat where
  pid : UInt64
  level : UInt32
  ns : UInt64
  number : UInt32

structure Seats (memory : KernelMemory) (task : UInt64) (seat : Seat) : Prop where
  present : task ≠ 0
  pid_eq : memory.word64? (task + Layout.taskThreadPid) = some seat.pid
  pid_present : seat.pid ≠ 0
  level_eq : memory.word32? (seat.pid + Layout.pidLevel) = some seat.level
  level_lt : seat.level < Layout.pidLevelLimit
  ns_eq : memory.pidNs? seat.pid seat.level = some seat.ns
  ns_present : seat.ns ≠ 0
  number_eq : memory.pidNumber? seat.pid seat.level = some seat.number

/-- The tasks around a task with their seats, and the pid namespace of its children. -/
structure Nesting where
  passed : Passed
  own : Seat
  leader : Seat
  parent : Seat
  childrenNs : UInt64

/-- Everything on the way to the namespaces can be read, and a task shares one with its leader. -/
structure Nested (memory : KernelMemory) (task : UInt64) (nesting : Nesting) : Prop where
  leader_eq : memory.word64? (task + Layout.taskGroupLeader) = some nesting.passed.leader
  parent_eq : memory.word64? (task + Layout.taskRealParent) = some nesting.passed.parent
  parent_present : nesting.passed.parent ≠ 0
  parentLeader_eq : memory.word64? (nesting.passed.parent + Layout.taskGroupLeader) =
    some nesting.passed.parentLeader
  nsproxy_eq : memory.word64? (task + Layout.taskNsproxy) = some nesting.passed.nsproxy
  nsproxy_present : nesting.passed.nsproxy ≠ 0
  children_eq : memory.word64? (nesting.passed.nsproxy + Layout.nsproxyPidForChildren) =
    some nesting.childrenNs
  children_present : nesting.childrenNs ≠ 0
  own_seat : memory.Seats task nesting.own
  leader_seat : memory.Seats nesting.passed.leader nesting.leader
  parent_seat : memory.Seats nesting.passed.parentLeader nesting.parent
  same_level : nesting.leader.level = nesting.own.level
  same_ns : nesting.leader.ns = nesting.own.ns

theorem Seats.pointer_eq {task : UInt64} {seat : Seat} (seats : memory.Seats task seat) :
    memory.pointer? (task + Layout.taskThreadPid) = some seat.pid :=
  Memory.pointer?_eq_some_iff.mpr ⟨seats.pid_eq, seats.pid_present⟩

theorem Seats.nsNumber_eq {task : UInt64} {seat : Seat} (seats : memory.Seats task seat) :
    memory.nsNumber task = seat.number := by
  have hlevel : ¬ Layout.pidLevelLimit ≤ seat.level := UInt32.not_le.mpr seats.level_lt
  simp [nsNumber, seats.present, seats.pointer_eq, seats.level_eq, hlevel, seats.number_eq]

theorem Seats.numberIn_eq {task : UInt64} {seat : Seat} (seats : memory.Seats task seat) :
    memory.numberIn task seat.level seat.ns = seat.number := by
  simp [numberIn, seats.pointer_eq, seats.level_eq, seats.ns_eq, seats.number_eq]

theorem view_of_nested {task : UInt64} {view : TaskView} {nesting : Nesting}
    (hview : memory.view? task = some view) (nested : memory.Nested task nesting) :
    view.nsPid = nesting.own.number ∧ view.nsTgid = nesting.leader.number ∧
      view.nsPpid = nesting.parent.number ∧ view.pidNsId = memory.nsInum nesting.childrenNs := by
  obtain ⟨-, passed, hleader, hparent, hparentLeader, hnsproxy, rfl⟩ := view?_eq_some hview
  have hpassed : passed = nesting.passed := by
    have hparent : passed.parent = nesting.passed.parent := by
      simpa [nested.parent_eq] using hparent.symm
    rw [hparent, parentLeader?, if_neg nested.parent_present, nested.parentLeader_eq]
      at hparentLeader
    rw [nested.leader_eq] at hleader
    rw [nested.nsproxy_eq] at hnsproxy
    cases passed
    cases hparent
    cases hleader
    cases hparentLeader
    cases hnsproxy
    rfl
  have hchildren : memory.pointer? (nesting.passed.nsproxy + Layout.nsproxyPidForChildren) =
      some nesting.childrenNs :=
    Memory.pointer?_eq_some_iff.mpr ⟨nested.children_eq, nested.children_present⟩
  subst hpassed
  refine ⟨nested.own_seat.nsNumber_eq, nested.leader_seat.nsNumber_eq,
    nested.parent_seat.nsNumber_eq, ?_⟩
  simp [told, pidNsId, namespaceId, nested.nsproxy_present, hchildren, nsInum]

end KernelMemory

/-! ## Numbers in records -/

/-- All that a record tells of pid namespaces is told of the task's own. -/
structure OneNamespace (memory : KernelMemory) (task : UInt64) (nesting : KernelMemory.Nesting)
    (identity : Identity) : Prop where
  pid_eq : identity.pid = memory.numberIn task nesting.own.level nesting.own.ns
  tgid_eq : identity.tgid =
    memory.numberIn nesting.passed.leader nesting.own.level nesting.own.ns
  ppid_eq : identity.ppid =
    memory.numberIn nesting.passed.parentLeader nesting.own.level nesting.own.ns
  pidNsId_eq : identity.pidNsId = memory.nsInum nesting.own.ns

namespace ProbeSite

theorem Publishes.view_eq {probes : ProbeSite} {step : Step} {kind : Kind} {event : Event}
    (publishes : probes.Publishes step kind event) :
    ∃ view, probes.machine.kernelMemory.view? probes.machine.task = some view ∧
      event.context.identity.pid = view.nsPid ∧ event.context.identity.tgid = view.nsTgid ∧
      event.context.identity.ppid = view.nsPpid ∧
      event.context.identity.pidNsId = view.pidNsId := by
  obtain ⟨view, node, hview, -, hevent⟩ := publishes.event_eq
  refine ⟨view, hview, ?_⟩
  rcases hevent with ⟨pointer, -, -, rfl⟩ | ⟨returned, -, -, rfl⟩
  · exact ⟨rfl, rfl, rfl, rfl⟩
  · exact ⟨rfl, rfl, rfl, rfl⟩

/--
Task and leader are told by their numbers in their own namespace, the parent by its number in the
parent's, and what is named is the namespace of the children.
-/
theorem namespaces_of_record {probes : ProbeSite} {step : Step} {kind : Kind} {event : Event}
    {nesting : KernelMemory.Nesting} (publishes : probes.Publishes step kind event)
    (nested : probes.machine.kernelMemory.Nested probes.machine.task nesting) :
    let memory := probes.machine.kernelMemory
    let identity := event.context.identity
    identity.pid = memory.numberIn probes.machine.task nesting.own.level nesting.own.ns ∧
      identity.tgid =
        memory.numberIn nesting.passed.leader nesting.own.level nesting.own.ns ∧
      identity.ppid =
        memory.numberIn nesting.passed.parentLeader nesting.parent.level nesting.parent.ns ∧
      identity.pidNsId = memory.nsInum nesting.childrenNs ∧
      (OneNamespace memory probes.machine.task nesting identity ↔
        nesting.parent.number =
            memory.numberIn nesting.passed.parentLeader nesting.own.level nesting.own.ns ∧
          memory.nsInum nesting.childrenNs = memory.nsInum nesting.own.ns) := by
  intro memory identity
  obtain ⟨view, hview, hpid, htgid, hppid, hns⟩ := publishes.view_eq
  obtain ⟨hown, hleader, hparent, hchildren⟩ := KernelMemory.view_of_nested hview nested
  have htask : identity.pid =
      memory.numberIn probes.machine.task nesting.own.level nesting.own.ns := by
    rw [nested.own_seat.numberIn_eq, ← hown]
    exact hpid
  have hprocess : identity.tgid =
      memory.numberIn nesting.passed.leader nesting.own.level nesting.own.ns := by
    rw [← nested.same_level, ← nested.same_ns, nested.leader_seat.numberIn_eq, ← hleader]
    exact htgid
  have habove : identity.ppid = nesting.parent.number := hppid.trans hparent
  have hnamed : identity.pidNsId = memory.nsInum nesting.childrenNs := hns.trans hchildren
  refine ⟨htask, hprocess, ?_, hnamed, ?_⟩
  · rw [nested.parent_seat.numberIn_eq]
    exact habove
  · constructor
    · intro one
      exact ⟨habove.symm.trans one.ppid_eq, hnamed.symm.trans one.pidNsId_eq⟩
    · rintro ⟨hppid, hinum⟩
      exact ⟨htask, hprocess, habove.trans hppid, hnamed.trans hinum⟩

end ProbeSite

/-! ## The first process of a container -/

def KernelMemory.ofWords (words : List (UInt64 × UInt64)) : KernelMemory where
  byte? := fun address =>
    match words.find? fun (place, _) => place.toNat ≤ address ∧ address < place.toNat + 8 with
    | none => some 0
    | some (place, word) => some (UInt8.ofNat (word.toNat >>> (8 * (address - place.toNat))))

/-- Where the first process of a container has its parent, and where its children will live. -/
inductive Household
  | scattered
  | together

namespace Household

def parentSeat : Household → KernelMemory.Seat
  | scattered => { pid := 0x6000, level := 0, ns := 0x7000, number := 400 }
  | together => { pid := 0x6800, level := 1, ns := 0x8000, number := 17 }

def childrenNs : Household → UInt64
  | scattered => 0xC000
  | together => 0x8000

/-- The first process is a task at `0x1000`, whose parent is at `0x3000`. -/
def nesting (household : Household) : KernelMemory.Nesting where
  passed := { leader := 0x1000, parent := 0x3000, parentLeader := 0x3000, nsproxy := 0x9000 }
  own := { pid := 0x5000, level := 1, ns := 0x8000, number := 1 }
  leader := { pid := 0x5000, level := 1, ns := 0x8000, number := 1 }
  parent := household.parentSeat
  childrenNs := household.childrenNs

def kernel (household : Household) : KernelMemory :=
  .ofWords [
    -- tasks
    (0x1000 + Layout.taskGroupLeader, 0x1000),
    (0x1000 + Layout.taskRealParent, 0x3000),
    (0x1000 + Layout.taskThreadPid, 0x5000),
    (0x1000 + Layout.taskNsproxy, 0x9000),
    (0x3000 + Layout.taskGroupLeader, 0x3000),
    (0x3000 + Layout.taskThreadPid, household.parentSeat.pid),
    -- pids, each with its level in the upper half of its first word
    (0x5000, 0x100000000),
    (0x5000 + Layout.pidNumbers, 500),
    (0x5000 + Layout.pidNumbers + Layout.pidNumberNs, 0x7000),
    (0x5000 + Layout.pidNumbers + Layout.pidNumberStride, 1),
    (0x5000 + Layout.pidNumbers + Layout.pidNumberStride + Layout.pidNumberNs, 0x8000),
    (0x6000 + Layout.pidNumbers, 400),
    (0x6000 + Layout.pidNumbers + Layout.pidNumberNs, 0x7000),
    (0x6800, 0x100000000),
    (0x6800 + Layout.pidNumbers, 420),
    (0x6800 + Layout.pidNumbers + Layout.pidNumberNs, 0x7000),
    (0x6800 + Layout.pidNumbers + Layout.pidNumberStride, 17),
    (0x6800 + Layout.pidNumbers + Layout.pidNumberStride + Layout.pidNumberNs, 0x8000),
    -- namespaces
    (0x9000 + Layout.nsproxyUts, 0xA000),
    (0x9000 + Layout.nsproxyMnt, 0xB000),
    (0x9000 + Layout.nsproxyPidForChildren, household.childrenNs),
    (0x7000 + Layout.pidNsNumber, 0xEFFFFFFC),
    (0x8000 + Layout.pidNsNumber, 0xF0000001),
    (0xC000 + Layout.pidNsNumber, 0xF0000002)]

def probes (household : Household) : ProbeSite :=
  .fresh 1 { kernelMemory := household.kernel, task := 0x1000, pidTgid := 0x1F4000001F4 } 0
    (Block.zero scratchSize) (Block.zero Event.size)

theorem mapped_kernel (household : Household) (address : UInt64) (n : Nat) :
    household.kernel.Mapped address n := by
  intro i
  rw [kernel, KernelMemory.ofWords]
  dsimp only
  split <;> rfl

theorem nested_kernel (household : Household) :
    household.kernel.Nested 0x1000 household.nesting where
  leader_eq := by cases household <;> decide +kernel
  parent_eq := by cases household <;> decide +kernel
  parent_present := by cases household <;> decide +kernel
  parentLeader_eq := by cases household <;> decide +kernel
  nsproxy_eq := by cases household <;> decide +kernel
  nsproxy_present := by cases household <;> decide +kernel
  children_eq := by cases household <;> decide +kernel
  children_present := by cases household <;> decide +kernel
  own_seat := by cases household <;> constructor <;> decide +kernel
  leader_seat := by cases household <;> constructor <;> decide +kernel
  parent_seat := by cases household <;> constructor <;> decide +kernel
  same_level := rfl
  same_ns := rfl

theorem not_metadataLost_kernel (household : Household) :
    ¬ KernelMemory.MetadataLost household.kernel 0x1000 := by
  have nested := household.nested_kernel
  have huts : household.kernel.word64? (household.nesting.passed.nsproxy + Layout.nsproxyUts) =
      some 0xA000 := by
    cases household <;> decide +kernel
  exact KernelMemory.not_metadataLost_of_mapped (by decide) household.mapped_kernel
    nested.nsproxy_eq nested.nsproxy_present huts (by decide)

theorem publishes_exit (household : Household) :
    ∃ event, household.probes.Publishes (.exit (some 0)) .exit event :=
  ProbeSite.publishes_exit_of_found household.not_metadataLost_kernel rfl rfl Nat.zero_lt_one
    (some 0)

/-- A parent outside is told by its number there, and the container within is named. -/
theorem scattered_not_oneNamespace :
    ∃ event, scattered.probes.Publishes (.exit (some 0)) .exit event ∧
      scattered.kernel.Nested 0x1000 scattered.nesting ∧
      event.context.identity.ppid = 400 ∧
      scattered.kernel.numberIn 0x3000 1 0x8000 = 0 ∧
      event.context.identity.pidNsId = 0xF0000002 ∧
      scattered.kernel.nsInum 0x8000 = 0xF0000001 ∧
      ¬ OneNamespace scattered.kernel 0x1000 scattered.nesting event.context.identity := by
  obtain ⟨event, publishes⟩ := scattered.publishes_exit
  obtain ⟨view, hview, -, -, hppid, hns⟩ := publishes.view_eq
  obtain ⟨-, -, hparent, hchildren⟩ := KernelMemory.view_of_nested hview scattered.nested_kernel
  have htold : event.context.identity.ppid = 400 := hppid.trans hparent
  have hnone : scattered.kernel.numberIn 0x3000 1 0x8000 = 0 := by decide +kernel
  have hnamed : event.context.identity.pidNsId = 0xF0000002 := by
    rw [hns, hchildren]
    decide +kernel
  have hown : scattered.kernel.nsInum 0x8000 = 0xF0000001 := by decide +kernel
  refine ⟨event, publishes, scattered.nested_kernel, htold, hnone, hnamed, hown, ?_⟩
  intro one
  have hzero : event.context.identity.ppid = 0 := one.ppid_eq.trans hnone
  rw [htold] at hzero
  cases hzero

/-- Of a household in one container, all is told of that container. -/
theorem together_oneNamespace :
    ∃ event, together.probes.Publishes (.exit (some 0)) .exit event ∧
      together.kernel.Nested 0x1000 together.nesting ∧
      OneNamespace together.kernel 0x1000 together.nesting event.context.identity := by
  obtain ⟨event, publishes⟩ := together.publishes_exit
  obtain ⟨-, -, -, -, hone⟩ :=
    ProbeSite.namespaces_of_record publishes together.nested_kernel
  refine ⟨event, publishes, together.nested_kernel, hone.mpr ⟨?_, rfl⟩⟩
  decide +kernel

end Household

end BindTrace
