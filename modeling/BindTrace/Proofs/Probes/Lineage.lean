import BindTrace.Proofs.History
import BindTrace.Proofs.Kernel.View
import BindTrace.Proofs.Pipeline.Agreement
import BindTrace.Proofs.Probes.Turn

/-! # Records that name each other's processes

A record names its own process and that of its parent, each as the host sees
it, by its lifetime, and as its namespace sees it. A parent's own record names
the same process in the same words, and so do the records of all threads of one
process: whoever reads the records can put the processes together as a tree.
-/

namespace BindTrace

structure Lineage where
  hostTgid : UInt32
  hostPpid : UInt32
  lifetimeId : UInt64
  parentLifetimeId : UInt64
  tgid : UInt32
  ppid : UInt32

namespace Lineage

/-- The one names the other's process as the one above its own. -/
structure ChildOf (child parent : Lineage) : Prop where
  hostPpid_eq : child.hostPpid = parent.hostTgid
  parentLifetimeId_eq : child.parentLifetimeId = parent.lifetimeId
  ppid_eq : child.ppid = parent.tgid

structure SameProcess (left right : Lineage) : Prop where
  lifetimeId_eq : left.lifetimeId = right.lifetimeId
  tgid_eq : left.tgid = right.tgid

end Lineage

def Event.lineage (event : Event) : Lineage where
  hostTgid := event.context.identity.hostTgid
  hostPpid := event.context.identity.hostPpid
  lifetimeId := event.context.identity.lifetimeId
  parentLifetimeId := event.context.identity.parentLifetimeId
  tgid := event.context.identity.tgid
  ppid := event.context.identity.ppid

def Record.lineage (record : Record) : Lineage where
  hostTgid := record.hostTgid
  hostPpid := record.hostPpid
  lifetimeId := record.lifetimeId
  parentLifetimeId := record.parentLifetimeId
  tgid := record.tgid
  ppid := record.ppid

namespace Machine

/--
The task of one machine is the parent of the other's task, in the same memory, and its number there
is that of the process which fires.
-/
structure ChildOf (child parent : Machine) : Prop where
  memory_eq : child.kernelMemory = parent.kernelMemory
  pointer : child.kernelMemory.word64? (child.task + Layout.taskRealParent) = some parent.task
  present : parent.task ≠ 0
  number : parent.kernelMemory.word32? (parent.task + Layout.taskTgid) =
    some (highWord parent.pidTgid)

/-- Two tasks have the same group leader, in the same memory, and fire in the same process. -/
structure SameProcess (left right : Machine) : Prop where
  memory_eq : left.kernelMemory = right.kernelMemory
  leader_eq : left.kernelMemory.word64? (left.task + Layout.taskGroupLeader) =
    right.kernelMemory.word64? (right.task + Layout.taskGroupLeader)
  tgid_eq : highWord left.pidTgid = highWord right.pidTgid

end Machine

namespace ProbeSite

/-- The lineage in a record is made of what the walk over the task has found. -/
theorem Publishes.lineage_eq {probes : ProbeSite} {step : Step} {kind : Kind} {event : Event}
    (publishes : probes.Publishes step kind event) :
    ∃ view, probes.machine.kernelMemory.view? probes.machine.task = some view ∧
      event.lineage = {
        hostTgid := highWord probes.machine.pidTgid
        hostPpid := view.hostPpid
        lifetimeId := lifetimeId (highWord probes.machine.pidTgid) view.leaderStartTime
        parentLifetimeId := lifetimeId view.hostPpid view.parentStartTime
        tgid := view.nsTgid
        ppid := view.nsPpid } := by
  obtain ⟨view, node, hview, -, hevent⟩ := publishes.event_eq
  refine ⟨view, hview, ?_⟩
  rcases hevent with ⟨pointer, -, -, rfl⟩ | ⟨returned, -, -, rfl⟩
  · rfl
  · rfl

theorem Publishes.kind?_eq {probes : ProbeSite} {step : Step} {kind : Kind} {event : Event}
    (publishes : probes.Publishes step kind event) : event.kind? = some kind := by
  obtain ⟨view, node, -, -, hevent⟩ := publishes.event_eq
  rcases hevent with ⟨pointer, -, rfl, rfl⟩ | ⟨returned, -, rfl, rfl⟩
  · have hkind := ((probes.entryArguments pointer).fill_fields probes.machine.userMemory
      (probes.event .entry (probes.entrySyscall pointer) view node).header).1
    rw [Event.kind?, entryEvent, hkind]
    exact Kind.ofCode?_code .entry
  · exact Kind.ofCode?_code .exit

/-- Whoever reads a published record finds its lineage. -/
theorem Publishes.read_lineage {probes : ProbeSite} {step : Step} {kind : Kind} {event : Event}
    (publishes : probes.Publishes step kind event) (rest : List UInt8) :
    ∃ record, Record.ofBytes 0 (event.toBlock.toList ++ rest) = .ok record ∧
      record.lineage = event.lineage := by
  rw [Record.ofBytes_toBlock event rfl, Record.ofEvent, publishes.kind?_eq]
  exact ⟨_, rfl, rfl⟩

theorem Publishes.childOf {child parent : ProbeSite} {step other : Step} {kind kind' : Kind}
    {event above : Event} (published : child.Publishes step kind event)
    (before : parent.Publishes other kind' above) (h : child.machine.ChildOf parent.machine) :
    event.lineage.ChildOf above.lineage := by
  obtain ⟨view, hview, hlineage⟩ := published.lineage_eq
  obtain ⟨aboveView, haboveView, haboveLineage⟩ := before.lineage_eq
  rw [← h.memory_eq] at haboveView
  obtain ⟨hnumber, hstart, hnsNumber⟩ := KernelMemory.view_of_parent hview haboveView h.pointer
  have hppid : view.hostPpid = highWord parent.machine.pidTgid := by
    simp [hnumber, h.memory_eq, h.number]
  rw [hlineage, haboveLineage]
  refine ⟨hppid, ?_, hnsNumber⟩
  simp [hppid, hstart]

theorem Publishes.sameProcess {left right : ProbeSite} {step other : Step} {kind kind' : Kind}
    {first second : Event} (published : left.Publishes step kind first)
    (again : right.Publishes other kind' second)
    (h : left.machine.SameProcess right.machine) :
    first.lineage.SameProcess second.lineage := by
  obtain ⟨view, hview, hlineage⟩ := published.lineage_eq
  obtain ⟨otherView, hotherView, hotherLineage⟩ := again.lineage_eq
  have hleader := h.leader_eq
  rw [← h.memory_eq] at hotherView hleader
  obtain ⟨hstart, hnsNumber⟩ := KernelMemory.view_of_sameLeader hview hotherView hleader
  rw [hlineage, hotherLineage]
  refine ⟨?_, hnsNumber⟩
  simp [hstart, h.tgid_eq]

/-- Records of a child and its parent, and of threads of one process, fit together. -/
theorem lineage_links :
    (∀ (child parent : ProbeSite) (step other : Step) (kind kind' : Kind) (event above : Event),
      child.Publishes step kind event → parent.Publishes other kind' above →
      child.machine.ChildOf parent.machine → event.lineage.ChildOf above.lineage) ∧
    (∀ (left right : ProbeSite) (step other : Step) (kind kind' : Kind) (first second : Event),
      left.Publishes step kind first → right.Publishes other kind' second →
      left.machine.SameProcess right.machine → first.lineage.SameProcess second.lineage) ∧
    ∀ (probes : ProbeSite) (step : Step) (kind : Kind) (event : Event),
      probes.Publishes step kind event → ∀ rest, ∃ record,
        Record.ofBytes 0 (event.toBlock.toList ++ rest) = .ok record ∧
          record.lineage = event.lineage := by
  refine ⟨?_, ?_, ?_⟩
  · intro child parent step other kind kind' event above published before h
    exact published.childOf before h
  · intro left right step other kind kind' first second published again h
    exact published.sameProcess again h
  · intro probes step kind event published rest
    exact published.read_lineage rest

/-- Probes with one free slot on a kernel of ones, in which each task has the same parent. -/
def ofOnes (task pidTgid : UInt64) : ProbeSite :=
  fresh 1 { kernelMemory := readableKernel, task := task, pidTgid := pidTgid } 0
    (Block.zero scratchSize) (Block.zero Event.size)

theorem publishes_entry_ofOnes {task : UInt64} (present : task ≠ 0) (pidTgid : UInt64) :
    ∃ event, (ofOnes task pidTgid).Publishes (.entry none) .entry event :=
  publishes_entry_of_found (not_metadataLost_readableKernel present) rfl rfl Nat.zero_lt_one none

theorem publishes_exit_ofOnes {task : UInt64} (present : task ≠ 0) (pidTgid : UInt64) :
    ∃ event, (ofOnes task pidTgid).Publishes (.exit (some 0)) .exit event :=
  publishes_exit_of_found (not_metadataLost_readableKernel present) rfl rfl Nat.zero_lt_one (some 0)

/-- A call of a child whose parent returns from one, and two threads of the child's process. -/
theorem ones_linked :
    (ofOnes 4096 0x500000006).machine.ChildOf
        (ofOnes 0x0101010101010101 0x0101010100000009).machine ∧
      (∃ event above, (ofOnes 4096 0x500000006).Publishes (.entry none) .entry event ∧
        (ofOnes 0x0101010101010101 0x0101010100000009).Publishes (.exit (some 0)) .exit above ∧
        event.lineage.ChildOf above.lineage ∧
        ∃ record, Record.ofBytes 0 (event.toBlock.toList ++ [7]) = .ok record ∧
          record.lineage = event.lineage) ∧
      (ofOnes 4096 0x500000006).machine.SameProcess (ofOnes 8192 0x500000007).machine ∧
      ∃ first second, (ofOnes 4096 0x500000006).Publishes (.entry none) .entry first ∧
        (ofOnes 8192 0x500000007).Publishes (.entry none) .entry second ∧
        first.lineage.SameProcess second.lineage := by
  obtain ⟨hchild, hthreads, hread⟩ := lineage_links
  have hparent : (ofOnes 4096 0x500000006).machine.ChildOf
      (ofOnes 0x0101010101010101 0x0101010100000009).machine := by
    refine ⟨rfl, word64?_readableKernel _, by decide, ?_⟩
    change readableKernel.word32? _ = _
    rw [Memory.word32?, read?_readableKernel]
    rfl
  have hprocess : (ofOnes 4096 0x500000006).machine.SameProcess
      (ofOnes 8192 0x500000007).machine := by
    refine ⟨rfl, ?_, by decide⟩
    exact (word64?_readableKernel _).trans (word64?_readableKernel _).symm
  obtain ⟨event, hevent⟩ := publishes_entry_ofOnes (show (4096 : UInt64) ≠ 0 by decide) 0x500000006
  obtain ⟨above, habove⟩ := publishes_exit_ofOnes
    (show (0x0101010101010101 : UInt64) ≠ 0 by decide) 0x0101010100000009
  obtain ⟨second, hsecond⟩ := publishes_entry_ofOnes (show (8192 : UInt64) ≠ 0 by decide)
    0x500000007
  refine ⟨hparent, ⟨event, above, hevent, habove, ?_, ?_⟩, hprocess, event, second, hevent,
    hsecond, ?_⟩
  · exact hchild _ _ _ _ _ _ _ _ hevent habove hparent
  · exact hread _ _ _ _ hevent [7]
  · exact hthreads _ _ _ _ _ _ _ _ hevent hsecond hprocess

end ProbeSite

end BindTrace
