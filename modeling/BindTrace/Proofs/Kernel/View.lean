import BindTrace.Kernel.Task

/-! # What two views of one memory have in common

A view starts at a task and goes through its leader, its parent, and the
parent's leader. Two views of one memory that pass the same task therefore tell
the same about it, whether one of them meets it as the leader of its own task
and the other as the leader of its parent, or both as their own leader.
-/

namespace BindTrace

namespace KernelMemory

variable {memory : KernelMemory}

structure Passed where
  leader : UInt64
  parent : UInt64
  parentLeader : UInt64
  nsproxy : UInt64

def told (memory : KernelMemory) (task : UInt64) (passed : Passed) : TaskView where
  startTime := memory.startTime task
  leaderStartTime := memory.startTime passed.leader
  hostPpid := memory.processNumber passed.parent
  parentStartTime := memory.startTime passed.parentLeader
  nsPid := memory.nsNumber task
  nsTgid := memory.nsNumber passed.leader
  nsPpid := memory.nsNumber passed.parentLeader
  mountNsId := memory.mountNsId passed.nsproxy
  pidNsId := memory.pidNsId passed.nsproxy

/-- A view exists only where the task is, and is told from the pointers that it passes. -/
theorem view?_eq_some {task : UInt64} {view : TaskView} (h : memory.view? task = some view) :
    task ≠ 0 ∧ ∃ passed : Passed,
      memory.word64? (task + Layout.taskGroupLeader) = some passed.leader ∧
      memory.word64? (task + Layout.taskRealParent) = some passed.parent ∧
      memory.parentLeader? passed.parent = some passed.parentLeader ∧
      memory.word64? (task + Layout.taskNsproxy) = some passed.nsproxy ∧
      view = memory.told task passed := by
  unfold view? at h
  by_cases htask : task = 0
  · rw [if_pos htask] at h
    cases h
  · rw [if_neg htask] at h
    simp only [Option.bind_eq_bind, Option.bind_eq_some_iff] at h
    obtain ⟨leader, hleader, parent, hparent, parentLeader, hparentLeader, nsproxy, hnsproxy,
      hview⟩ := h
    have hview := Option.some.inj hview
    exact ⟨htask, ⟨leader, parent, parentLeader, nsproxy⟩, hleader, hparent, hparentLeader,
      hnsproxy, hview.symm⟩

/-- The parent's leader is the leader that the parent itself has. -/
theorem view_of_parent {child parent : UInt64} {childView parentView : TaskView}
    (hchild : memory.view? child = some childView)
    (hparent : memory.view? parent = some parentView)
    (pointer : memory.word64? (child + Layout.taskRealParent) = some parent) :
    childView.hostPpid = (memory.word32? (parent + Layout.taskTgid)).getD 0 ∧
      childView.parentStartTime = parentView.leaderStartTime ∧
      childView.nsPpid = parentView.nsTgid := by
  obtain ⟨-, passed, -, hpassed, hparentLeader, -, rfl⟩ := view?_eq_some hchild
  obtain ⟨present, own, hleader, -, -, -, rfl⟩ := view?_eq_some hparent
  have hsame : passed.parent = parent := by simpa [pointer] using hpassed.symm
  rw [hsame, parentLeader?, if_neg present] at hparentLeader
  have hmeet : passed.parentLeader = own.leader := by
    simpa [hleader] using hparentLeader.symm
  refine ⟨?_, ?_, ?_⟩
  · simp [told, hsame, processNumber, present]
  · simp [told, hmeet]
  · simp [told, hmeet]

theorem view_of_sameLeader {left right : UInt64} {leftView rightView : TaskView}
    (hleft : memory.view? left = some leftView) (hright : memory.view? right = some rightView)
    (sameLeader : memory.word64? (left + Layout.taskGroupLeader) =
      memory.word64? (right + Layout.taskGroupLeader)) :
    leftView.leaderStartTime = rightView.leaderStartTime ∧
      leftView.nsTgid = rightView.nsTgid := by
  obtain ⟨-, passed, hpassed, -, -, -, rfl⟩ := view?_eq_some hleft
  obtain ⟨-, other, hother, -, -, -, rfl⟩ := view?_eq_some hright
  rw [hpassed, hother] at sameLeader
  have hmeet : passed.leader = other.leader := Option.some.inj sameLeader
  simp [told, hmeet]

end KernelMemory

end BindTrace
