import BindTrace.Proofs.Kernel.Chain
import BindTrace.Proofs.Kernel.View

/-! # Faults on the way to one number

A view tells nine numbers, each at the end of a chain of its own. Four pointers
have to be read for there to be a view at all. Whatever else is lost makes those
numbers zero whose chains break on it, and all others stay as they are.
-/

namespace BindTrace

namespace TaskView

inductive Field
  | startTime
  | leaderStartTime
  | parentStartTime
  | hostPpid
  | nsPid
  | nsTgid
  | nsPpid
  | mountNsId
  | pidNsId

def number (view : TaskView) : Field → UInt64
  | .startTime => view.startTime
  | .leaderStartTime => view.leaderStartTime
  | .parentStartTime => view.parentStartTime
  | .hostPpid => view.hostPpid.toUInt64
  | .nsPid => view.nsPid.toUInt64
  | .nsTgid => view.nsTgid.toUInt64
  | .nsPpid => view.nsPpid.toUInt64
  | .mountNsId => view.mountNsId
  | .pidNsId => view.pidNsId

theorem eq_of_number {left right : TaskView}
    (same : ∀ field, left.number field = right.number field) : left = right := by
  have hstartTime := same .startTime
  have hleaderStartTime := same .leaderStartTime
  have hparentStartTime := same .parentStartTime
  have hhostPpid := UInt32.toUInt64_inj.mp (same .hostPpid)
  have hnsPid := UInt32.toUInt64_inj.mp (same .nsPid)
  have hnsTgid := UInt32.toUInt64_inj.mp (same .nsTgid)
  have hnsPpid := UInt32.toUInt64_inj.mp (same .nsPpid)
  have hmountNsId := same .mountNsId
  have hpidNsId := same .pidNsId
  cases left
  cases right
  simp_all only [number]

namespace Field

open KernelMemory (Chain)

def chain : Field → Chain
  | startTime => ⟨[], .member .word64 Layout.taskStartTime⟩
  | leaderStartTime => ⟨[Layout.taskGroupLeader], .member .word64 Layout.taskStartTime⟩
  | parentStartTime =>
      ⟨[Layout.taskRealParent, Layout.taskGroupLeader], .member .word64 Layout.taskStartTime⟩
  | hostPpid => ⟨[Layout.taskRealParent], .member .word32 Layout.taskTgid⟩
  | nsPid => ⟨[Layout.taskThreadPid], .ownNumber⟩
  | nsTgid => ⟨[Layout.taskGroupLeader, Layout.taskThreadPid], .ownNumber⟩
  | nsPpid =>
      ⟨[Layout.taskRealParent, Layout.taskGroupLeader, Layout.taskThreadPid], .ownNumber⟩
  | mountNsId => ⟨[Layout.taskNsproxy, Layout.nsproxyMnt], .member .word32 Layout.mntNsNumber⟩
  | pidNsId =>
      ⟨[Layout.taskNsproxy, Layout.nsproxyPidForChildren], .member .word32 Layout.pidNsNumber⟩

end Field

end TaskView

namespace KernelMemory

open Memory (Within)

variable {memory other : KernelMemory} {task : UInt64}

/-! ## Numbers of views and of chains -/

theorem follow?_null (last : ChainEnd) (pointers : List UInt64) :
    memory.follow? last pointers 0 = none :=
  follow?_eq_none_iff.mpr (.null pointers)

theorem follow?_next {base offset target : UInt64} {last : ChainEnd} {rest : List UInt64}
    (present : base ≠ 0) (pointer : memory.word64? (base + offset) = some target) :
    memory.follow? last (offset :: rest) base = memory.follow? last rest target := by
  rw [follow?, if_neg present, pointer, Option.bind_some]

theorem toUInt64_getD (number : Option UInt32) :
    (number.getD 0).toUInt64 = (number.map UInt32.toUInt64).getD 0 := by
  cases number <;> rfl

theorem startTime_eq (memory : KernelMemory) (task : UInt64) :
    memory.startTime task =
      (memory.follow? (.member .word64 Layout.taskStartTime) [] task).getD 0 := by
  rw [startTime, follow?]
  by_cases null : task = 0
  · rw [if_pos null, if_pos null, Option.getD_none]
  · rw [if_neg null, if_neg null]
    rfl

theorem processNumber_eq (memory : KernelMemory) (task : UInt64) :
    (memory.processNumber task).toUInt64 =
      (memory.follow? (.member .word32 Layout.taskTgid) [] task).getD 0 := by
  rw [processNumber, follow?]
  by_cases null : task = 0
  · rw [if_pos null, if_pos null]
    rfl
  · rw [if_neg null, if_neg null, toUInt64_getD]
    rfl

theorem follow?_pointer {base offset : UInt64} {last : ChainEnd} {rest : List UInt64}
    (present : base ≠ 0) :
    memory.follow? last (offset :: rest) base =
      (memory.pointer? (base + offset)).bind fun target => memory.follow? last rest target := by
  rw [follow?, if_neg present, Memory.pointer?]
  cases memory.word64? (base + offset) with
  | none => rfl
  | some target =>
      by_cases null : target = 0
      · subst null
        exact follow?_null last rest
      · rw [Option.filter_some, if_pos (by simpa using null)]

theorem nsNumber_eq (memory : KernelMemory) (task : UInt64) :
    (memory.nsNumber task).toUInt64 =
      (memory.follow? .ownNumber [Layout.taskThreadPid] task).getD 0 := by
  rw [nsNumber]
  by_cases null : task = 0
  · subst null
    rw [follow?_null]
    rfl
  · rw [if_neg null, follow?_pointer null]
    cases hpid : memory.pointer? (task + Layout.taskThreadPid) with
    | none => rfl
    | some pid =>
        have present := (Memory.pointer?_eq_some_iff.mp hpid).2
        rw [Option.bind_some, follow?, if_neg present, spot?, levelOf]
        dsimp only
        split
        · rfl
        · rw [toUInt64_getD]
          rfl

theorem namespaceId_eq (memory : KernelMemory) (member number nsproxy : UInt64) :
    memory.namespaceId member number nsproxy =
      (memory.follow? (.member .word32 number) [member] nsproxy).getD 0 := by
  rw [namespaceId]
  by_cases null : nsproxy = 0
  · subst null
    rw [follow?_null]
    rfl
  · rw [if_neg null, follow?_pointer null]
    cases hns : memory.pointer? (nsproxy + member) with
    | none => rfl
    | some ns =>
        have present := (Memory.pointer?_eq_some_iff.mp hns).2
        rw [Option.bind_some, follow?, if_neg present]
        rfl

/-- From the parent on, a chain leads through the leader of the parent, if there is a parent. -/
theorem follow?_parentLeader {parent leader : UInt64} {last : ChainEnd} {rest : List UInt64}
    (hleader : memory.parentLeader? parent = some leader) :
    memory.follow? last (Layout.taskGroupLeader :: rest) parent =
      memory.follow? last rest leader := by
  rw [parentLeader?] at hleader
  split at hleader
  · next null =>
      cases hleader
      rw [null, follow?_null, follow?_null]
  · next present => exact follow?_next present hleader

/-- Each number of a view is that of its chain, and zero if there is none. -/
theorem number_eq_follow? {view : TaskView} (hview : memory.view? task = some view)
    (field : TaskView.Field) :
    view.number field = (memory.follow? field.chain.last field.chain.pointers task).getD 0 := by
  obtain ⟨present, passed, hleader, hparent, hparentLeader, hnsproxy, rfl⟩ := view?_eq_some hview
  cases field with
  | startTime => exact memory.startTime_eq task
  | leaderStartTime =>
      rw [TaskView.Field.chain, follow?_next present hleader]
      exact memory.startTime_eq passed.leader
  | parentStartTime =>
      rw [TaskView.Field.chain, follow?_next present hparent, follow?_parentLeader hparentLeader]
      exact memory.startTime_eq passed.parentLeader
  | hostPpid =>
      rw [TaskView.Field.chain, follow?_next present hparent]
      exact memory.processNumber_eq passed.parent
  | nsPid => exact memory.nsNumber_eq task
  | nsTgid =>
      rw [TaskView.Field.chain, follow?_next present hleader]
      exact memory.nsNumber_eq passed.leader
  | nsPpid =>
      rw [TaskView.Field.chain, follow?_next present hparent, follow?_parentLeader hparentLeader]
      exact memory.nsNumber_eq passed.parentLeader
  | mountNsId =>
      rw [TaskView.Field.chain, follow?_next present hnsproxy]
      exact memory.namespaceId_eq Layout.nsproxyMnt Layout.mntNsNumber passed.nsproxy
  | pidNsId =>
      rw [TaskView.Field.chain, follow?_next present hnsproxy]
      exact memory.namespaceId_eq Layout.nsproxyPidForChildren Layout.pidNsNumber passed.nsproxy

/-! ## What every view needs -/

/-- The bytes of the pointers that every view needs. -/
inductive Required (memory : KernelMemory) (task : UInt64) (place : Nat) : Prop
  | leader (within : Within (task + Layout.taskGroupLeader) 8 place)
  | parent (within : Within (task + Layout.taskRealParent) 8 place)
  | parentLeader {parent : UInt64}
      (hparent : memory.word64? (task + Layout.taskRealParent) = some parent)
      (present : parent ≠ 0) (within : Within (parent + Layout.taskGroupLeader) 8 place)
  | nsproxy (within : Within (task + Layout.taskNsproxy) 8 place)

/-- Memories with the same required bytes have a view both or none. -/
theorem viewLost_congr
    (same : ∀ place, memory.Required task place → other.byte? place = memory.byte? place) :
    other.ViewLost task ↔ memory.ViewLost task := by
  have hleader := Memory.word64?_congr fun place within => same place (.leader within)
  have hparent := Memory.word64?_congr fun place within => same place (.parent within)
  have hnsproxy := Memory.word64?_congr fun place within => same place (.nsproxy within)
  have hparentLeader : ∀ parent,
      memory.word64? (task + Layout.taskRealParent) = some parent →
        other.parentLeader? parent = memory.parentLeader? parent := by
    intro parent hread
    rw [parentLeader?, parentLeader?]
    by_cases null : parent = 0
    · rw [if_pos null, if_pos null]
    · rw [if_neg null, if_neg null]
      exact Memory.word64?_congr fun place within => same place (.parentLeader hread null within)
  rw [viewLost_iff, viewLost_iff, view?_eq_none_iff, view?_eq_none_iff, hleader, hparent, hnsproxy]
  refine or_congr_right (or_congr_right (or_congr_right (or_congr_left ?_)))
  refine exists_congr fun parent => and_congr_right fun hread => ?_
  rw [hparentLeader parent hread]

/-! ## One number and the others -/

/-- A view tells each number as its chain does, and zero where the chain breaks. -/
structure Faithful (memory : KernelMemory) (task : UInt64) (view : TaskView) : Prop where
  number_eq : ∀ field value,
    memory.Tells field.chain.last field.chain.pointers task value → view.number field = value
  zero_of_breaks : ∀ field,
    memory.Breaks field.chain.last field.chain.pointers task → view.number field = 0

/-- Of two views of a task, the later one is changed only where its memory is. -/
structure ChangedApart (memory other : KernelMemory) (task : UInt64) (view after : TaskView) :
    Prop where
  kept : ∀ field : TaskView.Field,
    (∀ purpose place,
      memory.Reads field.chain.last field.chain.pointers task purpose place →
        other.byte? place = memory.byte? place) →
    after.number field = view.number field
  lost : other.LosesFrom memory → ∀ (field : TaskView.Field) (place : Nat),
    memory.Reads field.chain.last field.chain.pointers task .vital place →
    other.byte? place = none →
    (∀ place, memory.Reads field.chain.last field.chain.pointers task .level place →
      other.byte? place = memory.byte? place) →
    after.number field = 0

theorem faithful {view : TaskView} (hview : memory.view? task = some view) :
    memory.Faithful task view where
  number_eq field value tells := by
    rw [number_eq_follow? hview, follow?_eq_some_iff.mpr tells, Option.getD_some]
  zero_of_breaks field breaks := by
    rw [number_eq_follow? hview, follow?_eq_none_iff.mpr breaks, Option.getD_none]

/-- So a view is told by its chains alone. -/
theorem Faithful.unique {view other : TaskView} (faithful : memory.Faithful task view)
    (again : memory.Faithful task other) : view = other := by
  refine TaskView.eq_of_number fun field => ?_
  rcases memory.tells_or_breaks field.chain.last field.chain.pointers task with
    ⟨value, tells⟩ | breaks
  · rw [faithful.number_eq field value tells, again.number_eq field value tells]
  · rw [faithful.zero_of_breaks field breaks, again.zero_of_breaks field breaks]

theorem changedApart {view after : TaskView} (hview : memory.view? task = some view)
    (hafter : other.view? task = some after) : ChangedApart memory other task view after where
  kept field same := by
    rw [number_eq_follow? hafter, number_eq_follow? hview, follow?_congr same]
  lost loses field _ vital lost kept :=
    (faithful hafter).zero_of_breaks field (loses.breaks vital lost kept)

/--
A view exists unless one of the pointers that it needs cannot be read, each of its numbers is told
by a chain of its own or is zero, and a fault on one chain leaves the numbers of the others alone.
-/
theorem faults_apart (memory : KernelMemory) (task : UInt64) :
    (memory.view? task = none ↔ memory.ViewLost task) ∧
    (∀ view, memory.view? task = some view → memory.Faithful task view) ∧
    (∀ field : TaskView.Field,
      (∃ value, memory.Tells field.chain.last field.chain.pointers task value) ∨
        memory.Breaks field.chain.last field.chain.pointers task) ∧
    ∀ other : KernelMemory,
      (∀ place, memory.Required task place → other.byte? place = memory.byte? place) →
      (other.view? task = none ↔ memory.view? task = none) ∧
      ∀ view after, memory.view? task = some view → other.view? task = some after →
        ChangedApart memory other task view after := by
  refine ⟨viewLost_iff.symm, fun view hview => faithful hview, ?_, ?_⟩
  · intro field
    exact memory.tells_or_breaks field.chain.last field.chain.pointers task
  · intro other same
    refine ⟨?_, fun view after hview hafter => changedApart hview hafter⟩
    rw [← viewLost_iff, ← viewLost_iff]
    exact viewLost_congr same

/-- Memory of ones, but for the level of the pid to which all pointers lead, which is zero. -/
def shallowKernel : KernelMemory where
  byte? := fun address =>
    if 0x0101010101010105 ≤ address ∧ address < 0x0101010101010109 then some 0 else some 1

/-- The same memory, from which the start time of the task at 4096 is lost. -/
def fadedKernel : KernelMemory :=
  shallowKernel.unmap 5648 8

theorem byte?_fadedKernel {address : UInt64} {n place : Nat} (within : Within address n place)
    (apart : address.toNat + n ≤ 5648 ∨ 5656 ≤ address.toNat) :
    fadedKernel.byte? place = shallowKernel.byte? place := by
  obtain ⟨hfirst, hlast⟩ := within
  exact if_neg (by omega)

theorem required_fadedKernel {place : Nat} (required : shallowKernel.Required 4096 place) :
    fadedKernel.byte? place = shallowKernel.byte? place := by
  have hparent : shallowKernel.word64? (4096 + Layout.taskRealParent) =
      some 0x0101010101010101 := by
    decide +kernel
  cases required with
  | leader within => exact byte?_fadedKernel within (by decide)
  | parent within => exact byte?_fadedKernel within (by decide)
  | parentLeader hother _ within =>
      rw [hparent] at hother
      cases hother
      exact byte?_fadedKernel within (by decide)
  | nsproxy within => exact byte?_fadedKernel within (by decide)

theorem nsPid_fadedKernel {purpose : Purpose} {place : Nat}
    (reads : shallowKernel.Reads .ownNumber [Layout.taskThreadPid] 4096 purpose place) :
    fadedKernel.byte? place = shallowKernel.byte? place := by
  have hpid : shallowKernel.word64? (4096 + Layout.taskThreadPid) = some 0x0101010101010101 := by
    decide +kernel
  have hspot : shallowKernel.spot? 0x0101010101010101 .ownNumber =
      some (0x0101010101010101 + Layout.pidNumbers, .word32) := by
    decide +kernel
  cases reads with
  | pointer _ within => exact byte?_fadedKernel within (by decide)
  | beyond _ pointer onward =>
      rw [hpid] at pointer
      cases pointer
      cases onward with
      | level _ _ within => exact byte?_fadedKernel within (by decide)
      | number _ stands within =>
          rw [← spot?_eq_some_iff, hspot] at stands
          cases stands
          exact byte?_fadedKernel within (by decide)

/-- The start time that is lost becomes zero, and the number in the pid namespace stays. -/
theorem faded_startTime :
    ∃ view after, shallowKernel.view? 4096 = some view ∧ fadedKernel.view? 4096 = some after ∧
      view.startTime = 0x0101010101010101 ∧ after.startTime = 0 ∧
      view.nsPid = 0x01010101 ∧ after.nsPid.toUInt64 = view.nsPid.toUInt64 := by
  obtain ⟨-, -, -, hother⟩ := faults_apart shallowKernel 4096
  obtain ⟨hlost, hchanged⟩ := hother fadedKernel fun _ required => required_fadedKernel required
  have hview : shallowKernel.view? 4096 = some {
      startTime := 0x0101010101010101, leaderStartTime := 0x0101010101010101
      hostPpid := 0x01010101, parentStartTime := 0x0101010101010101
      nsPid := 0x01010101, nsTgid := 0x01010101, nsPpid := 0x01010101
      mountNsId := 0x01010101, pidNsId := 0x01010101 } := by
    decide +kernel
  have hafter : ∃ after, fadedKernel.view? 4096 = some after := by
    refine Option.ne_none_iff_exists'.mp fun hnone => ?_
    rw [hlost, hview] at hnone
    cases hnone
  obtain ⟨after, hafter⟩ := hafter
  have changed := hchanged _ after hview hafter
  refine ⟨_, after, hview, hafter, rfl, ?_, rfl, ?_⟩
  · refine changed.lost ?_ .startTime 5648
      (.number (by decide) (.member _ _) ⟨by decide, by decide⟩) rfl ?_
    · intro place
      by_cases hplace : 5648 ≤ place ∧ place < 5656
      · exact .inl (if_pos hplace)
      · exact .inr (if_neg hplace)
    · intro place reads
      cases reads with
      | level _ own _ => cases own
  · exact changed.kept .nsPid fun _ _ reads => nsPid_fadedKernel reads

end KernelMemory

end BindTrace
