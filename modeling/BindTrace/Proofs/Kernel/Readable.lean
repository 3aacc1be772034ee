import BindTrace.Kernel.Task

/-! # When the current task can be described

A record needs the task, its leader, its parent with the parent's leader, and
the names of the node. Every pointer on the way to one of these must be mapped,
and the namespaces and names must be there at all. All other reads of the walk
may fail without the record being lost.
-/

namespace BindTrace

namespace Memory

theorem read?_eq_none_iff {memory : Memory} {address : UInt64} {n : Nat} :
    memory.read? address n = none ↔ ¬ memory.Mapped address n := by
  rw [← read?_isSome, Bool.not_eq_true, Option.isSome_eq_false_iff, Option.isNone_iff_eq_none]

theorem word64?_eq_none_iff {memory : Memory} {address : UInt64} :
    memory.word64? address = none ↔ ¬ memory.Mapped address 8 := by
  rw [word64?, Option.map_eq_none_iff, read?_eq_none_iff]

theorem pointer?_eq_some_iff {memory : Memory} {address target : UInt64} :
    memory.pointer? address = some target ↔ memory.word64? address = some target ∧ target ≠ 0 := by
  simp [pointer?, Option.filter_eq_some_iff]

end Memory

namespace KernelMemory

variable {memory : KernelMemory} {task : UInt64}

inductive ViewLost (memory : KernelMemory) (task : UInt64) : Prop
  | noTask (null : task = 0)
  | leader (unmapped : ¬ memory.Mapped (task + Layout.taskGroupLeader) 8)
  | parent (unmapped : ¬ memory.Mapped (task + Layout.taskRealParent) 8)
  | parentLeader {parent : UInt64}
      (hparent : memory.word64? (task + Layout.taskRealParent) = some parent)
      (present : parent ≠ 0) (unmapped : ¬ memory.Mapped (parent + Layout.taskGroupLeader) 8)
  | nsproxy (unmapped : ¬ memory.Mapped (task + Layout.taskNsproxy) 8)

/-- What makes a record impossible: there is no view, or the names of the node are lost. -/
inductive MetadataLost (memory : KernelMemory) (task : UInt64) : Prop
  | view (lost : memory.ViewLost task)
  | noNsproxy (null : memory.word64? (task + Layout.taskNsproxy) = some 0)
  | uts {nsproxy : UInt64} (hnsproxy : memory.word64? (task + Layout.taskNsproxy) = some nsproxy)
      (unmapped : ¬ memory.Mapped (nsproxy + Layout.nsproxyUts) 8)
  | noUts {nsproxy : UInt64} (hnsproxy : memory.word64? (task + Layout.taskNsproxy) = some nsproxy)
      (null : memory.word64? (nsproxy + Layout.nsproxyUts) = some 0)
  | names {nsproxy uts : UInt64}
      (hnsproxy : memory.word64? (task + Layout.taskNsproxy) = some nsproxy)
      (huts : memory.word64? (nsproxy + Layout.nsproxyUts) = some uts)
      (unmapped : ¬ memory.Mapped (uts + Layout.utsNames) 390)

theorem parentLeader?_eq_none_iff {parent : UInt64} :
    memory.parentLeader? parent = none ↔
      parent ≠ 0 ∧ ¬ memory.Mapped (parent + Layout.taskGroupLeader) 8 := by
  unfold parentLeader?
  by_cases hparent : parent = 0
  · rw [if_pos hparent]
    constructor
    · intro h
      cases h
    · intro h
      exact absurd hparent h.1
  · rw [if_neg hparent, Memory.word64?_eq_none_iff]
    exact ⟨fun h => ⟨hparent, h⟩, fun h => h.2⟩

/-- A view needs four pointers, the last only if there is a parent. -/
theorem view?_eq_none_iff :
    memory.view? task = none ↔
      task = 0 ∨ memory.word64? (task + Layout.taskGroupLeader) = none ∨
        memory.word64? (task + Layout.taskRealParent) = none ∨
        (∃ parent, memory.word64? (task + Layout.taskRealParent) = some parent ∧
          memory.parentLeader? parent = none) ∨
        memory.word64? (task + Layout.taskNsproxy) = none := by
  unfold view?
  by_cases htask : task = 0
  · simp [htask]
  · rw [if_neg htask]
    cases hleader : memory.word64? (task + Layout.taskGroupLeader) with
    | none => simp
    | some leader =>
        cases hparent : memory.word64? (task + Layout.taskRealParent) with
        | none => simp
        | some parent =>
            cases hparentLeader : memory.parentLeader? parent with
            | none => simp [hparentLeader]
            | some parentLeader =>
                cases hnsproxy : memory.word64? (task + Layout.taskNsproxy) with
                | none => simp [hparentLeader]
                | some nsproxy => simp [htask, hparentLeader]

theorem viewLost_iff : memory.ViewLost task ↔ memory.view? task = none := by
  rw [view?_eq_none_iff]
  constructor
  · intro lost
    cases lost with
    | noTask null => exact .inl null
    | leader unmapped => exact .inr (.inl (Memory.word64?_eq_none_iff.mpr unmapped))
    | parent unmapped => exact .inr (.inr (.inl (Memory.word64?_eq_none_iff.mpr unmapped)))
    | parentLeader hparent present unmapped =>
        have hlost := parentLeader?_eq_none_iff.mpr ⟨present, unmapped⟩
        exact .inr (.inr (.inr (.inl ⟨_, hparent, hlost⟩)))
    | nsproxy unmapped =>
        exact .inr (.inr (.inr (.inr (Memory.word64?_eq_none_iff.mpr unmapped))))
  · rintro (null | hleader | hparent | ⟨parent, hparent, hlost⟩ | hnsproxy)
    · exact .noTask null
    · exact .leader (Memory.word64?_eq_none_iff.mp hleader)
    · exact .parent (Memory.word64?_eq_none_iff.mp hparent)
    · obtain ⟨present, unmapped⟩ := parentLeader?_eq_none_iff.mp hlost
      exact .parentLeader hparent present unmapped
    · exact .nsproxy (Memory.word64?_eq_none_iff.mp hnsproxy)

/-- The names of the node are behind two pointers that must not be null. -/
theorem node?_eq_none_iff :
    memory.node? task = none ↔
      task = 0 ∨ memory.pointer? (task + Layout.taskNsproxy) = none ∨
        ∃ nsproxy, memory.pointer? (task + Layout.taskNsproxy) = some nsproxy ∧
          (memory.pointer? (nsproxy + Layout.nsproxyUts) = none ∨
            ∃ uts, memory.pointer? (nsproxy + Layout.nsproxyUts) = some uts ∧
              ¬ memory.Mapped (uts + Layout.utsNames) 390) := by
  unfold node?
  by_cases htask : task = 0
  · simp [htask]
  · rw [if_neg htask]
    cases hnsproxy : memory.pointer? (task + Layout.taskNsproxy) with
    | none => simp
    | some nsproxy =>
        cases huts : memory.pointer? (nsproxy + Layout.nsproxyUts) with
        | none => simp [huts]
        | some uts => simp [htask, huts, Memory.read?_eq_none_iff]

theorem pointer?_eq_none_iff {address : UInt64} :
    memory.pointer? address = none ↔
      ¬ memory.Mapped address 8 ∨ memory.word64? address = some 0 := by
  rw [← Memory.word64?_eq_none_iff, Memory.pointer?]
  cases hword : memory.word64? address with
  | none => simp
  | some word => simp [Option.filter_some]

theorem pointer?_of_word {address word : UInt64} (hword : memory.word64? address = some word) :
    memory.pointer? address = none ∨ memory.pointer? address = some word := by
  by_cases hnull : word = 0
  · subst hnull
    exact .inl (pointer?_eq_none_iff.mpr (.inr hword))
  · exact .inr (Memory.pointer?_eq_some_iff.mpr ⟨hword, hnull⟩)

/-- Where all is mapped, only a null pointer can stand in the way. -/
theorem not_metadataLost_of_mapped {nsproxy uts : UInt64} (present : task ≠ 0)
    (mapped : ∀ address n, memory.Mapped address n)
    (hnsproxy : memory.word64? (task + Layout.taskNsproxy) = some nsproxy)
    (nsproxyPresent : nsproxy ≠ 0)
    (huts : memory.word64? (nsproxy + Layout.nsproxyUts) = some uts) (utsPresent : uts ≠ 0) :
    ¬ MetadataLost memory task := by
  intro lost
  cases lost with
  | view lost =>
      cases lost with
      | noTask null => exact present null
      | leader unmapped => exact unmapped (mapped _ _)
      | parent unmapped => exact unmapped (mapped _ _)
      | parentLeader _ _ unmapped => exact unmapped (mapped _ _)
      | nsproxy unmapped => exact unmapped (mapped _ _)
  | noNsproxy null =>
      rw [hnsproxy] at null
      exact nsproxyPresent (Option.some.inj null)
  | uts _ unmapped => exact unmapped (mapped _ _)
  | noUts hother null =>
      rw [hnsproxy] at hother
      cases hother
      rw [huts] at null
      exact utsPresent (Option.some.inj null)
  | names _ _ unmapped => exact unmapped (mapped _ _)

/-- A task cannot be described exactly when something is lost that every record needs. -/
theorem metadataLost_iff :
    MetadataLost memory task ↔ memory.view? task = none ∨ memory.node? task = none := by
  rw [← viewLost_iff, node?_eq_none_iff]
  constructor
  · intro lost
    cases lost with
    | view lost => exact .inl lost
    | noNsproxy null => exact .inr (.inr (.inl (pointer?_eq_none_iff.mpr (.inr null))))
    | uts hnsproxy unmapped =>
        rcases pointer?_of_word hnsproxy with hnull | hproxy
        · exact .inr (.inr (.inl hnull))
        · have huts := pointer?_eq_none_iff.mpr (.inl unmapped)
          exact .inr (.inr (.inr ⟨_, hproxy, .inl huts⟩))
    | noUts hnsproxy null =>
        rcases pointer?_of_word hnsproxy with hnull | hproxy
        · exact .inr (.inr (.inl hnull))
        · have huts := pointer?_eq_none_iff.mpr (.inr null)
          exact .inr (.inr (.inr ⟨_, hproxy, .inl huts⟩))
    | names hnsproxy huts unmapped =>
        rcases pointer?_of_word hnsproxy with hnull | hproxy
        · exact .inr (.inr (.inl hnull))
        · rcases pointer?_of_word huts with hnull | huts
          · exact .inr (.inr (.inr ⟨_, hproxy, .inl hnull⟩))
          · exact .inr (.inr (.inr ⟨_, hproxy, .inr ⟨_, huts, unmapped⟩⟩))
  · rintro (lost | null | hnsproxy | ⟨nsproxy, hnsproxy, hlost⟩)
    · exact .view lost
    · exact .view (.noTask null)
    · rcases pointer?_eq_none_iff.mp hnsproxy with unmapped | null
      · exact .view (.nsproxy unmapped)
      · exact .noNsproxy null
    · have hproxy := (Memory.pointer?_eq_some_iff.mp hnsproxy).1
      rcases hlost with huts | ⟨uts, huts, unmapped⟩
      · rcases pointer?_eq_none_iff.mp huts with unmapped | null
        · exact .uts hproxy unmapped
        · exact .noUts hproxy null
      · exact .names hproxy (Memory.pointer?_eq_some_iff.mp huts).1 unmapped

end KernelMemory

end BindTrace
