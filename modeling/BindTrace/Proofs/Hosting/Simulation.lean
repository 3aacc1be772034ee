import BindTrace.Proofs.Capture.Ending
import BindTrace.Proofs.Channel.ByteRing
import BindTrace.Proofs.Probes.Publication

/-! # Firing in step on two channels

A ring of slots and a ring of bytes of the right size cannot be told apart by
what they grant, refuse and release. Two sites on such rings answer alike
whenever what can be learned is the same; the scratch buffers may differ, for a
path does not depend on what the buffer held.
-/

namespace BindTrace

/-! ## Channels in step -/

/-- A relation of channels that every operation on both of them keeps up. -/
structure RecordChannel.Simulates {ρ σ : Type} [RecordChannel ρ] [RecordChannel σ]
    (related : ρ → σ → Prop) : Prop where
  reserve {left : ρ} {right : σ} : related left right →
    (reserve? left = none ∧ reserve? right = none) ∨
      ∃ slot later slot' later', reserve? left = some (slot, later) ∧
        reserve? right = some (slot', later') ∧ related later later'
  publish {left : ρ} {right : σ} (event : Event) : related left right →
    related (publish left event) (publish right event)
  discard {left : ρ} {right : σ} (bytes bytes' : Block Event.size) : related left right →
    related (discard left bytes) (discard right bytes')
  pop {left : ρ} {right : σ} : related left right →
    (pop? left = none ∧ pop? right = none) ∨
      ∃ event later later', pop? left = some (event, later) ∧ pop? right = some (event, later') ∧
        related later later'

/-- Each slot is worth the bytes of one record. -/
structure SlotRing.InBytes (slots : SlotRing) (bytes : ByteRing) : Prop where
  capacity_eq : bytes.capacity = Event.size * slots.slots
  reserved_eq : bytes.reserved = Event.size * slots.taken
  ready_eq : bytes.ready = slots.ready
  discarded_eq : bytes.discarded = slots.discarded

namespace SlotRing

variable {slots : SlotRing} {bytes : ByteRing}

theorem InBytes.room_iff (same : slots.InBytes bytes) :
    slots.taken < slots.slots ↔ bytes.reserved + Event.size ≤ bytes.capacity := by
  have hcapacity : bytes.capacity = 1176 * slots.slots := same.capacity_eq
  have hreserved : bytes.reserved = 1176 * slots.taken := same.reserved_eq
  change _ ↔ bytes.reserved + 1176 ≤ bytes.capacity
  omega

theorem InBytes.reserve (same : slots.InBytes bytes) :
    (RecordChannel.reserve? slots = none ∧ RecordChannel.reserve? bytes = none) ∨
      ∃ slot later slot' later', RecordChannel.reserve? slots = some (slot, later) ∧
        RecordChannel.reserve? bytes = some (slot', later') ∧ later.InBytes later' := by
  by_cases free : slots.taken < slots.slots
  · have room := same.room_iff.mp free
    refine .inr ⟨_, _, _, _, reserve?_eq_some_iff.mpr ⟨free, rfl, rfl⟩,
      ByteRing.reserve?_eq_some_iff.mpr ⟨room, rfl, rfl⟩, ?_⟩
    refine ⟨same.capacity_eq, ?_, same.ready_eq, same.discarded_eq⟩
    change bytes.reserved + Event.size = Event.size * (slots.taken + 1)
    rw [same.reserved_eq, Nat.mul_succ]
  · have full : slots.slots ≤ slots.taken := Nat.le_of_not_lt free
    have noRoom : bytes.capacity < bytes.reserved + Event.size :=
      Nat.lt_of_not_le fun room => free (same.room_iff.mpr room)
    exact .inl ⟨reserve?_eq_none_iff.mpr full, ByteRing.reserve?_eq_none_iff.mpr noRoom⟩

theorem InBytes.pop (same : slots.InBytes bytes) :
    (RecordChannel.pop? slots = none ∧ RecordChannel.pop? bytes = none) ∨
      ∃ event later later', RecordChannel.pop? slots = some (event, later) ∧
        RecordChannel.pop? bytes = some (event, later') ∧ later.InBytes later' := by
  change (slots.pop? = none ∧ bytes.pop? = none) ∨ ∃ event later later',
    slots.pop? = some (event, later) ∧ bytes.pop? = some (event, later') ∧ later.InBytes later'
  have hready := same.ready_eq
  rw [pop?, ByteRing.pop?, hready]
  cases slots.ready with
  | nil => exact .inl ⟨rfl, rfl⟩
  | cons event rest =>
      have hfreed : bytes.reserved - Event.size = Event.size * (slots.taken - 1) := by
        rw [same.reserved_eq, Nat.mul_sub_one]
      refine .inr ⟨_, _, _, rfl, rfl, ?_⟩
      constructor <;> dsimp only
      · exact same.capacity_eq
      · exact hfreed
      · exact same.discarded_eq

theorem InBytes.discard (same : slots.InBytes bytes) (held held' : Block Event.size) :
    InBytes (RecordChannel.discard slots held) (RecordChannel.discard bytes held') := by
  change InBytes (SlotRing.discard slots held) (ByteRing.discard bytes held')
  have hfreed : bytes.reserved - Event.size = Event.size * (slots.taken - 1) := by
    rw [same.reserved_eq, Nat.mul_sub_one]
  rw [SlotRing.discard, ByteRing.discard]
  constructor <;> dsimp only
  · exact same.capacity_eq
  · exact hfreed
  · exact same.ready_eq
  · rw [same.discarded_eq]

theorem inBytes_simulates : RecordChannel.Simulates InBytes where
  reserve same := same.reserve
  publish event same := by
    refine ⟨same.capacity_eq, same.reserved_eq, ?_, same.discarded_eq⟩
    exact congrArg (· ++ [event]) same.ready_eq
  discard held held' same := same.discard held held'
  pop same := same.pop

end SlotRing

/-! ## Learning the same -/

/-- Two surroundings tell the same, but may use the scratch buffer in different ways. -/
structure Surroundings.Agree (left right : Surroundings) : Prop where
  syscall_eq : left.syscall = right.syscall
  processor_eq : left.processor = right.processor
  pidTgid_eq : left.pidTgid = right.pidTgid
  uidGid_eq : left.uidGid = right.uidGid
  cgroupId_eq : left.cgroupId = right.cgroupId
  comm_eq : left.comm = right.comm
  task_eq : left.task? = right.task?
  node_eq : left.node? = right.node?
  counter_eq : left.counterAvailable = right.counterAvailable
  scratch_eq : left.scratchAvailable = right.scratchAvailable
  path_eq : ∀ path scratch scratch',
    (left.assemblePath path scratch).2 = (right.assemblePath path scratch').2

namespace Surroundings.Agree

variable {left right : Surroundings}

theorem hostTgid_eq (agree : left.Agree right) : left.hostTgid = right.hostTgid :=
  congrArg highWord agree.pidTgid_eq

theorem fillContext_eq (agree : left.Agree right) (now : UInt64) (task : TaskView) (node : Node)
    (context : Context) :
    left.fillContext now task node context = right.fillContext now task node context := by
  simp only [fillContext, fillStamp, fillIdentity, hostTgid, agree.syscall_eq, agree.processor_eq,
    agree.pidTgid_eq, agree.uidGid_eq, agree.cgroupId_eq, agree.comm_eq]

/-- The same record comes of it, whatever the buffers held. -/
theorem fill_eq (agree : left.Agree right) (kind : Kind) (now : UInt64) (scratch scratch' : Scratch)
    (record : Event) :
    (left.fill kind now scratch record).2 = (right.fill kind now scratch' record).2 := by
  unfold fill
  rw [agree.task_eq, agree.node_eq, agree.scratch_eq]
  cases right.task? with
  | none => rfl
  | some task =>
      cases right.node? with
      | none => rfl
      | some node =>
          dsimp only
          split
          · have hcwd := agree.path_eq .cwd scratch scratch'
            have hexe := agree.path_eq .exe (left.assemblePath .cwd scratch).1
              (right.assemblePath .cwd scratch').1
            simp only [fillPaths, hcwd, hexe, agree.fillContext_eq]
          · rfl

end Surroundings.Agree

/-! ## Sites in step -/

namespace Site

variable {ρ σ : Type} {related : ρ → σ → Prop} {left : Site ρ} {right : Site σ}
  {env env' : Surroundings}

/-- Two sites that differ in nothing but their channels and what the buffers hold. -/
structure Alike (related : ρ → σ → Prop) (left : Site ρ) (right : Site σ) : Prop where
  channel : related left.channel right.channel
  triggers_eq : left.triggers = right.triggers
  clock_eq : left.clock = right.clock

theorem Alike.count (alike : Alike related left right) (agree : env.Agree env') :
    Alike related (left.count env) (right.count env') := by
  refine ⟨?_, ?_, ?_⟩
  · rw [channel_count, channel_count]
    exact alike.channel
  · rw [triggers_count, triggers_count, agree.counter_eq, agree.processor_eq, alike.triggers_eq]
  · rw [clock_count, clock_count]
    exact alike.clock_eq

variable [RecordChannel ρ] [RecordChannel σ]

theorem Alike.openDraft (simulates : RecordChannel.Simulates related)
    (alike : Alike related left right) (agree : env.Agree env') (config : SelfFilter)
    (kind : Kind) :
    (left.openDraft config env kind).1 = (right.openDraft config env' kind).1 ∧
      Alike related (left.openDraft config env kind).2 (right.openDraft config env' kind).2 := by
  have hcounted := alike.count agree
  have hclock := hcounted.clock_eq
  unfold Site.openDraft
  dsimp only
  rw [agree.hostTgid_eq]
  split
  · rcases simulates.reserve hcounted.channel with
      ⟨hleft, hright⟩ | ⟨slot, later, slot', later', hleft, hright, hrelated⟩
    · rw [hleft, hright]
      exact ⟨rfl, hcounted⟩
    · rw [hleft, hright]
      dsimp only
      -- Both slots are cleared, so the draft does not tell which of the channels it is on.
      rw [Draft.clear_eq, Draft.clear_eq, hclock]
      have hfill := agree.fill_eq kind (right.count env').clock (left.count env).scratch
        (right.count env').scratch (Event.ofBlock (Block.zero Event.size))
      rw [hfill]
      cases (env'.fill kind (right.count env').clock (right.count env').scratch
        (Event.ofBlock (Block.zero Event.size))).2 with
      | error error =>
          exact ⟨rfl, simulates.discard _ _ hrelated, hcounted.triggers_eq, rfl⟩
      | ok record => exact ⟨rfl, hrelated, hcounted.triggers_eq, rfl⟩
  · exact ⟨rfl, hcounted⟩

theorem Alike.capture (simulates : RecordChannel.Simulates related)
    (alike : Alike related left right) (agree : env.Agree env') (config : SelfFilter) (kind : Kind)
    (finish : Header → Header) :
    (left.capture config env kind finish).1 = (right.capture config env' kind finish).1 ∧
      Alike related (left.capture config env kind finish).2
        (right.capture config env' kind finish).2 := by
  obtain ⟨hdraft, hlater⟩ := alike.openDraft simulates agree config kind
  unfold Site.capture
  rcases hleft : left.openDraft config env kind with ⟨opened, later⟩
  rcases hright : right.openDraft config env' kind with ⟨opened', later'⟩
  rw [hleft, hright] at hdraft hlater
  dsimp only at hdraft hlater
  subst hdraft
  cases opened with
  | error error => exact ⟨rfl, hlater⟩
  | ok draft =>
      exact ⟨rfl, simulates.publish _ hlater.channel, hlater.triggers_eq, hlater.clock_eq⟩

theorem Alike.pop (simulates : RecordChannel.Simulates related)
    (alike : Alike related left right) :
    left.pop.1 = right.pop.1 ∧ Alike related left.pop.2 right.pop.2 := by
  unfold Site.pop
  rcases simulates.pop alike.channel with
    ⟨hleft, hright⟩ | ⟨event, later, later', hleft, hright, hrelated⟩
  · rw [hleft, hright]
    exact ⟨rfl, alike⟩
  · rw [hleft, hright]
    exact ⟨rfl, hrelated, alike.triggers_eq, alike.clock_eq⟩

end Site

end BindTrace
