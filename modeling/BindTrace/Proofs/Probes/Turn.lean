import BindTrace.Proofs.Channel.Queue
import BindTrace.Proofs.Kernel.Call
import BindTrace.Proofs.Probes.Publication
import BindTrace.Proofs.Run

/-! # Turns of the probes

A run of the probes begins on an empty ring. Between two firings memory, task
and settings may become anything at all, but nobody else writes to the ring or
to the counts.
-/

namespace BindTrace

namespace ProbeSite

abbrev Turn := BindTrace.Turn ProbeSite Step Answer

namespace Turn

def fires (turn : ProbeSite.Turn) : Bool :=
  match turn.step with
  | .entry _ => true
  | .exit _ => true
  | _ => false

def popped? (turn : ProbeSite.Turn) : Option Event :=
  match turn.answer with
  | .popped event => event
  | _ => none

/-- A change of settings leaves the ring and the counts as they are. -/
def Undisturbed (turn : ProbeSite.Turn) : Prop :=
  ∀ machine site, turn.step = .configure machine site →
    site.channel = turn.before.site.channel ∧ site.triggers = turn.before.site.triggers

theorem undisturbed_of_step {probes : ProbeSite} {step : Step}
    (noConfigure : ∀ machine site, step ≠ .configure machine site) :
    Undisturbed (Run.turn ProbeSite.step probes step) := by
  intro machine site h
  exact absurd h (noConfigure machine site)

end Turn

def Step.kind? : Step → Option Kind
  | .entry _ => some .entry
  | .exit _ => some .exit
  | _ => none

/-- A step puts a record behind those that are ready. -/
def Publishes (probes : ProbeSite) (step : Step) (kind : Kind) (event : Event) : Prop :=
  step.kind? = some kind ∧
    (probes.step step).2.site.channel.ready = probes.site.channel.ready ++ [event]

def fresh (slots : Nat) (machine : Machine) (clock : UInt64) (scratch : Scratch)
    (residue : Block Event.size) : ProbeSite where
  machine := machine
  site := {
    channel := { slots := slots, residue := residue }
    clock := clock
    scratch := scratch }

/-- A firing that succeeds puts its record behind those that are ready. -/
theorem ready_of_fired {probes : ProbeSite} {kind : Kind} {syscall : Int32}
    {paths : PathKind → List UInt8} {finish : Header → Header}
    {ended : Except CaptureFailure Unit × Site SlotRing}
    (ends : probes.site.Ends probes.machine.config (probes.machine.surroundings syscall) kind paths
      (Site.publishWith finish) ended)
    (done : ended.1 = .ok ()) :
    ∃ event : Event, ended.2.ready = probes.site.ready ++ [event] ∧
      event.context.identity.hostTgid = highWord probes.machine.pidTgid := by
  obtain ⟨opened, task, node, hready, -, -, hclosed⟩ := ends.closed_of_ok done
  rw [hclosed, Site.ready_publishWith, hready]
  exact ⟨_, rfl, rfl⟩

/-- Whoever is not the agent is recorded where its task is found and there is a slot. -/
theorem Decided.published_of_found {probes after : ProbeSite} {kind : Kind} {answer : Answer}
    (decided : Decided probes kind answer after)
    (found : ¬ probes.machine.kernelMemory.MetadataLost probes.machine.task)
    (hscratch : probes.machine.scratchAvailable = true) (other : ¬ probes.Own)
    (free : probes.site.channel.taken < probes.site.channel.slots) :
    ∃ event, Published probes event after := by
  obtain ⟨verdict, -, outcome, -⟩ := decided.outcome
  cases outcome with
  | own own => exact absurd own other
  | full _ noSlot => exact absurd noSlot (Nat.not_le_of_lt free)
  | lost _ _ lost => exact absurd lost found
  | exhausted _ _ _ noScratch => cases noScratch.symm.trans hscratch
  | published _ _ _ _ _ _ published => exact ⟨_, published⟩

theorem publishes_entry_of_found {probes : ProbeSite}
    (found : ¬ probes.machine.kernelMemory.MetadataLost probes.machine.task)
    (hscratch : probes.machine.scratchAvailable = true)
    (other : probes.machine.config.admits (highWord probes.machine.pidTgid) = true)
    (free : probes.site.channel.taken < probes.site.channel.slots) (pointer : Option UInt64) :
    ∃ event, probes.Publishes (.entry pointer) .entry event := by
  have hother : ¬ probes.Own := (SelfFilter.admits_eq_true_iff _ _).mp other
  have decided := probes.fire_decided.1 pointer
  obtain ⟨event, published⟩ := decided.published_of_found found hscratch hother free
  exact ⟨event, rfl, published.ready_eq⟩

theorem publishes_exit_of_found {probes : ProbeSite}
    (found : ¬ probes.machine.kernelMemory.MetadataLost probes.machine.task)
    (hscratch : probes.machine.scratchAvailable = true)
    (other : probes.machine.config.admits (highWord probes.machine.pidTgid) = true)
    (free : probes.site.channel.taken < probes.site.channel.slots) (returned : Option Int64) :
    ∃ event, probes.Publishes (.exit returned) .exit event := by
  have hother : ¬ probes.Own := (SelfFilter.admits_eq_true_iff _ _).mp other
  have decided := probes.fire_decided.2 returned
  obtain ⟨event, published⟩ := decided.published_of_found found hscratch hother free
  exact ⟨event, rfl, published.ready_eq⟩

/-! ## A kernel that can be read everywhere -/

/-- Kernel memory of ones, in which every pointer can be followed. -/
def readableKernel : KernelMemory where
  byte? := fun _ => some 1

theorem read?_readableKernel (address : UInt64) (n : Nat) :
    readableKernel.read? address n = some (Block.fill n 1) := by
  rw [Memory.read?_eq_some_iff]
  intro i hi
  rw [Block.getElem_fill]
  rfl

theorem word64?_readableKernel (address : UInt64) :
    readableKernel.word64? address = some 0x0101010101010101 := by
  rw [Memory.word64?, read?_readableKernel]
  rfl

theorem not_metadataLost_readableKernel {task : UInt64} (present : task ≠ 0) :
    ¬ KernelMemory.MetadataLost readableKernel task :=
  KernelMemory.not_metadataLost_of_mapped present (fun _ _ _ => rfl) (word64?_readableKernel _)
    (by decide) (word64?_readableKernel _) (by decide)

/-- Registers of ones are behind every pointer. -/
theorem enters_readableKernel {pointer : UInt64} (present : pointer ≠ 0) :
    KernelMemory.Enters readableKernel (some pointer)
      { fd := 0x01010101, address := 0x0101010101010101, addrLength := 0x01010101 } 0x01010101 := by
  have held : KernelMemory.HoldsRegisters readableKernel (some pointer) (Block.fill 168 1) := by
    refine .behind present fun i h => ?_
    rw [Block.getElem_fill]
    rfl
  have hword : ∀ start (h : start + 8 ≤ 168),
      Block.toUInt64 ((Block.fill 168 1).slice start 8 h) = 0x0101010101010101 := by
    intro start h
    have hslice : (Block.fill 168 1).slice start 8 h = Block.fill 8 1 := by
      refine Vector.ext fun i hi => ?_
      rw [Block.getElem_slice, Block.getElem_fill, Block.getElem_fill]
    rw [hslice]
    decide
  have told := KernelMemory.Enters.told held
  rw [hword, hword, hword, hword] at told
  exact told

end ProbeSite

end BindTrace
