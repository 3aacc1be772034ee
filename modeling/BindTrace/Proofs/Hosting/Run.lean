import BindTrace.Proofs.Address.Entries
import BindTrace.Proofs.Hosting.Machine
import BindTrace.Proofs.Kernel.Call
import BindTrace.Proofs.Pipeline.Ledger
import BindTrace.Proofs.Probes.Turn
import Mathlib.Data.List.Forall2

/-! # Runs of the probes on given answers

Whatever the probes do on a machine, the pipeline does on the answers of that
machine: before each firing its settings are taken from the memory of the
kernel and its memory from that of the caller, and the arguments of the call
from the registers. Every firing comes to the same, the same records are popped,
and the counts, the clock and the room taken stay the same all along.
-/

namespace BindTrace

inductive Seen where
  | fired (outcome : Except CaptureFailure Unit)
  | popped (event : Option Event)

def Seen.answer : Seen → ProbeSite.Answer
  | fired outcome => .fired (Firing.ofOutcome outcome)
  | popped event => .popped event

def Pipeline.Turn.seen? (turn : Pipeline.Turn) : Option Seen :=
  match turn.answer with
  | .fired outcome => some (.fired outcome)
  | .popped event => some (.popped event)
  | _ => none

namespace Pipeline

variable (pipeline : Pipeline) (settings : Settings) (memory : Memory) (config : SelfFilter)

theorem run_entry (args : CallArguments) :
    let run := Run.of Pipeline.step pipeline
      [.configure settings none, .remap memory, .agent config, .entry args]
    let fired := pipeline.site.capture config settings.surroundings .entry (args.fill memory)
    run.turns.filterMap Turn.seen? = [.fired fired.1] ∧ run.final.site = fired.2 :=
  ⟨rfl, rfl⟩

theorem run_exit (result : Int32) :
    let run := Run.of Pipeline.step pipeline
      [.configure settings none, .agent config, .exit result]
    let fired := pipeline.site.capture config settings.surroundings .exit fun header =>
      { header with result := result }
    run.turns.filterMap Turn.seen? = [.fired fired.1] ∧ run.final.site = fired.2 :=
  ⟨rfl, rfl⟩

end Pipeline

namespace ProbeSite

namespace Turn

def seen? (turn : ProbeSite.Turn) : Option Seen :=
  match turn.step with
  | .entry pointer => some (.fired (turn.before.fireEntry pointer).1)
  | .exit returned => some (.fired (turn.before.fireExit returned).1)
  | .configure _ _ => none
  | .pop => some (.popped turn.before.site.pop.1)

/-- Firings are counted, and nobody interferes. -/
def Steady (turn : ProbeSite.Turn) : Prop :=
  turn.before.machine.counterAvailable = true ∧ turn.Undisturbed

end Turn

/-- Steps of the pipeline that take the place of a step of the probes on a machine. -/
inductive Hosting (machine : Machine) : Step → List Pipeline.Step → Prop
  | entry {pointer : Option UInt64} {args : CallArguments} {syscall : Int32}
      {settings : Settings} {bytes : List UInt8}
      (enters : machine.kernelMemory.Enters pointer args syscall)
      (taken : settings.TakenFrom machine syscall)
      (run : machine.userMemory.MappedRun args.address.toNat 110 bytes) :
      Hosting machine (.entry pointer)
        [.configure settings none, .remap (Memory.ofRun args.address.toNat bytes.toArray),
          .agent machine.config, .entry args]
  | exit {returned : Int64} {settings : Settings} (taken : settings.TakenFrom machine 49) :
      Hosting machine (.exit (some returned))
        [.configure settings none, .agent machine.config, .exit returned.toInt32]
  | exitUntold {settings : Settings} (taken : settings.TakenFrom machine 49) :
      Hosting machine (.exit none) [.configure settings none, .agent machine.config, .exit 0]
  | configure (later : Machine) (site : Site SlotRing) (settings : Settings) :
      Hosting machine (.configure later site) [.configure settings (some site.clock)]
  | pop : Hosting machine .pop [.pop]

def Turn.HostedBy (turn : ProbeSite.Turn) (steps : List Pipeline.Step) : Prop :=
  Hosting turn.before.machine turn.step steps

theorem exists_hosting (machine : Machine) (step : Step) : ∃ steps, Hosting machine step steps := by
  cases step with
  | entry pointer =>
      obtain ⟨args, syscall, enters⟩ := machine.kernelMemory.exists_enters pointer
      obtain ⟨settings, taken⟩ := machine.exists_takenFrom syscall
      obtain ⟨bytes, run⟩ := machine.userMemory.exists_mappedRun args.address.toNat 110
      exact ⟨_, .entry enters taken run⟩
  | exit returned =>
      obtain ⟨settings, taken⟩ := machine.exists_takenFrom 49
      cases returned with
      | none => exact ⟨_, .exitUntold taken⟩
      | some returned => exact ⟨_, .exit taken⟩
  | configure later site =>
      obtain ⟨settings, -⟩ := machine.exists_takenFrom 49
      exact ⟨_, .configure later site settings⟩
  | pop => exact ⟨_, .pop⟩

theorem exists_hostedBy (turns : List ProbeSite.Turn) :
    ∃ hosted, List.Forall₂ Turn.HostedBy turns hosted := by
  induction turns with
  | nil => exact ⟨[], .nil⟩
  | cons turn turns ih =>
      obtain ⟨steps, first⟩ := exists_hosting turn.before.machine turn.step
      obtain ⟨hosted, rest⟩ := ih
      exact ⟨steps :: hosted, .cons first rest⟩

section Firing

variable {probes : ProbeSite} {pipeline : Pipeline} {settings : Settings}

theorem hosted_entry {syscall : Int32} {args : CallArguments} {bytes : List UInt8}
    (alike : Site.Alike SlotRing.InBytes probes.site pipeline.site)
    (counted : probes.machine.counterAvailable = true)
    (taken : settings.TakenFrom probes.machine syscall)
    (run : probes.machine.userMemory.MappedRun args.address.toNat 110 bytes) :
    let fired := probes.site.recordEntry probes.machine.config
      (probes.machine.surroundings syscall) probes.machine.userMemory args
    let host := Run.of Pipeline.step pipeline
      [.configure settings none, .remap (Memory.ofRun args.address.toNat bytes.toArray),
        .agent probes.machine.config, .entry args]
    host.turns.filterMap Pipeline.Turn.seen? = [.fired fired.1] ∧
      Site.Alike SlotRing.InBytes fired.2 host.final.site := by
  obtain ⟨houtcome, hlater⟩ := alike.capture SlotRing.inBytes_simulates (taken.agree counted)
    probes.machine.config .entry (args.fill probes.machine.userMemory)
  obtain ⟨hseen, hfinal⟩ := pipeline.run_entry settings
    (Memory.ofRun args.address.toNat bytes.toArray) probes.machine.config args
  rw [run.fill_eq] at hseen hfinal
  rw [← houtcome] at hseen
  rw [← hfinal] at hlater
  exact ⟨hseen, hlater⟩

theorem hosted_exit (alike : Site.Alike SlotRing.InBytes probes.site pipeline.site)
    (counted : probes.machine.counterAvailable = true)
    (taken : settings.TakenFrom probes.machine 49) (result : Int32) :
    let fired := probes.site.recordExit probes.machine.config (probes.machine.surroundings 49)
      result
    let host := Run.of Pipeline.step pipeline
      [.configure settings none, .agent probes.machine.config, .exit result]
    host.turns.filterMap Pipeline.Turn.seen? = [.fired fired.1] ∧
      Site.Alike SlotRing.InBytes fired.2 host.final.site := by
  obtain ⟨houtcome, hlater⟩ := alike.capture SlotRing.inBytes_simulates (taken.agree counted)
    probes.machine.config .exit fun header => { header with result := result }
  obtain ⟨hseen, hfinal⟩ := pipeline.run_exit settings probes.machine.config result
  rw [← houtcome] at hseen
  rw [← hfinal] at hlater
  exact ⟨hseen, hlater⟩

end Firing

/-- One step of the probes is matched by any steps that take its place. -/
theorem hosted_step {probes : ProbeSite} {pipeline : Pipeline} {step : Step}
    {hosts : List Pipeline.Step} (alike : Site.Alike SlotRing.InBytes probes.site pipeline.site)
    (steady : Turn.Steady (Run.turn ProbeSite.step probes step))
    (hosting : Hosting probes.machine step hosts) :
    let host := Run.of Pipeline.step pipeline hosts
    host.turns.filterMap Pipeline.Turn.seen? =
        (Turn.seen? (Run.turn ProbeSite.step probes step)).toList ∧
      Site.Alike SlotRing.InBytes (probes.step step).2.site host.final.site := by
  obtain ⟨counted, undisturbed⟩ := steady
  cases hosting with
  | entry enters taken run =>
      -- The registers that are described are those that the probe reads.
      obtain ⟨rfl, rfl⟩ := KernelMemory.enters_iff.mp enters
      exact hosted_entry alike counted taken run
  | exit taken => exact hosted_exit alike counted taken _
  | exitUntold taken => exact hosted_exit alike counted taken 0
  | configure later site settings =>
      obtain ⟨hchannel, htriggers⟩ := undisturbed later site rfl
      have hrelated : SlotRing.InBytes site.channel pipeline.site.channel := by
        rw [hchannel]
        exact alike.channel
      exact ⟨rfl, hrelated, htriggers.trans alike.triggers_eq, rfl⟩
  | pop =>
      obtain ⟨hpopped, hlater⟩ := alike.pop SlotRing.inBytes_simulates
      refine ⟨?_, hlater⟩
      change [Seen.popped pipeline.site.pop.1] = [Seen.popped probes.site.pop.1]
      rw [hpopped]

theorem hosted_from {probes : ProbeSite} {pipeline : Pipeline} {hosted : List (List Pipeline.Step)}
    (alike : Site.Alike SlotRing.InBytes probes.site pipeline.site) (steps : List Step)
    (steady : ∀ turn ∈ (Run.of ProbeSite.step probes steps).turns, Turn.Steady turn)
    (hosting : List.Forall₂ Turn.HostedBy (Run.of ProbeSite.step probes steps).turns hosted) :
    let run := Run.of ProbeSite.step probes steps
    let host := Run.of Pipeline.step pipeline hosted.flatten
    host.turns.filterMap Pipeline.Turn.seen? = run.turns.filterMap Turn.seen? ∧
      Site.Alike SlotRing.InBytes run.final.site host.final.site := by
  -- The buffers drift apart from turn to turn, but nothing that is seen depends on them.
  induction steps generalizing probes pipeline hosted with
  | nil =>
      cases hosting with
      | nil => exact ⟨rfl, alike⟩
  | cons step steps ih =>
      cases hosting with
      | @cons _ hosts _ rest first others =>
          obtain ⟨hseen, hlater⟩ := hosted_step alike (steady _ List.mem_cons_self) first
          obtain ⟨hrest, hfinal⟩ :=
            ih hlater (fun turn h => steady turn (List.mem_cons_of_mem _ h)) others
          rw [Run.of]
          dsimp only
          rw [List.flatten_cons, Run.of_append]
          refine ⟨?_, hfinal⟩
          rw [List.filterMap_append, hseen, hrest, List.filterMap_cons]
          cases Turn.seen? (Run.turn ProbeSite.step probes step) <;> rfl

theorem step_answer (probes : ProbeSite) (step : Step) :
    (probes.step step).1 =
      ((Turn.seen? (Run.turn ProbeSite.step probes step)).map Seen.answer).getD .done := by
  cases step <;> rfl

/--
Every run of the probes on a ring of slots is a run of the pipeline on a ring of bytes: there are
steps that take the place of its turns, and all such steps are seen to do the same.
-/
theorem hosted_run (slots : Nat) (machine : Machine) (settings : Settings) (memory : Memory)
    (config : SelfFilter) (clock : UInt64) (scratch scratch' : Scratch)
    (residue residue' : Block Event.size) (steps : List Step) :
    let run := Run.of ProbeSite.step (fresh slots machine clock scratch residue) steps
    let pipeline :=
      Pipeline.fresh (1176 * slots) settings memory config clock scratch' residue'
    (∀ turn ∈ run.turns, Turn.Steady turn) →
      (∃ hosted, List.Forall₂ Turn.HostedBy run.turns hosted) ∧
      (∀ turn ∈ run.turns, turn.answer = ((Turn.seen? turn).map Seen.answer).getD .done) ∧
      ∀ hosted, List.Forall₂ Turn.HostedBy run.turns hosted →
        let host := Run.of Pipeline.step pipeline hosted.flatten
        host.turns.filterMap Pipeline.Turn.seen? = run.turns.filterMap Turn.seen? ∧
          Site.Alike SlotRing.InBytes run.final.site host.final.site := by
  intro run pipeline steady
  have hempty : SlotRing.InBytes { slots := slots, residue := residue }
      { capacity := Event.size * slots, residue := residue' } := ⟨rfl, rfl, rfl, rfl⟩
  have hstart : Site.Alike SlotRing.InBytes (fresh slots machine clock scratch residue).site
      pipeline.site := ⟨hempty, rfl, rfl⟩
  refine ⟨exists_hostedBy _, ?_, fun hosted hosting => hosted_from hstart steps steady hosting⟩
  intro turn hturn
  rw [Run.eq_turn hturn]
  exact turn.before.step_answer turn.step

/-- A call that fills the only slot, and its return after the task has gone. -/
def callThenReturn : Run ProbeSite Step Answer :=
  Run.of ProbeSite.step (bound 0x300000003)
    [.entry (some 8),
      .configure { kernelMemory := readableKernel }
        ((bound 0x300000003).step (.entry (some 8))).2.site,
      .exit none, .pop, .exit none]

/-- The call is hosted with the words of its registers and the bytes at the address. -/
theorem callThenReturn_hosted :
    (∀ turn ∈ callThenReturn.turns, Turn.Steady turn) ∧
      ∃ settings later,
        let hosted := [.configure settings none, .remap (Memory.loopback 0x0101010101010101),
          .agent SelfFilter.unknown, .entry
            { fd := 0x01010101, address := 0x0101010101010101, addrLength := 0x01010101 }] :: later
        let host := Run.of Pipeline.step
          (Pipeline.fresh (1176 * 1) (Settings.webServer 1) Memory.empty SelfFilter.unknown 0
            (Block.fill scratchSize 0xAB) (Block.zero Event.size))
          hosted.flatten
        List.Forall₂ Turn.HostedBy callThenReturn.turns hosted ∧
          host.turns.filterMap Pipeline.Turn.seen? =
            callThenReturn.turns.filterMap Turn.seen? := by
  have hsteady : ∀ turn ∈ callThenReturn.turns, Turn.Steady turn := by
    refine List.forall_mem_cons.mpr ⟨⟨rfl, Turn.undisturbed_of_step nofun⟩, ?_⟩
    refine List.forall_mem_cons.mpr ⟨⟨rfl, ?_⟩, ?_⟩
    · intro machine site h
      cases h
      exact ⟨rfl, rfl⟩
    refine List.forall_mem_cons.mpr ⟨⟨rfl, Turn.undisturbed_of_step nofun⟩, ?_⟩
    refine List.forall_mem_cons.mpr ⟨⟨rfl, Turn.undisturbed_of_step nofun⟩, ?_⟩
    refine List.forall_mem_cons.mpr ⟨⟨rfl, Turn.undisturbed_of_step nofun⟩, ?_⟩
    exact fun turn h => nomatch h
  obtain ⟨-, -, hhosted⟩ := hosted_run 1 (bound 0x300000003).machine (Settings.webServer 1)
    Memory.empty SelfFilter.unknown 0 (Block.zero scratchSize) (Block.fill scratchSize 0xAB)
    (Block.zero Event.size) (Block.zero Event.size) _ hsteady
  have henters : (bound 0x300000003).machine.kernelMemory.Enters (some 8)
      { fd := 0x01010101, address := 0x0101010101010101, addrLength := 0x01010101 } 0x01010101 :=
    enters_readableKernel (by decide)
  have hbytes : (bound 0x300000003).machine.userMemory.MappedRun
      (0x0101010101010101 : UInt64).toNat 110
      [2, 0, 0x1F, 0x90, 127, 0, 0, 1, 0, 0, 0, 0, 0, 0, 0, 0] :=
    ⟨by decide, by decide, fun _ => by decide⟩
  obtain ⟨settings, taken⟩ := (bound 0x300000003).machine.exists_takenFrom 0x01010101
  obtain ⟨later, hlater⟩ := exists_hostedBy callThenReturn.turns.tail
  have hfirst : Turn.HostedBy (Run.turn ProbeSite.step (bound 0x300000003) (.entry (some 8))) _ :=
    Hosting.entry henters taken hbytes
  have hosting : List.Forall₂ Turn.HostedBy callThenReturn.turns (_ :: later) :=
    .cons hfirst hlater
  exact ⟨hsteady, settings, later, hosting, (hhosted _ hosting).1⟩

end ProbeSite

end BindTrace
