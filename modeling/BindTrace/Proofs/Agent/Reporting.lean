import BindTrace.Agent.Run
import BindTrace.Proofs.Probes.Counting
import Mathlib.Algebra.Ring.Nat

/-! # One line for each period

The reporter owes a line for each period that has ended. It settles all it owes
whenever it looks, with what it reads at that moment, so the line of a period is
told by the first moment at which the period is over: nothing comes before the
first period has ended, no period is told twice, and a reading that fails is told
like any other.
-/

namespace BindTrace

namespace CellReading

theorem toNat_sumCells (cells : List UInt64) :
    (sumCells cells).toNat = (cells.map UInt64.toNat).sum % 2 ^ 64 := by
  induction cells with
  | nil => rfl
  | cons cell rest ih =>
      rw [Triggers.sumCells_cons, UInt64.toNat_add, ih, List.map_cons, List.sum_cons,
        Nat.add_mod_mod]

/-- The sum that is logged is that of the cells as numbers, less what has overflowed. -/
theorem report_ok (cells : List UInt64) :
    CellReading.report (.ok cells) =
      { level := .info
        target := "stats"
        message := "bind probe triggers"
        fields := [("triggers", toString ((cells.map UInt64.toNat).sum % 2 ^ 64))] } := by
  rw [← toNat_sumCells]
  rfl

/-- What is read at the first of some moments at which a time has come. -/
def onceAt? (moments : List (Nat × CellReading)) (time : Nat) : Option CellReading :=
  (moments.find? fun moment => time ≤ moment.1).map Prod.snd

theorem onceAt?_of_le {moment : Nat × CellReading} {time : Nat} (h : time ≤ moment.1)
    (later : List (Nat × CellReading)) : onceAt? (moment :: later) time = some moment.2 := by
  simp [onceAt?, h]

theorem onceAt?_of_lt {moment : Nat × CellReading} {time : Nat} (h : moment.1 < time)
    (later : List (Nat × CellReading)) :
    onceAt? (moment :: later) time = onceAt? later time := by
  simp [onceAt?, h]

end CellReading

open CellReading (onceAt?)

namespace Reporter

theorem follow_cons (reporter : Reporter) (moment : Nat × CellReading)
    (later : List (Nat × CellReading)) :
    reporter.follow (moment :: later) =
      List.replicate (moment.1 / reporter.period - reporter.reported) moment.2.report ::
        Reporter.follow { reporter with
          reported := max reporter.reported (moment.1 / reporter.period) } later :=
  rfl

/-- The line of a period is what is read once the period is over. -/
theorem getElem?_flatten_follow (reporter : Reporter) (periodic : 0 < reporter.period)
    (moments : List (Nat × CellReading)) (k : Nat) :
    (reporter.follow moments).flatten[k]? =
      (onceAt? moments ((reporter.reported + k + 1) * reporter.period)).map
        CellReading.report := by
  induction moments generalizing reporter k with
  | nil => rfl
  | cons moment later ih =>
      rw [follow_cons, List.flatten_cons]
      by_cases due : k < moment.1 / reporter.period - reporter.reported
      · have hover : (reporter.reported + k + 1) * reporter.period ≤ moment.1 :=
          (Nat.le_div_iff_mul_le periodic).mp (by omega)
        rw [List.getElem?_append_left (by simpa using due), CellReading.onceAt?_of_le hover,
          List.getElem?_replicate, if_pos due]
        rfl
      · have hopen : moment.1 < (reporter.reported + k + 1) * reporter.period :=
          Nat.lt_of_not_le fun h => absurd ((Nat.le_div_iff_mul_le periodic).mpr h) (by omega)
        have hrest := ih { reporter with
          reported := max reporter.reported (moment.1 / reporter.period) } periodic
          (k - (moment.1 / reporter.period - reporter.reported))
        have hreported : max reporter.reported (moment.1 / reporter.period) +
            (k - (moment.1 / reporter.period - reporter.reported)) + 1 =
              reporter.reported + k + 1 := by omega
        rw [List.getElem?_append_right (by simpa using due), List.length_replicate, hrest,
          hreported, CellReading.onceAt?_of_lt hopen]

/-- What is logged up to a moment does not depend on what comes later. -/
theorem follow_take (reporter : Reporter) (moments : List (Nat × CellReading)) (n : Nat) :
    (reporter.follow moments).take n = reporter.follow (moments.take n) := by
  induction moments generalizing reporter n with
  | nil => cases n <;> rfl
  | cons moment later ih =>
      cases n with
      | zero => rfl
      | succ n => rw [List.take_succ_cons, follow_cons, follow_cons, List.take_succ_cons, ih]

/-- A moment ends a period or lies within one. -/
theorem div_sub_div_pred (period time : Nat) :
    time / period - (time - 1) / period = if 0 < time ∧ period ∣ time then 1 else 0 := by
  cases time with
  | zero => simp
  | succ time =>
      rw [Nat.add_sub_cancel, Nat.succ_div]
      by_cases ends : period ∣ time + 1
      · simp [ends]
      · simp [ends]

theorem follow_watched (period : Nat) (reading : Nat → CellReading) (start count : Nat) :
    Reporter.follow { period := period, reported := (start - 1) / period }
        ((List.range' start count).map fun time => (time, reading time)) =
      (List.range' start count).map fun time =>
        if 0 < time ∧ period ∣ time then [(reading time).report] else [] := by
  induction count generalizing start with
  | zero => rfl
  | succ count ih =>
      have hle : (start - 1) / period ≤ start / period := Nat.div_le_div_right (Nat.sub_le _ _)
      rw [List.range'_succ, List.map_cons, List.map_cons, follow_cons]
      dsimp only
      rw [Nat.max_eq_right hle, div_sub_div_pred]
      have hnext := ih (start + 1)
      rw [Nat.add_sub_cancel] at hnext
      rw [hnext]
      split
      · rfl
      · rfl

structure Punctual (period : Nat) : Prop where
  line_eq : ∀ moments k, (Reporter.follow { period := period } moments).flatten[k]? =
    (onceAt? moments ((k + 1) * period)).map CellReading.report
  causal : ∀ moments n, (Reporter.follow { period := period } moments).take n =
    Reporter.follow { period := period } (moments.take n)
  watched : ∀ (reading : Nat → CellReading) (count : Nat),
    Reporter.follow { period := period } ((List.range count).map fun time => (time, reading time)) =
      (List.range count).map fun time =>
        if 0 < time ∧ period ∣ time then [(reading time).report] else []

theorem punctual {period : Nat} (periodic : 0 < period) : Punctual period := by
  constructor
  · intro moments k
    rw [getElem?_flatten_follow _ periodic, Nat.zero_add]
  · intro moments n
    exact follow_take _ moments n
  · intro reading count
    have hwatched := follow_watched period reading 0 count
    rwa [Nat.zero_sub, Nat.zero_div, ← List.range_eq_range'] at hwatched

/-- Looking in the middle of each period, one finds one new line each time. -/
theorem follow_middles {half : Nat} (positive : 0 < half) (ended : Nat)
    (readings : List CellReading) :
    Reporter.follow { period := 2 * half, reported := ended }
        (readings.mapIdx fun i reading => ((2 * (ended + 1 + i) + 1) * half, reading)) =
      readings.map fun reading => [reading.report] := by
  induction readings generalizing ended with
  | nil => rfl
  | cons reading later ih =>
      have hended : (2 * (ended + 1) + 1) * half / (2 * half) = ended + 1 := by
        rw [Nat.mul_comm 2 half, ← Nat.div_div_eq_div_mul, Nat.mul_div_cancel _ positive]
        omega
      have hnext := ih (ended + 1)
      rw [List.mapIdx_cons, follow_cons, List.map_cons]
      dsimp only
      rw [Nat.add_zero, hended, Nat.max_eq_right (Nat.le_succ _), Nat.add_sub_cancel_left, ← hnext]
      congr 3
      funext i reading
      congr 2
      omega

end Reporter

namespace AgentSetup

/-- A running agent logs one line for each reading after the first. -/
theorem follow_moments (setup : AgentSetup) (reports : setup.interval ≠ 0) :
    setup.reporter.follow setup.moments =
      [] :: setup.readings.map fun reading => [reading.cells.report] := by
  have hpositive : 0 < 500 * setup.interval.toNat := by
    have hinterval : setup.interval.toNat ≠ 0 := fun h => reports (UInt64.toNat_inj.mp h)
    omega
  have hperiod : setup.reporter = { period := 2 * (500 * setup.interval.toNat) } := by
    rw [reporter]
    congr 1
    omega
  have hfirst : 500 * setup.interval.toNat / (2 * (500 * setup.interval.toNat)) = 0 :=
    Nat.div_eq_of_lt (by omega)
  have hmiddles := Reporter.follow_middles hpositive 0 (setup.readings.map CounterReading.cells)
  rw [List.map_map] at hmiddles
  rw [hperiod, moments, List.map_cons, List.mapIdx_cons, Reporter.follow_cons]
  dsimp only
  rw [Nat.mul_zero, Nat.zero_add, Nat.one_mul, hfirst]
  refine Eq.trans ?_ (congrArg (List.cons []) hmiddles)
  congr 3
  funext i reading
  congr 2
  omega

end AgentSetup

/-! ## From the firing to the log -/

/-- Firings are counted on their processors, and the agent tells their number period by period. -/
theorem triggers_accounted :
    (∀ (start : ProbeSite) (steps : List ProbeSite.Step),
      let run := Run.of ProbeSite.step start steps
      (∀ turn ∈ run.turns, ProbeSite.Turn.KeepsCells turn) →
        (∀ turn ∈ run.turns, ∀ processor,
          (turn.before.step turn.step).2.site.triggers.cell processor =
            turn.before.site.triggers.cell processor +
              if ProbeSite.Turn.counted? turn = some processor then 1 else 0) ∧
        Triggers.Counted start.site.triggers run.final.site.triggers
          (run.turns.filterMap ProbeSite.Turn.counted?)) ∧
    (∀ (probes : ProbeSite) (step : ProbeSite.Step),
      ProbeSite.Turn.fires (Run.turn ProbeSite.step probes step) = true →
        probes.uncounted.step step =
          ((probes.step step).1,
            { machine := probes.uncounted.machine
              site := { (probes.step step).2.site with triggers := probes.site.triggers } })) ∧
    (∀ period, 0 < period → Reporter.Punctual period) ∧
    (∀ setup : AgentSetup, setup.interval ≠ 0 → setup.reporter.follow setup.moments =
      [] :: setup.readings.map fun reading => [reading.cells.report]) ∧
    (∀ cells : List UInt64, CellReading.report (.ok cells) =
      { level := .info
        target := "stats"
        message := "bind probe triggers"
        fields := [("triggers", toString ((cells.map UInt64.toNat).sum % 2 ^ 64))] }) ∧
    (∀ failure : AgentFailure, CellReading.report (.error failure) =
      { level := .warn
        target := "kestrel::stats"
        message := "failed to read trigger counter: " ++ failure.message }) ∧
    (∀ cells : List UInt64, CounterReading.cells (some cells) = .ok cells) ∧
    (CounterReading.cells none).report =
      { level := .warn
        target := "kestrel::stats"
        message := "failed to read trigger counter: AyaMaps(ElementNotFound)" } := by
  refine ⟨?_, ?_, ?_, ?_, CellReading.report_ok, fun _ => rfl, fun _ => rfl, rfl⟩
  · intro start steps run kept
    refine ⟨?_, ProbeSite.counted_of_run start steps kept⟩
    intro turn hturn processor
    have hkept := kept turn hturn
    rw [Run.eq_turn hturn] at hkept
    rw [ProbeSite.triggers_step _ _ hkept, ← Run.eq_turn hturn]
    cases hcounted : ProbeSite.Turn.counted? turn with
    | none => simp
    | some fired =>
      simp [Triggers.cell_count, eq_comm]
  · intro probes step fires
    exact probes.step_uncounted step fires
  · intro period periodic
    exact Reporter.punctual periodic
  · intro setup reports
    exact setup.follow_moments reports

def ProbeSite.callOn (processor : UInt32) (pidTgid : UInt64) : Machine where
  kernelMemory := readableKernel
  task := 4096
  pidTgid := pidTgid
  processor := processor
  config := ⟨0x1001⟩

/-- Probes whose first cell is about to overflow. -/
def ProbeSite.almostFull : ProbeSite where
  machine := callOn 0 0x100000001001
  site := { channel := { slots := 1 }, triggers := ⟨[(0, 0xFFFFFFFFFFFFFFFF), (1, 5)]⟩ }

/-- A recorded call on one processor, and a call of the agent itself on another. -/
def ProbeSite.onTwoProcessors : Run ProbeSite ProbeSite.Step ProbeSite.Answer :=
  Run.of ProbeSite.step almostFull
    [.entry none, .configure (callOn 1 0x100100002002) (almostFull.step (.entry none)).2.site,
      .exit none]

/-- An agent that cannot read the cells once, and reports every second. -/
def AgentSetup.onceUnreadable : AgentSetup where
  object := { bytes := [], programs := [], maps := [] }
  pid := 0x1001
  symbol := ""
  interval := 1
  readings := [none, some [0, 6]]

theorem two_processors_accounted :
    (∀ turn ∈ ProbeSite.onTwoProcessors.turns, ProbeSite.Turn.KeepsCells turn) ∧
      Triggers.Counted ProbeSite.almostFull.site.triggers
        ProbeSite.onTwoProcessors.final.site.triggers [0, 1] ∧
      (ProbeSite.almostFull.uncounted.step (.exit none)).2.site.triggers =
        ProbeSite.almostFull.site.triggers ∧
      Reporter.Punctual 10 ∧
      AgentSetup.onceUnreadable.reporter.follow AgentSetup.onceUnreadable.moments =
        [[], [CellReading.report (.error .elementMissing)], [CellReading.report (.ok [0, 6])]] := by
  obtain ⟨hruns, hsilent, hperiods, hagent, -⟩ := triggers_accounted
  have hkept : ∀ turn ∈ ProbeSite.onTwoProcessors.turns, ProbeSite.Turn.KeepsCells turn := by
    refine List.forall_mem_cons.mpr ⟨nofun, ?_⟩
    refine List.forall_mem_cons.mpr ⟨?_, ?_⟩
    · intro machine site h
      cases h
      rfl
    exact List.forall_mem_cons.mpr ⟨nofun, List.forall_mem_nil _⟩
  have hfired : ProbeSite.onTwoProcessors.turns.filterMap ProbeSite.Turn.counted? = [0, 1] := rfl
  have hcounted := (hruns _ _ hkept).2
  have hlost := hsilent ProbeSite.almostFull (.exit none) rfl
  refine ⟨hkept, hfired ▸ hcounted, ?_, hperiods 10 (by decide), hagent _ (by decide)⟩
  exact congrArg (fun ended => ended.2.site.triggers) hlost

end BindTrace
