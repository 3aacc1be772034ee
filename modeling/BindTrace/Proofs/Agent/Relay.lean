import BindTrace.Agent.Run
import BindTrace.Proofs.Run

/-! # What the relay does with every item

The two ends of the relay take turns in any order, one item or one record at a
time, while items arrive. As long as there is a receiver, what has been read is
logged or waits to be logged, in the order in which it arrived, and an item
that is no record costs its warning and nothing else. Without a receiver the
first record that cannot be sent is the last item that is read. A batch is one
way of taking these turns, at the end of which nothing is left to do.
-/

namespace BindTrace

/-! ## Items -/

def Record.ofItem? (item : Item) : Option Record :=
  (Record.ofBytes 0 item).toOption

def DecodeError.ofItem? (item : Item) : Option DecodeError :=
  match Record.ofBytes 0 item with
  | .error error => some error
  | .ok _ => none

def shownLines (records : List Record) : List LogLine :=
  records.map fun record => { level := .info, target := "bind", message := record.text }

def refusalLines (errors : List DecodeError) : List LogLine :=
  errors.map fun error => {
    level := .warn
    target := "kestrel::worker"
    message := "failed to parse bind event: " ++ error.message }

/-- The lines that the logging end owes for items. -/
def recordLines (items : List Item) : List LogLine :=
  shownLines (items.filterMap Record.ofItem?)

/-- The warnings that the reading end owes for items. -/
def malformedLines (items : List Item) : List LogLine :=
  refusalLines (items.filterMap DecodeError.ofItem?)

@[simp]
theorem shownLines_append (records later : List Record) :
    shownLines (records ++ later) = shownLines records ++ shownLines later :=
  List.map_append

@[simp]
theorem refusalLines_append (errors later : List DecodeError) :
    refusalLines (errors ++ later) = refusalLines errors ++ refusalLines later :=
  List.map_append

@[simp]
theorem shownLines_cons (record : Record) (records : List Record) :
    shownLines (record :: records) = recordLine record :: shownLines records := rfl

@[simp]
theorem refusalLines_cons (error : DecodeError) (errors : List DecodeError) :
    refusalLines (error :: errors) = malformedLine error :: refusalLines errors := rfl

@[simp]
theorem shownLines_nil : shownLines [] = [] := rfl

@[simp]
theorem refusalLines_nil : refusalLines [] = [] := rfl

section Item

variable {item : Item} {record : Record} {error : DecodeError}

theorem Record.ofItem?_of_ok (accepted : Record.ofBytes 0 item = .ok record) :
    Record.ofItem? item = some record := by
  rw [Record.ofItem?, accepted]
  rfl

theorem Record.ofItem?_of_error (refused : Record.ofBytes 0 item = .error error) :
    Record.ofItem? item = none := by
  rw [Record.ofItem?, refused]
  rfl

theorem recordLines_snoc_ok (accepted : Record.ofBytes 0 item = .ok record) (items : List Item) :
    recordLines (items ++ [item]) = recordLines items ++ [recordLine record] := by
  simp [recordLines, Record.ofItem?_of_ok accepted]

theorem recordLines_snoc_error (refused : Record.ofBytes 0 item = .error error)
    (items : List Item) : recordLines (items ++ [item]) = recordLines items := by
  simp [recordLines, Record.ofItem?_of_error refused]

theorem malformedLines_snoc_ok (accepted : Record.ofBytes 0 item = .ok record)
    (items : List Item) : malformedLines (items ++ [item]) = malformedLines items := by
  have hitem : DecodeError.ofItem? item = none := by rw [DecodeError.ofItem?, accepted]
  simp [malformedLines, hitem]

theorem malformedLines_snoc_error (refused : Record.ofBytes 0 item = .error error)
    (items : List Item) :
    malformedLines (items ++ [item]) = malformedLines items ++ [malformedLine error] := by
  have hitem : DecodeError.ofItem? item = some error := by rw [DecodeError.ofItem?, refused]
  simp [malformedLines, hitem]

end Item

/-! ## Lines -/

def LogLine.isRecord (line : LogLine) : Bool :=
  line.target = "bind"

@[simp]
theorem isRecord_recordLine (record : Record) : (recordLine record).isRecord = true := by
  simp [LogLine.isRecord, recordLine]

@[simp]
theorem isRecord_malformedLine (error : DecodeError) : (malformedLine error).isRecord = false := by
  simp [LogLine.isRecord, malformedLine]

@[simp]
theorem isRecord_stoppedLine (failure : AgentFailure) : (stoppedLine failure).isRecord = false := by
  simp [LogLine.isRecord, stoppedLine]

theorem filter_refusalLines (errors : List DecodeError) :
    (refusalLines errors).filter LogLine.isRecord = [] := by
  induction errors with
  | nil => rfl
  | cons error errors ih => simp [ih]

def Run.logged {σ ι : Type} (run : Run σ ι (List LogLine)) : List LogLine :=
  run.turns.flatMap Turn.answer

theorem Run.logged_of_append {σ ι : Type} (next : σ → ι → List LogLine × σ) (start : σ)
    (steps later : List ι) :
    (Run.of next start (steps ++ later)).logged =
      (Run.of next start steps).logged ++
        (Run.of next (Run.of next start steps).final later).logged := by
  simp [Run.logged, Run.of_append]

/-! ## One item -/

theorem drain_nil (queue : RecordQueue) : drain queue [] = { queue := queue } := rfl

theorem drain_refused (queue : RecordQueue) {item : Item} {error : DecodeError}
    (refused : Record.ofBytes 0 item = .error error) (rest : List Item) :
    drain queue (item :: rest) = (drain queue rest).logFirst (malformedLine error) := by
  simp [drain, refused]

theorem drain_sent {queue later : RecordQueue} {item : Item} {record : Record}
    (accepted : Record.ofBytes 0 item = .ok record) (sent : queue.send record = .ok later)
    (rest : List Item) : drain queue (item :: rest) = drain later rest := by
  simp [drain, accepted, sent]

theorem drain_unsent {queue : RecordQueue} {item : Item} {record : Record} {failure : AgentFailure}
    (accepted : Record.ofBytes 0 item = .ok record) (unsent : queue.send record = .error failure)
    (rest : List Item) :
    drain queue (item :: rest) =
      { queue := queue, lines := [stoppedLine failure], unread := rest, stopped := true } := by
  simp [drain, accepted, unsent]

theorem send_of_receiver {queue : RecordQueue} (receiver : queue.receiver = true)
    (record : Record) :
    queue.send record = .ok { queue with waiting := queue.waiting ++ [record] } := by
  simp [RecordQueue.send, receiver]

theorem send_of_no_receiver {queue : RecordQueue} (gone : queue.receiver = false)
    (record : Record) : queue.send record = .error .receiverGone := by
  simp [RecordQueue.send, gone]

/-- The reading end leaves nothing behind unless it stops. -/
theorem stopped_or_unread_drain (queue : RecordQueue) (items : List Item) :
    (drain queue items).stopped = true ∨ (drain queue items).unread = [] := by
  induction items generalizing queue with
  | nil => exact .inr rfl
  | cons item items ih =>
      cases hread : Record.ofBytes 0 item with
      | error error =>
          rw [drain_refused queue hread]
          exact ih queue
      | ok record =>
          cases hsend : queue.send record with
          | ok later =>
              rw [drain_sent hread hsend]
              exact ih later
          | error failure =>
              rw [drain_unsent hread hsend]
              exact .inl rfl

namespace Relay

/-! ## Turns of the two ends -/

inductive Act where
  | arrive (items : List Item)
  | read
  | log

def Act.items : Act → List Item
  | arrive items => items
  | read => []
  | log => []

def readOne (relay : Relay) : List LogLine × Relay :=
  if relay.stopped then ([], relay)
  else
    match relay.unread with
    | [] => ([], relay)
    | item :: rest =>
        let drained := drain relay.queue [item]
        (drained.lines, { queue := drained.queue, unread := rest, stopped := drained.stopped })

def logOne (relay : Relay) : List LogLine × Relay :=
  if relay.queue.receiver then
    match relay.queue.receive with
    | (.record record, later) => ([recordLine record], { relay with queue := later })
    | _ => ([], relay)
  else
    ([], relay)

def act (relay : Relay) : Act → List LogLine × Relay
  | .arrive items => ([], { relay with unread := relay.unread ++ items })
  | .read => relay.readOne
  | .log => relay.logOne

theorem readOne_of_stopped {relay : Relay} (stopped : relay.stopped = true) :
    relay.readOne = ([], relay) := by
  simp [readOne, stopped]

theorem readOne_of_empty {relay : Relay} (empty : relay.unread = []) :
    relay.readOne = ([], relay) := by
  simp [readOne, empty]

section Reading

variable {relay : Relay} {item : Item} {rest : List Item} {record : Record}

theorem readOne_refused {error : DecodeError} (running : relay.stopped = false)
    (next : relay.unread = item :: rest) (refused : Record.ofBytes 0 item = .error error) :
    relay.readOne = ([malformedLine error], { relay with unread := rest }) := by
  simp [readOne, running, next, drain_refused relay.queue refused, drain_nil, Drained.logFirst]

theorem readOne_sent {later : RecordQueue} (running : relay.stopped = false)
    (next : relay.unread = item :: rest) (accepted : Record.ofBytes 0 item = .ok record)
    (sent : relay.queue.send record = .ok later) :
    relay.readOne = ([], { relay with queue := later, unread := rest }) := by
  simp [readOne, running, next, drain_sent accepted sent, drain_nil]

theorem readOne_unsent {failure : AgentFailure} (running : relay.stopped = false)
    (next : relay.unread = item :: rest) (accepted : Record.ofBytes 0 item = .ok record)
    (unsent : relay.queue.send record = .error failure) :
    relay.readOne = ([stoppedLine failure], { relay with unread := rest, stopped := true }) := by
  simp [readOne, running, next, drain_unsent accepted unsent]

end Reading

theorem logOne_of_empty {relay : Relay} (empty : relay.queue.waiting = []) :
    relay.logOne = ([], relay) := by
  unfold logOne RecordQueue.receive
  rw [empty]
  split
  · cases relay.queue.senders.any id <;> rfl
  · rfl

theorem logOne_of_waiting {relay : Relay} {record : Record} {rest : List Record}
    (receiver : relay.queue.receiver = true) (next : relay.queue.waiting = record :: rest) :
    relay.logOne =
      ([recordLine record], { relay with queue := { relay.queue with waiting := rest } }) := by
  simp [logOne, receiver, RecordQueue.receive, next]

theorem logOne_of_no_receiver {relay : Relay} (gone : relay.queue.receiver = false) :
    relay.logOne = ([], relay) := by
  simp [logOne, gone]

/-! ## With a receiver -/

/-- What was read is logged or waits, in the order in which it arrived. -/
structure Accounted (arrived : List Item) (log : List LogLine) (relay : Relay) : Prop where
  receiver : relay.queue.receiver = true
  running : relay.stopped = false
  books : ∃ read, arrived = read ++ relay.unread ∧
    log.filter LogLine.isRecord ++ shownLines relay.queue.waiting = recordLines read ∧
    log.filter (fun line => !line.isRecord) = malformedLines read

theorem Accounted.act {arrived : List Item} {log : List LogLine} {relay : Relay}
    (accounted : Accounted arrived log relay) (next : Act) :
    Accounted (arrived ++ next.items) (log ++ (relay.act next).1) (relay.act next).2 := by
  obtain ⟨hreceiver, hrunning, read, harrived, hshown, hwarned⟩ := accounted
  cases next with
  | arrive items =>
      refine ⟨hreceiver, hrunning, read, ?_, ?_, ?_⟩
      · simp [Relay.act, Act.items, harrived]
      · simpa [Relay.act] using hshown
      · simpa [Relay.act] using hwarned
  | read =>
      simp only [Relay.act, Act.items, List.append_nil]
      cases hunread : relay.unread with
      | nil =>
          rw [readOne_of_empty hunread]
          exact ⟨hreceiver, hrunning, read, by simpa using harrived, by simpa using hshown,
            by simpa using hwarned⟩
      | cons item rest =>
          have hsplit : arrived = (read ++ [item]) ++ rest := by simp [harrived, hunread]
          cases hitem : Record.ofBytes 0 item with
          | error error =>
              rw [readOne_refused hrunning hunread hitem]
              refine ⟨hreceiver, hrunning, read ++ [item], hsplit, ?_, ?_⟩
              · rw [recordLines_snoc_error hitem, ← hshown]
                simp
              · rw [malformedLines_snoc_error hitem, ← hwarned]
                simp
          | ok record =>
              rw [readOne_sent hrunning hunread hitem (send_of_receiver hreceiver record)]
              refine ⟨hreceiver, hrunning, read ++ [item], hsplit, ?_, ?_⟩
              · rw [recordLines_snoc_ok hitem, ← hshown]
                simp
              · rw [malformedLines_snoc_ok hitem, ← hwarned]
                simp
  | log =>
      simp only [Relay.act, Act.items, List.append_nil]
      cases hwaiting : relay.queue.waiting with
      | nil =>
          rw [logOne_of_empty hwaiting]
          exact ⟨hreceiver, hrunning, read, by simpa using harrived, by simpa using hshown,
            by simpa using hwarned⟩
      | cons record rest =>
          rw [logOne_of_waiting hreceiver hwaiting]
          refine ⟨hreceiver, hrunning, read, harrived, ?_, ?_⟩
          · rw [← hshown, hwaiting]
            simp
          · rw [← hwarned]
            simp

/-! ## Without a receiver -/

/-- Nobody will ever receive, and nothing waits. -/
def Deserted (relay : Relay) : Prop :=
  relay.queue.receiver = false ∧ relay.queue.waiting = []

/--
What becomes of items without a receiver.  Each item refused costs its warning; the first that is
not refused is taken and stops the reading end.
-/
inductive Halts (arrived : List Item) (log : List LogLine) (relay : Relay) : Prop
  | reading (refused : List Item) (errors : List DecodeError)
      (arrived_eq : arrived = refused ++ relay.unread)
      (refusals : refused.map (Record.ofBytes 0) = errors.map Except.error)
      (log_eq : log = refusalLines errors) (running : relay.stopped = false) :
      Halts arrived log relay
  | stopped (refused : List Item) (errors : List DecodeError) (item : Item) (record : Record)
      (arrived_eq : arrived = refused ++ item :: relay.unread)
      (refusals : refused.map (Record.ofBytes 0) = errors.map Except.error)
      (accepted : Record.ofBytes 0 item = .ok record)
      (log_eq : log = refusalLines errors ++ [{
        level := .warn
        target := "kestrel::worker"
        message := "ring buffer worker stopped: " ++ AgentFailure.receiverGone.message }])
      (hstopped : relay.stopped = true) : Halts arrived log relay

theorem Deserted.act {relay : Relay} (deserted : relay.Deserted) (next : Act) :
    (relay.act next).2.Deserted := by
  obtain ⟨hgone, hwaiting⟩ := deserted
  cases next with
  | arrive items => exact ⟨hgone, hwaiting⟩
  | read =>
      simp only [Relay.act]
      cases hstopped : relay.stopped with
      | true =>
          rw [readOne_of_stopped hstopped]
          exact ⟨hgone, hwaiting⟩
      | false =>
          cases hunread : relay.unread with
          | nil =>
              rw [readOne_of_empty hunread]
              exact ⟨hgone, hwaiting⟩
          | cons item rest =>
              cases hitem : Record.ofBytes 0 item with
              | error error =>
                  rw [readOne_refused hstopped hunread hitem]
                  exact ⟨hgone, hwaiting⟩
              | ok record =>
                  rw [readOne_unsent hstopped hunread hitem (send_of_no_receiver hgone record)]
                  exact ⟨hgone, hwaiting⟩
  | log =>
      simp only [Relay.act]
      rw [logOne_of_no_receiver hgone]
      exact ⟨hgone, hwaiting⟩

theorem Halts.act {arrived : List Item} {log : List LogLine} {relay : Relay}
    (halts : Halts arrived log relay) (deserted : relay.Deserted) (next : Act) :
    Halts (arrived ++ next.items) (log ++ (relay.act next).1) (relay.act next).2 := by
  cases halts with
  | stopped refused errors item record arrived_eq refusals accepted log_eq hstopped =>
      cases next with
      | arrive items =>
          refine .stopped refused errors item record ?_ refusals accepted ?_ hstopped
          · simp [Relay.act, Act.items, arrived_eq]
          · simp [Relay.act, log_eq]
      | read =>
          simp only [Relay.act, Act.items, List.append_nil, readOne_of_stopped hstopped]
          exact .stopped refused errors item record arrived_eq refusals accepted log_eq hstopped
      | log =>
          simp only [Relay.act, Act.items, List.append_nil, logOne_of_no_receiver deserted.1]
          exact .stopped refused errors item record arrived_eq refusals accepted log_eq hstopped
  | reading refused errors arrived_eq refusals log_eq running =>
      cases next with
      | arrive items =>
          refine .reading refused errors ?_ refusals ?_ running
          · simp [Relay.act, Act.items, arrived_eq]
          · simp [Relay.act, log_eq]
      | log =>
          simp only [Relay.act, Act.items, List.append_nil, logOne_of_no_receiver deserted.1]
          exact .reading refused errors arrived_eq refusals log_eq running
      | read =>
          simp only [Relay.act, Act.items, List.append_nil]
          cases hunread : relay.unread with
          | nil =>
              rw [readOne_of_empty hunread]
              refine .reading refused errors ?_ refusals ?_ running
              · simp [arrived_eq]
              · simp [log_eq]
          | cons item rest =>
              cases hitem : Record.ofBytes 0 item with
              | error error =>
                  rw [readOne_refused running hunread hitem]
                  refine .reading (refused ++ [item]) (errors ++ [error]) ?_ ?_ ?_ running
                  · simp [arrived_eq, hunread]
                  · simp [refusals, hitem]
                  · simp [log_eq]
              | ok record =>
                  have hunsent := send_of_no_receiver deserted.1 record
                  rw [readOne_unsent running hunread hitem hunsent]
                  refine .stopped refused errors item record ?_ refusals hitem ?_ rfl
                  · simp [arrived_eq, hunread]
                  · rw [log_eq]
                    rfl

/-! ## Batches -/

/-- Items arrive and lines are logged on the way from one relay to another. -/
def Leads (relay : Relay) (items : List Item) (log : List LogLine) (later : Relay) : Prop :=
  ∃ acts : List Act, acts.flatMap Act.items = items ∧
    (Run.of Relay.act relay acts).logged = log ∧ (Run.of Relay.act relay acts).final = later

theorem Leads.refl (relay : Relay) : Leads relay [] [] relay :=
  ⟨[], rfl, rfl, rfl⟩

theorem Leads.trans {first second third : Relay} {items more : List Item}
    {log further : List LogLine} (left : Leads first items log second)
    (right : Leads second more further third) :
    Leads first (items ++ more) (log ++ further) third := by
  obtain ⟨acts, rfl, rfl, rfl⟩ := left
  obtain ⟨others, rfl, rfl, rfl⟩ := right
  refine ⟨acts ++ others, List.flatMap_append, ?_, ?_⟩
  · rw [Run.logged_of_append]
  · rw [Run.of_append]

theorem Leads.of_act (relay : Relay) (next : Act) :
    Leads relay next.items (relay.act next).1 (relay.act next).2 := by
  refine ⟨[next], ?_, ?_, rfl⟩
  · simp
  · simp [Run.logged, Run.of, Run.turn]

theorem leads_of_readOne (relay : Relay) {later : Relay} {log : List LogLine}
    (h : relay.readOne = (log, later)) : Leads relay [] log later := by
  have hact := Leads.of_act relay .read
  rwa [Relay.act, h] at hact

theorem leads_of_logOne (relay : Relay) {later : Relay} {log : List LogLine}
    (h : relay.logOne = (log, later)) : Leads relay [] log later := by
  have hact := Leads.of_act relay .log
  rwa [Relay.act, h] at hact

/-- To drain the ring is to take its items one by one. -/
theorem leads_drain (queue : RecordQueue) (items : List Item) :
    Leads { queue := queue, unread := items } [] (drain queue items).lines
      { queue := (drain queue items).queue
        unread := (drain queue items).unread
        stopped := (drain queue items).stopped } := by
  induction items generalizing queue with
  | nil => exact .refl _
  | cons item items ih =>
      cases hitem : Record.ofBytes 0 item with
      | error error =>
          have hone := leads_of_readOne { queue := queue, unread := item :: items }
            (readOne_refused rfl rfl hitem)
          rw [drain_refused queue hitem]
          exact hone.trans (ih queue)
      | ok record =>
          cases hsend : queue.send record with
          | ok later =>
              have hone := leads_of_readOne { queue := queue, unread := item :: items }
                (readOne_sent rfl rfl hitem hsend)
              rw [drain_sent hitem hsend]
              exact hone.trans (ih later)
          | error failure =>
              rw [drain_unsent hitem hsend]
              exact leads_of_readOne _ (readOne_unsent rfl rfl hitem hsend)

/-- To log what waits is to log its records one by one. -/
theorem leads_logWaiting {relay : Relay} (receiver : relay.queue.receiver = true) :
    Leads relay [] (logWaiting relay.queue).1
      { relay with queue := (logWaiting relay.queue).2 } := by
  obtain ⟨⟨waiting, senders, _⟩, unread, stopped⟩ := relay
  induction waiting with
  | nil => exact .refl _
  | cons record waiting ih =>
      exact (leads_of_logOne _ (logOne_of_waiting receiver rfl)).trans (ih receiver)

theorem leads_read (relay : Relay) : Leads relay [] relay.read.1 relay.read.2 := by
  obtain ⟨queue, unread, stopped⟩ := relay
  cases stopped with
  | true => exact .refl _
  | false => exact leads_drain queue unread

theorem leads_log (relay : Relay) : Leads relay [] relay.log.1 relay.log.2 := by
  cases hreceiver : relay.queue.receiver with
  | true =>
      have hlog : relay.log = ((logWaiting relay.queue).1,
          { relay with queue := (logWaiting relay.queue).2 }) := by
        simp [log, hreceiver]
      rw [hlog]
      exact leads_logWaiting hreceiver
  | false =>
      have hlog : relay.log = ([], relay) := by simp [log, hreceiver]
      rw [hlog]
      exact .refl relay

/-- A batch is one way in which the two ends can take their turns. -/
theorem leads_batch (relay : Relay) (items : List Item) :
    Leads relay items (relay.batch items).1 (relay.batch items).2 := by
  have harrive := Leads.of_act relay (.arrive items)
  have hrest := (leads_read (relay.act (.arrive items)).2).trans (leads_log _)
  have hbatch := harrive.trans hrest
  simpa [Act.items, Relay.act, batch] using hbatch

theorem leads_batches (relay : Relay) (batches : List (List Item)) :
    Leads relay batches.flatten (Run.of Relay.batch relay batches).logged
      (Run.of Relay.batch relay batches).final := by
  induction batches generalizing relay with
  | nil => exact .refl relay
  | cons items batches ih =>
      have hbatches := (leads_batch relay items).trans (ih (relay.batch items).2)
      simpa [Run.of, Run.logged, Run.turn] using hbatches

structure Settled (relay : Relay) : Prop where
  read : relay.stopped = true ∨ relay.unread = []
  logged : relay.queue.receiver = true → relay.queue.waiting = []

theorem read_of_read (relay : Relay) :
    relay.read.2.stopped = true ∨ relay.read.2.unread = [] := by
  obtain ⟨queue, unread, stopped⟩ := relay
  cases stopped with
  | true => exact .inl rfl
  | false => exact stopped_or_unread_drain queue unread

theorem settled_batch (relay : Relay) (items : List Item) : (relay.batch items).2.Settled := by
  have hread := read_of_read { relay with unread := relay.unread ++ items }
  simp only [batch, log]
  cases hreceiver :
      ({ relay with unread := relay.unread ++ items } : Relay).read.2.queue.receiver with
  | true => exact ⟨by simpa using hread, fun _ => rfl⟩
  | false =>
      refine ⟨by simpa using hread, fun h => ?_⟩
      simp [hreceiver] at h

theorem settled_of_run (receiver : Bool) (batches : List (List Item)) :
    (Run.of Relay.batch (start receiver) batches).final.Settled := by
  refine Run.invariant (P := fun _ relay => Settled relay) ?_ ?_ batches
  · exact ⟨.inr rfl, fun _ => rfl⟩
  · intro turns relay items _
    exact relay.settled_batch items

/-! ## Runs -/

theorem accounted_of_acts (acts : List Act) :
    Accounted (acts.flatMap Act.items) (Run.of Relay.act (start true) acts).logged
      (Run.of Relay.act (start true) acts).final := by
  have hrun : Accounted
      (((Run.of Relay.act (start true) acts).turns.map Turn.step).flatMap Act.items)
      (Run.of Relay.act (start true) acts).logged (Run.of Relay.act (start true) acts).final := by
    refine Run.invariant (P := fun turns relay => Accounted
      ((turns.map Turn.step).flatMap Act.items) (turns.flatMap Turn.answer) relay) ?_ ?_ acts
    · exact ⟨rfl, rfl, [], rfl, rfl, rfl⟩
    · intro turns relay next accounted
      have hnext := accounted.act next
      simpa [Run.turn] using hnext
  rwa [Run.map_step_of] at hrun

theorem halts_of_acts (acts : List Act) :
    Halts (acts.flatMap Act.items) (Run.of Relay.act (start false) acts).logged
      (Run.of Relay.act (start false) acts).final := by
  have hrun : (Run.of Relay.act (start false) acts).final.Deserted ∧ Halts
      (((Run.of Relay.act (start false) acts).turns.map Turn.step).flatMap Act.items)
      (Run.of Relay.act (start false) acts).logged (Run.of Relay.act (start false) acts).final := by
    refine Run.invariant (P := fun turns relay => relay.Deserted ∧ Halts
      ((turns.map Turn.step).flatMap Act.items) (turns.flatMap Turn.answer) relay) ?_ ?_ acts
    · exact ⟨⟨rfl, rfl⟩, .reading [] [] rfl rfl rfl rfl⟩
    · rintro turns relay next ⟨deserted, halts⟩
      have hnext := halts.act deserted next
      exact ⟨deserted.act next, by simpa [Run.turn] using hnext⟩
  rw [Run.map_step_of] at hrun
  exact hrun.2

/-- Nothing is left to do, and each item has its line. -/
structure Delivered (items : List Item) (run : Run Relay (List Item) (List LogLine)) : Prop where
  unread : run.final.unread = []
  waiting : run.final.queue.waiting = []
  shown : run.logged.filter LogLine.isRecord = recordLines items
  warned : run.logged.filter (fun line => !line.isRecord) = malformedLines items

theorem delivered_of_run (batches : List (List Item)) :
    Delivered batches.flatten (Run.of Relay.batch (start true) batches) := by
  obtain ⟨acts, hitems, hlog, hfinal⟩ := leads_batches (start true) batches
  obtain ⟨hreceiver, hrunning, read, harrived, hshown, hwarned⟩ := accounted_of_acts acts
  obtain ⟨hread, hlogged⟩ := settled_of_run true batches
  rw [hfinal] at hreceiver hrunning harrived hshown
  rw [hlog] at hshown hwarned
  have hunread : (Run.of Relay.batch (start true) batches).final.unread = [] := by
    simpa [hrunning] using hread
  have hwaiting := hlogged hreceiver
  have hall : batches.flatten = read := by simpa [hitems, hunread] using harrived
  refine ⟨hunread, hwaiting, ?_, ?_⟩
  · simpa [hall, hwaiting] using hshown
  · simpa [hall] using hwarned

theorem Halts.shown_eq_nil {arrived : List Item} {log : List LogLine} {relay : Relay}
    (halts : Halts arrived log relay) : log.filter LogLine.isRecord = [] := by
  cases halts with
  | reading refused errors _ _ log_eq _ => rw [log_eq, filter_refusalLines]
  | stopped refused errors _ _ _ _ _ log_eq _ =>
      rw [log_eq, List.filter_append, filter_refusalLines]
      rfl

/-- What the agent reports of each batch is what its turn logged and left behind. -/
theorem reports_runBatches (relay : Relay) (before : List LogLine) (batches : List (List Item)) :
    (relay.runBatches before batches).1.map (fun report => (report.lines, report.unread)) =
      (Run.of Relay.batch relay batches).turns.map fun turn =>
        (turn.answer, (turn.before.batch turn.step).2.unread.length) := by
  induction batches generalizing relay before with
  | nil => rfl
  | cons items batches ih => simp [runBatches, Run.of, Run.turn, ih]

end Relay

/-! ## A queue without senders -/

namespace RecordQueue

def receives (queue : RecordQueue) (count : Nat) : Run RecordQueue Unit Received :=
  Run.of (fun queue _ => queue.receive) queue (List.replicate count ())

/-- What was sent is still received, and then the queue is closed for good. -/
theorem answers_receives (queue : RecordQueue) (noSender : queue.senders.any id = false)
    (count : Nat) :
    (queue.receives count).turns.map Turn.answer =
      (queue.waiting.take count).map .record ++
        List.replicate (count - queue.waiting.length) (.closed .sendersGone) := by
  induction count generalizing queue with
  | zero => simp [receives, Run.of]
  | succ count ih =>
      rw [receives, List.replicate_succ, Run.of, List.map_cons]
      cases hwaiting : queue.waiting with
      | nil =>
          have hreceive : queue.receive = (.closed .sendersGone, queue) := by
            rw [receive, hwaiting]
            simp only [noSender]
            rfl
          have hrest := ih queue noSender
          simp only [hwaiting, List.take_nil, List.map_nil, List.nil_append, List.length_nil,
            Nat.sub_zero] at hrest ⊢
          rw [Run.turn, hreceive, List.replicate_succ]
          exact congrArg _ hrest
      | cons record rest =>
          have hreceive : queue.receive = (.record record, { queue with waiting := rest }) := by
            rw [receive, hwaiting]
          have hrest := ih { queue with waiting := rest } noSender
          rw [receives] at hrest
          rw [Run.turn, hreceive]
          simpa using hrest

end RecordQueue

theorem queue_drain (queue : RecordQueue) (receiver : queue.receiver = true)
    (items : List Item) :
    (drain queue items).queue =
      { queue with waiting := queue.waiting ++ items.filterMap Record.ofItem? } := by
  induction items generalizing queue with
  | nil => simp [drain_nil]
  | cons item items ih =>
      cases hitem : Record.ofBytes 0 item with
      | error error =>
          have hnone := Record.ofItem?_of_error hitem
          rw [drain_refused queue hitem, List.filterMap_cons_none hnone]
          exact ih queue receiver
      | ok record =>
          have hsome := Record.ofItem?_of_ok hitem
          have hrest := ih { queue with waiting := queue.waiting ++ [record] } receiver
          rw [drain_sent hitem (send_of_receiver receiver record), hrest,
            List.filterMap_cons_some hsome]
          simp

/-- Every item that arrives comes to its line, once and in its turn. -/
theorem relayed_in_order :
    (∀ acts : List Relay.Act,
      let run := Run.of Relay.act (Relay.start true) acts
      Relay.Accounted (acts.flatMap Relay.Act.items) run.logged run.final) ∧
    (∀ acts : List Relay.Act,
      let run := Run.of Relay.act (Relay.start false) acts
      Relay.Halts (acts.flatMap Relay.Act.items) run.logged run.final) ∧
    (∀ batches : List (List Item),
      Relay.Delivered batches.flatten (Run.of Relay.batch (Relay.start true) batches)) ∧
    (∀ batches : List (List Item),
      let run := Run.of Relay.batch (Relay.start false) batches
      Relay.Halts batches.flatten run.logged run.final ∧
        (run.final.stopped = true ∨ run.final.unread = []) ∧
        run.logged.filter LogLine.isRecord = []) ∧
    (∀ (receiver : Bool) (before : List LogLine) (batches : List (List Item)),
      ((Relay.start receiver).runBatches before batches).1.map
          (fun report => (report.lines, report.unread)) =
        (Run.of Relay.batch (Relay.start receiver) batches).turns.map fun turn =>
          (turn.answer, (turn.before.batch turn.step).2.unread.length)) ∧
    ∀ (items : List Item) (count : Nat),
      let sent := items.filterMap Record.ofItem?
      let closed := ((drain {} items).queue.dropSender 0).2
      (closed.receives count).turns.map Turn.answer =
          (sent.take count).map .record ++
            List.replicate (count - sent.length) (.closed .sendersGone) ∧
        (logWaiting closed).1 = recordLines items := by
  refine ⟨Relay.accounted_of_acts, Relay.halts_of_acts, Relay.delivered_of_run, ?_, ?_, ?_⟩
  · intro batches
    obtain ⟨acts, hitems, hlog, hfinal⟩ := Relay.leads_batches (Relay.start false) batches
    have hhalts := Relay.halts_of_acts acts
    rw [hitems, hlog, hfinal] at hhalts
    exact ⟨hhalts, (Relay.settled_of_run false batches).read, hhalts.shown_eq_nil⟩
  · intro receiver before batches
    exact Relay.reports_runBatches (Relay.start receiver) before batches
  · intro items count
    have hqueue := queue_drain {} rfl items
    have hreceives := RecordQueue.answers_receives ((drain {} items).queue.dropSender 0).2
      (by rw [hqueue]; rfl) count
    constructor
    · simpa [hqueue, RecordQueue.dropSender] using hreceives
    · simp only [logWaiting, RecordQueue.receiveAll, RecordQueue.dropSender, hqueue]
      rfl

end BindTrace
