import BindTrace.Proofs.Channel.Book
import BindTrace.Proofs.Channel.Slots

/-! # What becomes of the slots of a session

Whatever the order of the steps, a session goes by its book: the ring holds room
for the slots that are open, for the records that wait and for the slots that
were forgotten, and for nothing else; a draft holds what was written to it since
it was cleared; and what is popped is what was published.
-/

namespace BindTrace

namespace Session

def fresh (capacity : Nat) (residue : Block Event.size) : Session where
  ring := { capacity := capacity, residue := residue }

/-! ## Sessions that go by the book -/

inductive Life.Shows : Life → Option OpenSlot → Prop
  | closed : Shows .closed none
  | raw (bytes : Block Event.size) : Shows .raw (some (.raw bytes))
  | written (edits : List Edit) : Shows (.written edits) (some (.draft { record := record edits }))

structure Follows (capacity : Nat) (book : Book) (session : Session) : Prop where
  distinct : session.Distinct
  shows : ∀ name, (book.life name).Shows (session.slot? name)
  capacity_eq : session.ring.capacity = capacity
  reserved_le : session.ring.reserved ≤ capacity
  reserved_eq : session.ring.reserved =
    Event.size * (session.slots.length + session.ring.ready.length + book.forgotten)
  discarded_eq : session.ring.discarded = book.givenBack
  in_order : book.popped ++ session.ring.ready = book.published
  granted_eq : book.granted = session.slots.length + book.endings.length

/-- A slot may be granted and a slot may end, with what that does to a ring. -/
structure Settles (ring : ByteRing) (granted : Bool) (ending : Option Ending) (later : ByteRing) :
    Prop where
  capacity_eq : later.capacity = ring.capacity
  reserved_le : ring.reserved ≤ ring.capacity → later.reserved ≤ ring.capacity
  reserved_eq : later.reserved + Event.size * ending.toList.countP Ending.isGivenBack =
    ring.reserved + Event.size * granted.toNat
  ready_eq : later.ready = ring.ready ++ ending.toList.filterMap Ending.record?
  discarded_eq : later.discarded = ring.discarded + ending.toList.countP Ending.isGivenBack

theorem Ending.counted_once (ending : Option Ending) :
    ending.toList.countP isForgotten + ending.toList.countP isGivenBack +
      (ending.toList.filterMap record?).length = ending.toList.length := by
  rcases ending with _ | ending
  · rfl
  · cases ending <;> rfl

/-! ### What a ring does -/

theorem settles_nothing (ring : ByteRing) : Settles ring false none ring :=
  ⟨rfl, id, rfl, (List.append_nil _).symm, rfl⟩

theorem settles_forgotten (ring : ByteRing) : Settles ring false (some .forgotten) ring :=
  ⟨rfl, id, rfl, (List.append_nil _).symm, rfl⟩

theorem settles_publish (ring : ByteRing) (record : Event) :
    Settles ring false (some (.published record)) (ring.publish record) :=
  ⟨rfl, id, rfl, rfl, rfl⟩

theorem settles_discard {ring : ByteRing} (room : Event.size ≤ ring.reserved)
    (bytes : Block Event.size) :
    Settles ring false (some .givenBack) (ring.discard bytes) := by
  have hfreed : ring.reserved - Event.size + Event.size = ring.reserved := Nat.sub_add_cancel room
  rw [ByteRing.discard]
  refine ⟨rfl, Nat.le_trans (Nat.sub_le _ _), ?_, (List.append_nil _).symm, rfl⟩
  exact hfreed

/-- A slot is granted, and the one it takes the place of ends without a word to the ring. -/
theorem settles_reserve {ring : ByteRing} (fits : ring.reserved + Event.size ≤ ring.capacity)
    {ending : Option Ending} (silent : ending = none ∨ ending = some .forgotten) :
    Settles ring true ending { ring with reserved := ring.reserved + Event.size } := by
  rcases silent with rfl | rfl
  · exact ⟨rfl, fun _ => fits, rfl, (List.append_nil _).symm, rfl⟩
  · exact ⟨rfl, fun _ => fits, rfl, (List.append_nil _).symm, rfl⟩

theorem settles_reserve_discard (ring : ByteRing) (bytes : Block Event.size) :
    Settles ring true (some .givenBack)
      (ByteRing.discard { ring with reserved := ring.reserved + Event.size } bytes) := by
  have hfreed : ring.reserved + Event.size - Event.size = ring.reserved := Nat.add_sub_cancel _ _
  rw [ByteRing.discard]
  refine ⟨rfl, ?_, ?_, (List.append_nil _).symm, rfl⟩
  · rw [hfreed]
    exact id
  · rw [hfreed]
    rfl

section Steps

variable {capacity : Nat} {book : Book} {session later : Session} {turn : Turn} {name : String}

/-- A turn of a name is noted if it opens and ends what the book says, and leaves others alone. -/
theorem Follows.note (follows : session.Follows capacity book) (hname : turn.step.name? = some name)
    (distinct : later.Distinct)
    (others : ∀ other, other ≠ name → later.slot? other = session.slot? other)
    (own : ((book.life name).next turn).Shows (later.slot? name))
    (hlength : later.slots.length + ((book.life name).ending? turn).toList.length =
      session.slots.length + turn.granted.toNat)
    (settles : Settles session.ring turn.granted ((book.life name).ending? turn) later.ring) :
    later.Follows capacity (book.note turn) := by
  obtain ⟨-, shows, hcapacity, hwithin, hreserved, hdiscarded, horder, hgranted⟩ := follows
  have hendings : (book.note turn).endings =
      book.endings ++ ((book.life name).ending? turn).toList := by
    change book.endings ++ (book.ending? turn).toList = _
    rw [Book.ending?, hname, Option.bind_some]
  -- An ending frees room, leaves a record waiting, or loses the room: one of the three, and once.
  have hcount := Ending.counted_once ((book.life name).ending? turn)
  have hsettled := settles.reserved_eq
  have hready := congrArg List.length settles.ready_eq
  rw [List.length_append] at hready
  refine ⟨distinct, ?_, settles.capacity_eq.trans hcapacity, ?_, ?_, ?_, ?_, ?_⟩
  · intro other
    by_cases same : other = name
    · subst same
      have hlife : (book.note turn).life other = (book.life other).next turn := if_pos hname
      rw [hlife]
      exact own
    · have hlife : (book.note turn).life other = book.life other :=
        if_neg fun h => same (Option.some.inj (h.symm.trans hname))
      rw [hlife, others other same]
      exact shows other
  · rw [← hcapacity] at hwithin ⊢
    exact settles.reserved_le hwithin
  · have hforgotten : (book.note turn).forgotten =
        book.forgotten + ((book.life name).ending? turn).toList.countP Ending.isForgotten := by
      rw [Book.forgotten, hendings, List.countP_append, Book.forgotten]
    rw [hreserved] at hsettled
    rw [hforgotten]
    change later.ring.reserved = 1176 * _
    change later.ring.reserved + 1176 * _ = 1176 * _ + 1176 * _ at hsettled
    omega
  · rw [Book.givenBack, hendings, List.countP_append, settles.discarded_eq, hdiscarded,
      Book.givenBack]
  · change book.popped ++ (Turn.popped? turn).toList ++ later.ring.ready = _
    rw [Turn.popped?_of_name hname, Option.toList_none, List.append_nil, settles.ready_eq,
      ← List.append_assoc, horder, Book.published, Book.published, hendings,
      List.filterMap_append]
  · change book.granted + turn.granted.toNat = _
    rw [hendings, List.length_append]
    omega

/-- What a name stands for, in the book and in the session. -/
theorem Follows.standing (follows : session.Follows capacity book) (name : String) :
    (book.life name = .closed ∧ session.slot? name = none) ∨
      (∃ bytes, book.life name = .raw ∧ session.slot? name = some (.raw bytes)) ∨
      ∃ edits, book.life name = .written edits ∧
        session.slot? name = some (.draft { record := Life.record edits }) := by
  have shows := follows.shows name
  generalize book.life name = life at shows
  generalize session.slot? name = slot at shows
  cases shows with
  | closed => exact .inl ⟨rfl, rfl⟩
  | raw bytes => exact .inr (.inl ⟨bytes, rfl, rfl⟩)
  | written edits => exact .inr (.inr ⟨edits, rfl, rfl⟩)

theorem Follows.kept (follows : session.Follows capacity book) {old slot : OpenSlot}
    (hslot : session.slot? name = some old) (hname : turn.step.name? = some name)
    (own : ((book.life name).next turn).Shows (some slot))
    (hending : (book.life name).ending? turn = none) (hgranted : turn.granted = false) :
    (session.keep name slot).Follows capacity (book.note turn) := by
  refine follows.note hname (follows.distinct.keep name slot) (fun _ => slot?_keep_of_ne) ?_ ?_ ?_
  · rw [slot?_keep_self]
    exact own
  · rw [hending, hgranted, length_keep]
    exact length_close_of_some follows.distinct hslot
  · rw [hending, hgranted]
    exact settles_nothing session.ring

theorem Follows.ended (follows : session.Follows capacity book) {old : OpenSlot}
    (hslot : session.slot? name = some old) (hname : turn.step.name? = some name)
    (hnext : (book.life name).next turn = .closed) {ending : Ending}
    (hending : (book.life name).ending? turn = some ending) (hgranted : turn.granted = false)
    {ring : ByteRing} (settles : Settles session.ring false (some ending) ring) :
    Follows capacity (book.note turn) { session.close name with ring := ring } := by
  refine follows.note hname (follows.distinct.close name) (fun _ => slot?_close_of_ne) ?_ ?_ ?_
  · have hclosed : Session.slot? { session.close name with ring := ring } name = none :=
      slot?_close_self
    rw [hnext, hclosed]
    exact .closed
  · rw [hending, hgranted]
    exact length_close_of_some follows.distinct hslot
  · rw [hending, hgranted]
    exact settles

theorem Follows.room (follows : session.Follows capacity book) {old : OpenSlot}
    (hslot : session.slot? name = some old) : Event.size ≤ session.ring.reserved := by
  have hlength := length_close_of_some follows.distinct hslot
  have hreserved := follows.reserved_eq
  change session.ring.reserved = 1176 * _ at hreserved
  change 1176 ≤ session.ring.reserved
  omega

theorem Follows.opened (follows : session.Follows capacity book) {answer : Answer} {ring : ByteRing}
    {bytes : Block Event.size} (granted : Turn.granted ⟨session, .reserve name, answer⟩ = true)
    (hlength : (session.close name).slots.length +
      ((book.life name).ending? ⟨session, .reserve name, answer⟩).toList.length =
        session.slots.length)
    (settles : Settles session.ring true
      ((book.life name).ending? ⟨session, .reserve name, answer⟩) ring) :
    Follows capacity (book.note ⟨session, .reserve name, answer⟩)
      (keep { session with ring := ring } name (.raw bytes)) := by
  have hnext : (book.life name).next ⟨session, .reserve name, answer⟩ = .raw := if_pos granted
  refine follows.note rfl (follows.distinct.keep name _) (fun _ => slot?_keep_of_ne) ?_ ?_ ?_
  · rw [hnext, slot?_keep_self]
    exact .raw bytes
  · rw [granted, length_keep]
    change (session.close name).slots.length + 1 + _ = session.slots.length + 1
    omega
  · rw [granted]
    exact settles

/-- A step that says nothing to its name's slot leaves the session as it is. -/
theorem Follows.stay (follows : session.Follows capacity book) {step : Step} {answer : Answer}
    (hname : step.name? = some name) (hstep : session.step step = (answer, session))
    (hnext : (book.life name).next ⟨session, step, answer⟩ = book.life name)
    (hending : (book.life name).ending? ⟨session, step, answer⟩ = none)
    (hgranted : Turn.granted ⟨session, step, answer⟩ = false) :
    (session.step step).2.Follows capacity (book.note (Run.turn Session.step session step)) := by
  rw [Run.turn, hstep, Book.note_idle hname hnext hending hgranted]
  exact follows

theorem step_reserve_of_full (full : ¬ session.ring.reserved + Event.size ≤ session.ring.capacity)
    (name : String) : session.step (.reserve name) = (.reserved false, session) := by
  simp only [step, ByteRing.reserve?, if_neg full]

theorem step_reserve_of_fits (fits : session.ring.reserved + Event.size ≤ session.ring.capacity)
    (name : String) : session.step (.reserve name) = (.reserved true,
      ({ session with
        ring := { session.ring with reserved := session.ring.reserved + Event.size }
        : Session }.discardDraft name).keep name (.raw session.ring.residue)) := by
  simp only [step, ByteRing.reserve?, if_pos fits]

theorem Follows.step_reserve (follows : session.Follows capacity book) (name : String) :
    (session.step (.reserve name)).2.Follows capacity
      (book.note (Run.turn Session.step session (.reserve name))) := by
  by_cases fits : session.ring.reserved + Event.size ≤ session.ring.capacity
  · rw [Run.turn, step_reserve_of_fits fits, discardDraft]
    have hslot : ∀ ring : ByteRing, Session.slot? { session with ring := ring } name =
        session.slot? name := fun _ => rfl
    rw [hslot]
    -- The slot that the name stood for decides what the ring is told.
    rcases follows.standing name with ⟨hlife, hslot⟩ | ⟨bytes, hlife, hslot⟩ | ⟨edits, hlife, hslot⟩
    · rw [hslot]
      refine follows.opened rfl ?_ ?_
      · rw [hlife]
        exact length_close_of_none hslot
      · rw [hlife]
        exact settles_reserve fits (.inl rfl)
    · rw [hslot]
      refine follows.opened rfl ?_ ?_
      · rw [hlife]
        exact length_close_of_some follows.distinct hslot
      · rw [hlife]
        exact settles_reserve fits (.inr rfl)
    · rw [hslot]
      dsimp only
      rw [keep_close]
      refine follows.opened rfl ?_ ?_
      · rw [hlife]
        exact length_close_of_some follows.distinct hslot
      · rw [hlife]
        exact settles_reserve_discard _ _
  · refine follows.stay rfl (step_reserve_of_full fits name) ?_ ?_ rfl
    · cases book.life name <;> rfl
    · cases book.life name <;> rfl

theorem Follows.raw_iff (follows : session.Follows capacity book) :
    book.life name = .raw ↔ ∃ bytes, session.slot? name = some (.raw bytes) := by
  rcases follows.standing name with ⟨hlife, hslot⟩ | ⟨bytes, hlife, hslot⟩ | ⟨edits, hlife, hslot⟩
  · simp [hlife, hslot]
  · simp [hlife, hslot]
  · simp [hlife, hslot]

theorem Follows.draft_iff (follows : session.Follows capacity book) :
    (∃ edits, book.life name = .written edits) ↔
      ∃ draft, session.slot? name = some (.draft draft) := by
  rcases follows.standing name with ⟨hlife, hslot⟩ | ⟨bytes, hlife, hslot⟩ | ⟨edits, hlife, hslot⟩
  · simp [hlife, hslot]
  · simp [hlife, hslot]
  · simp [hlife, hslot]

def Step.needsRaw : Step → Bool
  | scribble _ _ => true
  | clear _ => true
  | discardRaw _ => true
  | forgetRaw _ => true
  | _ => false

def Step.needsDraft : Step → Bool
  | edit _ _ => true
  | publish _ => true
  | discard _ => true
  | drop _ => true
  | _ => false

theorem step_of_not_raw {step : Step} (needs : step.needsRaw = true)
    (hname : step.name? = some name) (other : ∀ bytes, session.slot? name ≠ some (.raw bytes)) :
    session.step step = (.done, session) := by
  -- The same match on the slot stands in each of these steps.
  cases step <;> cases needs <;> cases hname <;> rw [Session.step]
  all_goals
    split
    · next hslot => exact absurd hslot (other _)
    · rfl

theorem step_of_not_draft {step : Step} (needs : step.needsDraft = true)
    (hname : step.name? = some name) (other : ∀ draft, session.slot? name ≠ some (.draft draft)) :
    session.step step = (.done, session) := by
  cases step <;> cases needs <;> cases hname <;> rw [Session.step]
  all_goals
    try rw [discardDraft]
    split
    · next hslot => exact absurd hslot (other _)
    · rfl

/-- A step for a raw slot is noted, whether or not there is one. -/
theorem Follows.step_raw (follows : session.Follows capacity book) {step : Step}
    (needs : step.needsRaw = true) (hname : step.name? = some name) :
    (session.step step).2.Follows capacity (book.note (Run.turn Session.step session step)) := by
  by_cases hlife : book.life name = .raw
  · obtain ⟨bytes, hslot⟩ := follows.raw_iff.mp hlife
    cases step with
    | scribble _ byte =>
        cases hname
        rw [Run.turn, Session.step, hslot]
        refine follows.kept hslot rfl ?_ (by rw [hlife]; rfl) rfl
        rw [hlife]
        exact .raw _
    | clear _ =>
        cases hname
        rw [Run.turn, Session.step, hslot]
        refine follows.kept hslot rfl ?_ (by rw [hlife]; rfl) rfl
        rw [hlife, Draft.clear_eq, Event.ofBlock_zero]
        exact .written []
    | discardRaw _ =>
        cases hname
        rw [Run.turn, Session.step, hslot]
        exact follows.ended hslot rfl (by rw [hlife]; rfl) (by rw [hlife]; rfl) rfl
          (settles_discard (follows.room hslot) bytes)
    | forgetRaw _ =>
        cases hname
        rw [Run.turn, Session.step, hslot]
        exact follows.ended hslot rfl (by rw [hlife]; rfl) (by rw [hlife]; rfl) rfl
          (settles_forgotten session.ring)
    | _ => cases needs
  · have other : ∀ bytes, session.slot? name ≠ some (.raw bytes) := fun bytes hslot =>
      hlife (follows.raw_iff.mpr ⟨bytes, hslot⟩)
    refine follows.stay hname (step_of_not_raw needs hname other) ?_ ?_ rfl
    · generalize book.life name = life at hlife
      cases step <;> cases needs <;> cases life <;> first | rfl | exact absurd rfl hlife
    · generalize book.life name = life at hlife
      cases step <;> cases needs <;> cases life <;> first | rfl | exact absurd rfl hlife

/-- A step for a draft is noted, whether or not there is one. -/
theorem Follows.step_draft (follows : session.Follows capacity book) {step : Step}
    (needs : step.needsDraft = true) (hname : step.name? = some name) :
    (session.step step).2.Follows capacity (book.note (Run.turn Session.step session step)) := by
  by_cases hdraft : ∃ edits, book.life name = .written edits
  · obtain ⟨earlier, hlife⟩ := hdraft
    have hslot : session.slot? name = some (.draft { record := Life.record earlier }) := by
      have shows := follows.shows name
      rw [hlife] at shows
      generalize session.slot? name = slot at shows
      cases shows
      rfl
    cases step with
    | edit _ edits =>
        cases hname
        rw [Run.turn, Session.step, hslot]
        refine follows.kept hslot rfl ?_ (by rw [hlife]; rfl) rfl
        have hrecord : edits.foldl Edit.apply (Life.record earlier) =
            Life.record (earlier ++ edits) := List.foldl_append.symm
        rw [hlife]
        dsimp only
        rw [hrecord]
        exact .written (earlier ++ edits)
    | publish _ =>
        cases hname
        rw [Run.turn, Session.step, hslot]
        exact follows.ended hslot rfl (by rw [hlife]; rfl) (by rw [hlife]; rfl) rfl
          (settles_publish session.ring _)
    | discard _ =>
        cases hname
        rw [Run.turn, Session.step, discardDraft, hslot]
        exact follows.ended hslot rfl (by rw [hlife]; rfl) (by rw [hlife]; rfl) rfl
          (settles_discard (follows.room hslot) _)
    | drop _ =>
        cases hname
        rw [Run.turn, Session.step, discardDraft, hslot]
        exact follows.ended hslot rfl (by rw [hlife]; rfl) (by rw [hlife]; rfl) rfl
          (settles_discard (follows.room hslot) _)
    | _ => cases needs
  · have other : ∀ draft, session.slot? name ≠ some (.draft draft) := fun draft hslot =>
      hdraft (follows.draft_iff.mpr ⟨draft, hslot⟩)
    refine follows.stay hname (step_of_not_draft needs hname other) ?_ ?_ rfl
    · generalize book.life name = life at hdraft
      cases step <;> cases needs <;> cases life <;> first | rfl | exact absurd ⟨_, rfl⟩ hdraft
    · generalize book.life name = life at hdraft
      cases step <;> cases needs <;> cases life <;> first | rfl | exact absurd ⟨_, rfl⟩ hdraft

theorem popped_of_ready {ring : ByteRing} {record : Event} {rest : List Event}
    (hready : ring.ready = record :: rest) :
    ∃ later, ring.pop? = some (record, later) ∧ later.capacity = ring.capacity ∧
      later.reserved = ring.reserved - Event.size ∧ later.ready = rest ∧
      later.discarded = ring.discarded := by
  refine ⟨{ ring with
    reserved := ring.reserved - Event.size
    ready := rest
    residue := record.toBlock }, ?_, rfl, rfl, rfl, rfl⟩
  rw [ByteRing.pop?, hready]

theorem Follows.step_pop (follows : session.Follows capacity book) :
    (session.step .pop).2.Follows capacity (book.note (Run.turn Session.step session .pop)) := by
  cases hready : session.ring.ready with
  | nil =>
      have hstep : session.step .pop = (.record none, session) := by
        simp only [Session.step, ByteRing.pop?, hready]
      rw [Run.turn, hstep, Book.note_pop, Option.toList_none, List.append_nil]
      exact follows
  | cons record rest =>
      obtain ⟨ring, hpop, hcapacity, hfreed, hrest, hdiscarded⟩ := popped_of_ready hready
      have hstep : session.step .pop = (.record (some record), { session with ring := ring }) := by
        simp only [Session.step, hpop]
      have hreserved := follows.reserved_eq
      rw [hready, List.length_cons] at hreserved
      rw [Run.turn, hstep, Book.note_pop]
      refine ⟨follows.distinct, follows.shows, hcapacity.trans follows.capacity_eq, ?_, ?_,
        hdiscarded.trans follows.discarded_eq, ?_, follows.granted_eq⟩
      · rw [hfreed]
        exact Nat.le_trans (Nat.sub_le _ _) follows.reserved_le
      · rw [hrest]
        change ring.reserved = session.ring.reserved - 1176 at hfreed
        change session.ring.reserved = 1176 * _ at hreserved
        change ring.reserved = 1176 * (session.slots.length + rest.length + book.forgotten)
        omega
      · change book.popped ++ [record] ++ ring.ready = book.published
        rw [hrest, List.append_assoc, ← follows.in_order, hready]
        rfl

theorem Follows.step_peek (follows : session.Follows capacity book) (name : String) :
    session.step (.peek name) = (.record (book.life name).record?, session) := by
  rcases follows.standing name with ⟨hlife, hslot⟩ | ⟨bytes, hlife, hslot⟩ | ⟨edits, hlife, hslot⟩
  · rw [Session.step, hslot, hlife]
    rfl
  · rw [Session.step, hslot, hlife]
    rfl
  · rw [Session.step, hslot, hlife]
    rfl

theorem Follows.step (follows : session.Follows capacity book) (step : Step) :
    (session.step step).2.Follows capacity (book.note (Run.turn Session.step session step)) := by
  cases step with
  | reserve name => exact follows.step_reserve name
  | scribble name byte => exact follows.step_raw rfl rfl
  | clear name => exact follows.step_raw rfl rfl
  | discardRaw name => exact follows.step_raw rfl rfl
  | forgetRaw name => exact follows.step_raw rfl rfl
  | edit name edits => exact follows.step_draft rfl rfl
  | peek name =>
      refine follows.stay rfl (follows.step_peek name) ?_ ?_ rfl
      · cases book.life name <;> rfl
      · cases book.life name <;> rfl
  | publish name => exact follows.step_draft rfl rfl
  | discard name => exact follows.step_draft rfl rfl
  | drop name => exact follows.step_draft rfl rfl
  | pop => exact follows.step_pop

end Steps

/-! ## Whole runs -/

def raws (session : Session) : Nat :=
  session.slots.countP fun entry => entry.2 matches .raw _

def drafts (session : Session) : Nat :=
  session.slots.countP fun entry => entry.2 matches .draft _

theorem raws_add_drafts (session : Session) :
    session.raws + session.drafts = session.slots.length := by
  obtain ⟨ring, slots⟩ := session
  change slots.countP _ + slots.countP _ = slots.length
  induction slots with
  | nil => rfl
  | cons entry rest ih =>
      obtain ⟨name, slot⟩ := entry
      rw [List.countP_cons, List.countP_cons, List.length_cons]
      cases slot with
      | raw bytes =>
          dsimp only
          simp only [if_true, Bool.false_eq_true, if_false]
          omega
      | draft draft =>
          dsimp only
          simp only [if_true, Bool.false_eq_true, if_false]
          omega

/-- What can be said of a session after some turns on a ring of the given capacity. -/
structure Accounted (capacity : Nat) (turns : List Turn) (session : Session) : Prop where
  distinct : session.Distinct
  shows : ∀ name, (Life.after turns name).Shows (session.slot? name)
  peeked : ∀ name, session.step (.peek name) = (.record (Life.after turns name).record?, session)
  reserved_eq : session.ring.reserved = Event.size *
    (session.raws + session.drafts + session.ring.ready.length + (Book.of turns).forgotten)
  reserved_le : session.ring.reserved ≤ capacity
  granted_iff : ∀ name, (session.step (.reserve name)).1 =
    .reserved (decide (session.ring.reserved + Event.size ≤ capacity))
  refused : ∀ name, (session.step (.reserve name)).1 = .reserved false →
    (session.step (.reserve name)).2 = session
  in_order : (Book.of turns).popped ++ session.ring.ready = (Book.of turns).published
  popped_next : (session.step .pop).1 = .record session.ring.ready.head?
  discarded_eq : session.ring.discarded = (Book.of turns).givenBack
  ended_once : (Book.of turns).granted =
    session.raws + session.drafts + (Book.of turns).endings.length

theorem Follows.accounted {capacity : Nat} {turns : List Turn} {session : Session}
    (follows : session.Follows capacity (Book.of turns)) : Accounted capacity turns session := by
  have hlife : ∀ name, (Book.of turns).life name = Life.after turns name := Book.life_of turns
  have hcapacity := follows.capacity_eq
  constructor
  case distinct => exact follows.distinct
  case shows =>
    intro name
    rw [← hlife]
    exact follows.shows name
  case peeked =>
    intro name
    rw [← hlife]
    exact follows.step_peek name
  case reserved_eq =>
    rw [raws_add_drafts]
    exact follows.reserved_eq
  case reserved_le => exact follows.reserved_le
  case granted_iff =>
    intro name
    by_cases fits : session.ring.reserved + Event.size ≤ session.ring.capacity
    · rw [step_reserve_of_fits fits, ← hcapacity, decide_eq_true fits]
    · rw [step_reserve_of_full fits, ← hcapacity, decide_eq_false fits]
  case refused =>
    intro name refused
    by_cases fits : session.ring.reserved + Event.size ≤ session.ring.capacity
    · rw [step_reserve_of_fits fits] at refused
      cases refused
    · rw [step_reserve_of_full fits]
  case in_order => exact follows.in_order
  case popped_next =>
    cases hready : session.ring.ready with
    | nil => simp only [Session.step, ByteRing.pop?, hready, List.head?_nil]
    | cons record rest => simp only [Session.step, ByteRing.pop?, hready, List.head?_cons]
  case discarded_eq => exact follows.discarded_eq
  case ended_once =>
    rw [raws_add_drafts]
    exact follows.granted_eq

end Session

end BindTrace
