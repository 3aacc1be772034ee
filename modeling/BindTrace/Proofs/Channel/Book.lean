import BindTrace.Channel.Session
import BindTrace.Proofs.Run
import BindTrace.Proofs.Wire.RoundTrip

/-! # The book of a session

A book is kept from the outside, from the steps taken and the answers given. It
follows every name through its life and notes how each slot ended, but it knows
nothing of the room in the ring or of the bytes in a slot.
-/

namespace BindTrace

namespace Session

abbrev Turn := BindTrace.Turn Session Step Answer

def Step.name? : Step → Option String
  | reserve name => some name
  | scribble name _ => some name
  | clear name => some name
  | discardRaw name => some name
  | forgetRaw name => some name
  | edit name _ => some name
  | peek name => some name
  | publish name => some name
  | discard name => some name
  | drop name => some name
  | pop => none

def Turn.granted (turn : Turn) : Bool :=
  turn.answer matches .reserved true

def Turn.popped? (turn : Turn) : Option Event :=
  match turn.step, turn.answer with
  | .pop, .record event => event
  | _, _ => none

theorem Turn.popped?_of_name {turn : Turn} {name : String}
    (hname : turn.step.name? = some name) : Turn.popped? turn = none := by
  unfold popped?
  split
  · next hpop _ =>
      rw [hpop] at hname
      cases hname
  · rfl

inductive Ending where
  | forgotten
  | givenBack
  | published (record : Event)

namespace Ending

def isForgotten : Ending → Bool
  | forgotten => true
  | _ => false

def isGivenBack : Ending → Bool
  | givenBack => true
  | _ => false

def record? : Ending → Option Event
  | published record => some record
  | _ => none

end Ending

inductive Life where
  | closed
  | raw
  | written (edits : List Edit)

namespace Life

/-- The record of zero bytes with some changes applied in order. -/
def record (edits : List Edit) : Event :=
  edits.foldl Edit.apply Event.zero

def record? : Life → Option Event
  | written edits => some (record edits)
  | _ => none

/-- What a name stands for after a turn of its own. -/
def next (life : Life) (turn : Turn) : Life :=
  match turn.step, life with
  | .reserve _, life => if turn.granted then raw else life
  | .clear _, raw => written []
  | .discardRaw _, raw => closed
  | .forgetRaw _, raw => closed
  | .edit _ edits, written earlier => written (earlier ++ edits)
  | .publish _, written _ => closed
  | .discard _, written _ => closed
  | .drop _, written _ => closed
  | _, life => life

/-- How a turn ends the slot that its name stands for. A name that is used again ends it too. -/
def ending? (life : Life) (turn : Turn) : Option Ending :=
  match turn.step, life with
  | .reserve _, raw => if turn.granted then some .forgotten else none
  | .reserve _, written _ => if turn.granted then some .givenBack else none
  | .discardRaw _, raw => some .givenBack
  | .forgetRaw _, raw => some .forgotten
  | .publish _, written edits => some (.published (record edits))
  | .discard _, written _ => some .givenBack
  | .drop _, written _ => some .givenBack
  | _, _ => none

/-- What a name stands for after these turns, of which only its own count. -/
def after (turns : List Turn) (name : String) : Life :=
  (turns.filter fun turn => turn.step.name? == some name).foldl next closed

end Life

structure Book where
  life : String → Life := fun _ => .closed
  granted : Nat := 0
  endings : List Ending := []
  popped : List Event := []

namespace Book

def forgotten (book : Book) : Nat :=
  book.endings.countP Ending.isForgotten

def givenBack (book : Book) : Nat :=
  book.endings.countP Ending.isGivenBack

def published (book : Book) : List Event :=
  book.endings.filterMap Ending.record?

def ending? (book : Book) (turn : Turn) : Option Ending :=
  turn.step.name?.bind fun name => (book.life name).ending? turn

def note (book : Book) (turn : Turn) : Book where
  life name := if turn.step.name? = some name then (book.life name).next turn else book.life name
  granted := book.granted + turn.granted.toNat
  endings := book.endings ++ (book.ending? turn).toList
  popped := book.popped ++ (Turn.popped? turn).toList

def of (turns : List Turn) : Book :=
  turns.foldl note {}

/-- The turns of other names have no part in the life of a name. -/
theorem life_of (turns : List Turn) (name : String) :
    (of turns).life name = Life.after turns name := by
  -- Notes are taken from the first turn on, so the book to begin with must be arbitrary.
  have hfrom : ∀ book : Book, (turns.foldl note book).life name =
      (turns.filter fun turn => turn.step.name? == some name).foldl Life.next (book.life name) := by
    induction turns with
    | nil =>
        intro book
        rfl
    | cons turn turns ih =>
        intro book
        rw [List.foldl_cons, ih, List.filter_cons]
        by_cases own : turn.step.name? = some name
        · have hlife : (book.note turn).life name = (book.life name).next turn := if_pos own
          rw [if_pos (beq_iff_eq.mpr own), List.foldl_cons, hlife]
        · have hlife : (book.note turn).life name = book.life name := if_neg own
          rw [if_neg fun h => own (beq_iff_eq.mp h), hlife]
  exact hfrom {}

/-- A turn that ends nothing and opens nothing need not be noted. -/
theorem note_idle {book : Book} {turn : Turn} {name : String} (hname : turn.step.name? = some name)
    (hnext : (book.life name).next turn = book.life name)
    (hending : (book.life name).ending? turn = none) (hgranted : turn.granted = false) :
    book.note turn = book := by
  have hlife : (book.note turn).life = book.life := by
    funext other
    change (if turn.step.name? = some other then (book.life other).next turn
      else book.life other) = _
    split
    · next own =>
        rw [hname] at own
        cases own
        exact hnext
    · rfl
  have hendings : (book.note turn).endings = book.endings := by
    change book.endings ++ (book.ending? turn).toList = _
    rw [ending?, hname, Option.bind_some, hending, Option.toList_none, List.append_nil]
  have hcount : (book.note turn).granted = book.granted := by
    change book.granted + turn.granted.toNat = _
    rw [hgranted]
    rfl
  have hreleased : (book.note turn).popped = book.popped := by
    change book.popped ++ (Turn.popped? turn).toList = _
    rw [Turn.popped?_of_name hname, Option.toList_none, List.append_nil]
  exact Book.mk.injEq .. ▸ ⟨hlife, hcount, hendings, hreleased⟩

theorem note_pop (book : Book) (session : Session) (event : Option Event) :
    book.note ⟨session, .pop, .record event⟩ =
      { book with popped := book.popped ++ event.toList } := by
  have hendings : (book.note ⟨session, .pop, .record event⟩).endings = book.endings :=
    List.append_nil _
  exact Book.mk.injEq .. ▸ ⟨rfl, rfl, hendings, rfl⟩

end Book

end Session

end BindTrace
