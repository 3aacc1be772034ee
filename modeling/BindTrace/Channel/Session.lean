import BindTrace.Channel.ByteRing
import BindTrace.Wire.PathSlot

/-!
# Sessions with several open slots

Several slots of one ring may be open at once, each under a name of its own.  A slot is raw until it
is cleared into a draft.  A draft ends by being published, or else gives its slot back; a raw slot
can also be given back, and one that is merely forgotten keeps its room in the ring forever.  A name
that is used again lets go of the slot it stood for.
-/

namespace BindTrace

inductive Edit where
  | kind (kind : Kind)
  | fd (fd : Int32)
  | cwd (path : List UInt8)
  | exe (path : List UInt8)
  | time (time : UInt64)
  | patch (start : Nat) (bytes : List UInt8)

namespace Edit

def apply (event : Event) : Edit → Event
  | kind k => event.withKind k
  | fd number => { event with header := { event.header with fd := number } }
  | cwd path => { event with cwd := event.cwd.store path }
  | exe path => { event with exe := event.exe.store path }
  | time reading =>
      { event with
        context := { event.context with stamp := { event.context.stamp with time := reading } } }
  | patch start bytes => event.patch start bytes

end Edit

inductive OpenSlot where
  | raw (bytes : Block Event.size)
  | draft (draft : Draft)

structure Session where
  ring : ByteRing
  slots : List (String × OpenSlot) := []

namespace Session

inductive Step where
  | reserve (name : String)
  | scribble (name : String) (byte : UInt8)
  | clear (name : String)
  | discardRaw (name : String)
  | forgetRaw (name : String)
  | edit (name : String) (edits : List Edit)
  | peek (name : String)
  | publish (name : String)
  | discard (name : String)
  | drop (name : String)
  | pop

inductive Answer where
  | done
  | reserved (success : Bool)
  | record (event : Option Event)

def slot? (session : Session) (name : String) : Option OpenSlot :=
  session.slots.lookup name

def close (session : Session) (name : String) : Session :=
  { session with slots := session.slots.filter fun entry => entry.1 != name }

/-- Keeps a slot under a name, in place of the one that was open there. -/
def keep (session : Session) (name : String) (slot : OpenSlot) : Session :=
  { session with slots := (name, slot) :: (session.close name).slots }

def discardDraft (session : Session) (name : String) : Session :=
  match session.slot? name with
  | some (.draft draft) =>
      { session.close name with ring := session.ring.discard draft.record.toBlock }
  | _ => session

/-- Carries out a step.  A step that needs a slot its name does not have changes nothing. -/
def step (session : Session) : Step → Answer × Session
  | .reserve name =>
      match session.ring.reserve? with
      | some (bytes, ring) =>
          let opened := { session with ring := ring }
          (.reserved true, (opened.discardDraft name).keep name (.raw bytes))
      | none => (.reserved false, session)
  | .scribble name byte =>
      match session.slot? name with
      | some (.raw _) => (.done, session.keep name (.raw (Block.fill Event.size byte)))
      | _ => (.done, session)
  | .clear name =>
      match session.slot? name with
      | some (.raw bytes) => (.done, session.keep name (.draft (Draft.clear bytes)))
      | _ => (.done, session)
  | .discardRaw name =>
      match session.slot? name with
      | some (.raw bytes) => (.done, { session.close name with ring := session.ring.discard bytes })
      | _ => (.done, session)
  | .forgetRaw name =>
      match session.slot? name with
      | some (.raw _) => (.done, session.close name)
      | _ => (.done, session)
  | .edit name edits =>
      match session.slot? name with
      | some (.draft draft) =>
          (.done, session.keep name (.draft { record := edits.foldl Edit.apply draft.record }))
      | _ => (.done, session)
  | .peek name =>
      match session.slot? name with
      | some (.draft draft) => (.record (some draft.record), session)
      | _ => (.record none, session)
  | .publish name =>
      match session.slot? name with
      | some (.draft draft) =>
          (.done, { session.close name with ring := session.ring.publish draft.record })
      | _ => (.done, session)
  | .discard name => (.done, session.discardDraft name)
  | .drop name => (.done, session.discardDraft name)
  | .pop =>
      match session.ring.pop? with
      | some (record, ring) => (.record (some record), { session with ring := ring })
      | none => (.record none, session)

end Session

end BindTrace
