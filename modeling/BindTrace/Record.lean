import BindTrace.Address.Text
import BindTrace.Wire.PathSlot
import BindTrace.Wire.Image

/-!
# Records

What the agent makes of the bytes it takes from the ring: numbers as they are, names and paths as
text, and the address as it is shown.  Bytes are not trusted: a record is refused if it does not
start at a word boundary, is too short or names no kind, in this order, and no length inside it is
believed beyond the capacity of its slot.
-/

namespace BindTrace

structure NodeNames where
  sysname : String
  nodename : String
  release : String
  version : String
  machine : String
  domainname : String
deriving DecidableEq

structure Record where
  kind : Kind
  time : UInt64
  syscall : Int32
  processor : UInt16
  hostPid : UInt32
  hostTgid : UInt32
  hostPpid : UInt32
  pid : UInt32
  tgid : UInt32
  ppid : UInt32
  uid : UInt32
  gid : UInt32
  cgroupId : UInt64
  mountNsId : UInt64
  pidNsId : UInt64
  startTime : UInt64
  lifetimeId : UInt64
  parentLifetimeId : UInt64
  comm : String
  node : NodeNames
  cwd : String
  exe : String
  fd : Int32
  addrLength : Int32
  result : Int32
  address : ShownAddress
deriving DecidableEq

inductive DecodeError where
  | misaligned
  | tooShort
  | unknownKind (raw : Int32)
deriving DecidableEq, Repr

def nameText {n : Nat} (name : Block n) : String :=
  Utf8.text (Text.untilNul name.toList)

namespace Node

def names (node : Node) : NodeNames where
  sysname := nameText node.sysname
  nodename := nameText node.nodename
  release := nameText node.release
  version := nameText node.version
  machine := nameText node.machine
  domainname := nameText node.domainname

end Node

namespace Record

def ofEvent (event : Event) : Except DecodeError Record :=
  match event.kind? with
  | none => .error (.unknownKind event.header.kind)
  | some kind =>
      .ok {
        kind := kind
        time := event.context.stamp.time
        syscall := event.context.stamp.syscall
        processor := event.context.stamp.processor
        hostPid := event.context.identity.hostPid
        hostTgid := event.context.identity.hostTgid
        hostPpid := event.context.identity.hostPpid
        pid := event.context.identity.pid
        tgid := event.context.identity.tgid
        ppid := event.context.identity.ppid
        uid := event.context.identity.uid
        gid := event.context.identity.gid
        cgroupId := event.context.identity.cgroupId
        mountNsId := event.context.identity.mountNsId
        pidNsId := event.context.identity.pidNsId
        startTime := event.context.identity.startTime
        lifetimeId := event.context.identity.lifetimeId
        parentLifetimeId := event.context.identity.parentLifetimeId
        comm := nameText event.context.identity.comm
        node := event.context.node.names
        cwd := Utf8.text event.cwd.contents
        exe := Utf8.text event.exe.contents
        fd := event.header.fd
        addrLength := event.header.addrLength
        result := event.header.result
        address := event.header.address.shown }

/--
The record at the front of a byte string that starts `skew` bytes after an 8-byte boundary.  Bytes
behind the record are ignored.
-/
def ofBytes (skew : Nat) (bytes : List UInt8) : Except DecodeError Record :=
  if skew % 8 = 0 then
    match Block.ofPrefix? Event.size bytes with
    | none => .error .tooShort
    | some block => ofEvent (Event.ofBlock block)
  else
    .error .misaligned

def argumentsText (record : Record) : String :=
  " fd=" ++ toString record.fd.toInt ++ " addr=" ++ record.address.text ++ " cwd=" ++ record.cwd ++
    " exe=" ++ record.exe

def resultText (record : Record) : String :=
  " ret=" ++ toString record.result.toInt

def callerText (record : Record) : String :=
  "host=" ++ record.node.nodename ++ " tgid=" ++ toString record.hostTgid.toNat ++
    " pid=" ++ toString record.hostPid.toNat ++ " ppid=" ++ toString record.hostPpid.toNat ++
    " uid=" ++ toString record.uid.toNat ++ " comm=" ++ record.comm

def text (record : Record) : String :=
  match record.kind with
  | .entry => "[enter] " ++ record.callerText ++ record.argumentsText
  | .exit => "[exit] " ++ record.callerText ++ record.resultText

end Record

end BindTrace
