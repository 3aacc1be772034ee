import BindTrace.Bytes.Block

/-!
# Bind events

The record that a probe publishes each time a thread enters or leaves `bind(2)`: a header with the
arguments or the result, the context in which it happened, and two path slots.  All fields have a
fixed size; `BindTrace.Wire.Image` gives their place in the byte image.
-/

namespace BindTrace

inductive Kind where
  | entry
  | exit
deriving DecidableEq, Repr, Inhabited

namespace Kind

def code : Kind → Int32
  | entry => 0
  | exit => 1

def ofCode? (raw : Int32) : Option Kind :=
  if raw = 0 then some entry
  else if raw = 1 then some exit
  else none

@[simp]
theorem ofCode?_code (kind : Kind) : ofCode? kind.code = some kind := by
  cases kind <;> decide

end Kind

abbrev commSize : Nat := 16

abbrev nodeNameSize : Nat := 65

abbrev unixPathSize : Nat := 108

abbrev pathCapacity : Nat := 256

/-- Arguments or result of the call. -/
structure Header where
  kind : Int32
  fd : Int32
  addrLength : Int32
  result : Int32
  family : UInt16
  -- In host order.
  port : UInt16
  v4 : Block 4
  v6 : Block 16
  unixPath : Block unixPathSize
  pad : UInt32
deriving DecidableEq

structure Stamp where
  time : UInt64
  syscall : Int32
  processor : UInt16
  pad : Block 2
deriving DecidableEq

/--
Identity of the calling thread, as the host sees it and as its own pid namespace sees it.  A pid is
a thread, a tgid a process.
-/
structure Identity where
  startTime : UInt64
  hostPid : UInt32
  hostTgid : UInt32
  hostPpid : UInt32
  pid : UInt32
  tgid : UInt32
  ppid : UInt32
  uid : UInt32
  gid : UInt32
  cgroupId : UInt64
  mountNsId : UInt64
  pidNsId : UInt64
  lifetimeId : UInt64
  parentLifetimeId : UInt64
  comm : Block commSize
deriving DecidableEq

/-- Names of the node, as the thread's UTS namespace tells them. -/
structure Node where
  sysname : Block nodeNameSize
  nodename : Block nodeNameSize
  release : Block nodeNameSize
  version : Block nodeNameSize
  machine : Block nodeNameSize
  domainname : Block nodeNameSize
deriving DecidableEq

structure Context where
  stamp : Stamp
  identity : Identity
  node : Node
  pad : Block 2
deriving DecidableEq

/-- A string of at most `pathCapacity` bytes with its length in front. -/
structure PathSlot where
  -- May exceed the capacity in a record that nobody has checked.
  length : UInt32
  bytes : Block pathCapacity
deriving DecidableEq

structure Event where
  header : Header
  context : Context
  cwd : PathSlot
  exe : PathSlot
deriving DecidableEq

namespace Event

abbrev size : Nat := 1176

def kind? (event : Event) : Option Kind :=
  Kind.ofCode? event.header.kind

def withKind (event : Event) (kind : Kind) : Event :=
  { event with header := { event.header with kind := kind.code } }

end Event

end BindTrace
