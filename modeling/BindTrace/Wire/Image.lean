import BindTrace.Bytes.LittleEndian
import BindTrace.Wire.Basic

/-!
# Byte images of events

Each part of an event has a byte image of fixed size, its fields one after the other with integers
in little-endian order.  The header takes bytes 0 to 152 of a record, the context 152 to 656, the
working directory 656 to 916 and the executable 916 to 1176.
-/

namespace BindTrace

open Block

namespace Header

abbrev size : Nat := 152

def toBlock (header : Header) : Block size :=
  ofInt32 header.kind ++ ofInt32 header.fd ++ ofInt32 header.addrLength ++ ofInt32 header.result ++
    ofUInt16 header.family ++ ofUInt16 header.port ++ header.v4 ++ header.v6 ++ header.unixPath ++
    ofUInt32 header.pad

def ofBlock (block : Block size) : Header where
  kind := toInt32 (block.slice 0 4)
  fd := toInt32 (block.slice 4 4)
  addrLength := toInt32 (block.slice 8 4)
  result := toInt32 (block.slice 12 4)
  family := toUInt16 (block.slice 16 2)
  port := toUInt16 (block.slice 18 2)
  v4 := block.slice 20 4
  v6 := block.slice 24 16
  unixPath := block.slice 40 108
  pad := toUInt32 (block.slice 148 4)

end Header

namespace Stamp

abbrev size : Nat := 16

def toBlock (stamp : Stamp) : Block size :=
  ofUInt64 stamp.time ++ ofInt32 stamp.syscall ++ ofUInt16 stamp.processor ++ stamp.pad

def ofBlock (block : Block size) : Stamp where
  time := toUInt64 (block.slice 0 8)
  syscall := toInt32 (block.slice 8 4)
  processor := toUInt16 (block.slice 12 2)
  pad := block.slice 14 2

end Stamp

namespace Identity

abbrev size : Nat := 96

def toBlock (identity : Identity) : Block size :=
  ofUInt64 identity.startTime ++ ofUInt32 identity.hostPid ++ ofUInt32 identity.hostTgid ++
    ofUInt32 identity.hostPpid ++ ofUInt32 identity.pid ++ ofUInt32 identity.tgid ++
    ofUInt32 identity.ppid ++ ofUInt32 identity.uid ++ ofUInt32 identity.gid ++
    ofUInt64 identity.cgroupId ++ ofUInt64 identity.mountNsId ++ ofUInt64 identity.pidNsId ++
    ofUInt64 identity.lifetimeId ++ ofUInt64 identity.parentLifetimeId ++ identity.comm

def ofBlock (block : Block size) : Identity where
  startTime := toUInt64 (block.slice 0 8)
  hostPid := toUInt32 (block.slice 8 4)
  hostTgid := toUInt32 (block.slice 12 4)
  hostPpid := toUInt32 (block.slice 16 4)
  pid := toUInt32 (block.slice 20 4)
  tgid := toUInt32 (block.slice 24 4)
  ppid := toUInt32 (block.slice 28 4)
  uid := toUInt32 (block.slice 32 4)
  gid := toUInt32 (block.slice 36 4)
  cgroupId := toUInt64 (block.slice 40 8)
  mountNsId := toUInt64 (block.slice 48 8)
  pidNsId := toUInt64 (block.slice 56 8)
  lifetimeId := toUInt64 (block.slice 64 8)
  parentLifetimeId := toUInt64 (block.slice 72 8)
  comm := block.slice 80 16

end Identity

namespace Node

abbrev size : Nat := 390

def toBlock (node : Node) : Block size :=
  node.sysname ++ node.nodename ++ node.release ++ node.version ++ node.machine ++ node.domainname

def ofBlock (block : Block size) : Node where
  sysname := block.slice 0 65
  nodename := block.slice 65 65
  release := block.slice 130 65
  version := block.slice 195 65
  machine := block.slice 260 65
  domainname := block.slice 325 65

end Node

namespace Context

abbrev size : Nat := 504

def toBlock (context : Context) : Block size :=
  context.stamp.toBlock ++ context.identity.toBlock ++ context.node.toBlock ++ context.pad

def ofBlock (block : Block size) : Context where
  stamp := Stamp.ofBlock (block.slice 0 16)
  identity := Identity.ofBlock (block.slice 16 96)
  node := Node.ofBlock (block.slice 112 390)
  pad := block.slice 502 2

end Context

namespace PathSlot

abbrev size : Nat := 260

def toBlock (slot : PathSlot) : Block size :=
  ofUInt32 slot.length ++ slot.bytes

def ofBlock (block : Block size) : PathSlot where
  length := toUInt32 (block.slice 0 4)
  bytes := block.slice 4 256

end PathSlot

namespace Event

def toBlock (event : Event) : Block size :=
  event.header.toBlock ++ event.context.toBlock ++ event.cwd.toBlock ++ event.exe.toBlock

def ofBlock (block : Block size) : Event where
  header := Header.ofBlock (block.slice 0 152)
  context := Context.ofBlock (block.slice 152 504)
  cwd := PathSlot.ofBlock (block.slice 656 260)
  exe := PathSlot.ofBlock (block.slice 916 260)

/-- Copies bytes over the byte image of a record from an offset. -/
def patch (event : Event) (start : Nat) (bytes : List UInt8) : Event :=
  ofBlock (event.toBlock.write start bytes)

end Event

end BindTrace
