import BindTrace.Proofs.Wire.Field
import BindTrace.Proofs.Wire.RoundTrip

/-! # The layout of a record

The forty fields of an event, part by part, each with the place of its bytes.
They fill the 1176 bytes of a record without a gap, every byte belongs to one
of them, and the value of a field decides its bytes and no others. As an event
and its image determine each other, setting a field shows in that field alone
when the bytes are read back.
-/

namespace BindTrace

open Block

namespace Header

def fields : List (Field Header) := [
  ⟨.i32, 0, kind, fun header kind => { header with kind }⟩,
  ⟨.i32, 4, fd, fun header fd => { header with fd }⟩,
  ⟨.i32, 8, addrLength, fun header addrLength => { header with addrLength }⟩,
  ⟨.i32, 12, result, fun header result => { header with result }⟩,
  ⟨.u16, 16, family, fun header family => { header with family }⟩,
  ⟨.u16, 18, port, fun header port => { header with port }⟩,
  ⟨.bytes 4, 20, v4, fun header v4 => { header with v4 }⟩,
  ⟨.bytes 16, 24, v6, fun header v6 => { header with v6 }⟩,
  ⟨.bytes unixPathSize, 40, unixPath, fun header unixPath => { header with unixPath }⟩,
  ⟨.u32, 148, pad, fun header pad => { header with pad }⟩]

theorem layout : Layout fields toBlock := by
  refine ⟨?_, by decide⟩
  simp only [fields, List.forall_mem_cons, Field.Sits]
  refine ⟨?_, ?_, ?_, ?_, ?_, ?_, ?_, ?_, ?_, ?_, by simp⟩
  all_goals
    refine ⟨by decide, fun header => ?_, fun header value => ?_⟩
    · simp (disch := decide) only [toBlock, slice_append_self, slice_append_left, slice_all]
    · simp (disch := decide) only [toBlock, write_append_self, write_append_left, write_all]

end Header

namespace Stamp

def fields : List (Field Stamp) := [
  ⟨.u64, 0, time, fun stamp time => { stamp with time }⟩,
  ⟨.i32, 8, syscall, fun stamp syscall => { stamp with syscall }⟩,
  ⟨.u16, 12, processor, fun stamp processor => { stamp with processor }⟩,
  ⟨.bytes 2, 14, pad, fun stamp pad => { stamp with pad }⟩]

theorem layout : Layout fields toBlock := by
  refine ⟨?_, by decide⟩
  simp only [fields, List.forall_mem_cons, Field.Sits]
  refine ⟨?_, ?_, ?_, ?_, by simp⟩
  all_goals
    refine ⟨by decide, fun stamp => ?_, fun stamp value => ?_⟩
    · simp (disch := decide) only [toBlock, slice_append_self, slice_append_left, slice_all]
    · simp (disch := decide) only [toBlock, write_append_self, write_append_left, write_all]

end Stamp

namespace Identity

def fields : List (Field Identity) := [
  ⟨.u64, 0, startTime, fun identity startTime => { identity with startTime }⟩,
  ⟨.u32, 8, hostPid, fun identity hostPid => { identity with hostPid }⟩,
  ⟨.u32, 12, hostTgid, fun identity hostTgid => { identity with hostTgid }⟩,
  ⟨.u32, 16, hostPpid, fun identity hostPpid => { identity with hostPpid }⟩,
  ⟨.u32, 20, pid, fun identity pid => { identity with pid }⟩,
  ⟨.u32, 24, tgid, fun identity tgid => { identity with tgid }⟩,
  ⟨.u32, 28, ppid, fun identity ppid => { identity with ppid }⟩,
  ⟨.u32, 32, uid, fun identity uid => { identity with uid }⟩,
  ⟨.u32, 36, gid, fun identity gid => { identity with gid }⟩,
  ⟨.u64, 40, cgroupId, fun identity cgroupId => { identity with cgroupId }⟩,
  ⟨.u64, 48, mountNsId, fun identity mountNsId => { identity with mountNsId }⟩,
  ⟨.u64, 56, pidNsId, fun identity pidNsId => { identity with pidNsId }⟩,
  ⟨.u64, 64, lifetimeId, fun identity lifetimeId => { identity with lifetimeId }⟩,
  ⟨.u64, 72, parentLifetimeId,
    fun identity parentLifetimeId => { identity with parentLifetimeId }⟩,
  ⟨.bytes commSize, 80, comm, fun identity comm => { identity with comm }⟩]

theorem layout : Layout fields toBlock := by
  refine ⟨?_, by decide⟩
  simp only [fields, List.forall_mem_cons, Field.Sits]
  refine ⟨?_, ?_, ?_, ?_, ?_, ?_, ?_, ?_, ?_, ?_, ?_, ?_, ?_, ?_, ?_, by simp⟩
  all_goals
    refine ⟨by decide, fun identity => ?_, fun identity value => ?_⟩
    · simp (disch := decide) only [toBlock, slice_append_self, slice_append_left, slice_all]
    · simp (disch := decide) only [toBlock, write_append_self, write_append_left, write_all]

end Identity

namespace Node

def fields : List (Field Node) := [
  ⟨.bytes nodeNameSize, 0, sysname, fun node sysname => { node with sysname }⟩,
  ⟨.bytes nodeNameSize, 65, nodename, fun node nodename => { node with nodename }⟩,
  ⟨.bytes nodeNameSize, 130, release, fun node release => { node with release }⟩,
  ⟨.bytes nodeNameSize, 195, version, fun node version => { node with version }⟩,
  ⟨.bytes nodeNameSize, 260, machine, fun node machine => { node with machine }⟩,
  ⟨.bytes nodeNameSize, 325, domainname, fun node domainname => { node with domainname }⟩]

theorem layout : Layout fields toBlock := by
  refine ⟨?_, by decide⟩
  simp only [fields, List.forall_mem_cons, Field.Sits]
  refine ⟨?_, ?_, ?_, ?_, ?_, ?_, by simp⟩
  all_goals
    refine ⟨by decide, fun node => ?_, fun node value => ?_⟩
    · simp (disch := decide) only [toBlock, slice_append_self, slice_append_left, slice_all]
    · simp (disch := decide) only [toBlock, write_append_self, write_append_left, write_all]

end Node

namespace PathSlot

def lengthField : Field PathSlot :=
  ⟨.u32, 0, length, fun slot length => { slot with length }⟩

def fields : List (Field PathSlot) := [
  lengthField,
  ⟨.bytes pathCapacity, 4, bytes, fun slot bytes => { slot with bytes }⟩]

theorem layout : Layout fields toBlock := by
  refine ⟨?_, by decide⟩
  simp only [fields, lengthField, List.forall_mem_cons, Field.Sits]
  refine ⟨?_, ?_, by simp⟩
  all_goals
    refine ⟨by decide, fun slot => ?_, fun slot value => ?_⟩
    · simp (disch := decide) only [toBlock, slice_append_self, slice_append_left, slice_all]
    · simp (disch := decide) only [toBlock, write_append_self, write_append_left, write_all]

end PathSlot

/-! ## Contexts -/

namespace Context

def stampPart : Part Context Stamp where
  start := 0
  get := stamp
  set context stamp := { context with stamp }

def identityPart : Part Context Identity where
  start := 16
  get := identity
  set context identity := { context with identity }

def nodePart : Part Context Node where
  start := 112
  get := node
  set context node := { context with node }

def padField : Field Context :=
  ⟨.bytes 2, 502, pad, fun context pad => { context with pad }⟩

def fields : List (Field Context) :=
  Stamp.fields.map (Field.within stampPart) ++ Identity.fields.map (Field.within identityPart) ++
    Node.fields.map (Field.within nodePart) ++ [padField]

theorem stamp_sits : stampPart.Sits toBlock Stamp.toBlock := by
  refine ⟨by decide, fun context => ?_, fun context value => ?_⟩
  · simp (disch := decide) only [stampPart, toBlock, slice_append_left, slice_all]
  · simp (disch := decide) only [stampPart, toBlock, write_append_left, write_all]

theorem identity_sits : identityPart.Sits toBlock Identity.toBlock := by
  refine ⟨by decide, fun context => ?_, fun context value => ?_⟩
  · simp (disch := decide) only [identityPart, toBlock, slice_append_left, slice_append_self]
  · simp (disch := decide) only [identityPart, toBlock, write_append_left, write_append_self]

theorem node_sits : nodePart.Sits toBlock Node.toBlock := by
  refine ⟨by decide, fun context => ?_, fun context value => ?_⟩
  · simp (disch := decide) only [nodePart, toBlock, slice_append_left, slice_append_self]
  · simp (disch := decide) only [nodePart, toBlock, write_append_left, write_append_self]

theorem pad_sits : padField.Sits toBlock := by
  refine ⟨by decide, fun context => ?_, fun context value => ?_⟩
  · simp (disch := decide) only [padField, toBlock, slice_append_self]
  · simp (disch := decide) only [padField, toBlock, write_append_self]

theorem layout : Layout fields toBlock := by
  refine ⟨fun field hfield => ?_, ?_⟩
  · simp only [fields, List.mem_append, List.mem_singleton] at hfield
    rcases hfield with ((hstamp | hidentity) | hnode) | rfl
    · exact Stamp.layout.sits_within stamp_sits field hstamp
    · exact Identity.layout.sits_within identity_sits field hidentity
    · exact Node.layout.sits_within node_sits field hnode
    · exact pad_sits
  · have hstamp := Stamp.layout.tiled.within stampPart
    have hidentity := Identity.layout.tiled.within identityPart
    have hnode := Node.layout.tiled.within nodePart
    have hpad : Tiled [padField] 502 504 := by decide
    exact ((hstamp.append hidentity).append hnode).append hpad

end Context

/-! ## Events -/

namespace Event

def headerPart : Part Event Header where
  start := 0
  get := header
  set event header := { event with header }

def contextPart : Part Event Context where
  start := 152
  get := context
  set event context := { event with context }

def cwdPart : Part Event PathSlot where
  start := 656
  get := cwd
  set event cwd := { event with cwd }

def exePart : Part Event PathSlot where
  start := 916
  get := exe
  set event exe := { event with exe }

def fields : List (Field Event) :=
  Header.fields.map (Field.within headerPart) ++ Context.fields.map (Field.within contextPart) ++
    PathSlot.fields.map (Field.within cwdPart) ++ PathSlot.fields.map (Field.within exePart)

theorem header_sits : headerPart.Sits toBlock Header.toBlock := by
  refine ⟨by decide, fun event => ?_, fun event value => ?_⟩
  · simp (disch := decide) only [headerPart, toBlock, slice_append_left, slice_all]
  · simp (disch := decide) only [headerPart, toBlock, write_append_left, write_all]

theorem context_sits : contextPart.Sits toBlock Context.toBlock := by
  refine ⟨by decide, fun event => ?_, fun event value => ?_⟩
  · simp (disch := decide) only [contextPart, toBlock, slice_append_left, slice_append_self]
  · simp (disch := decide) only [contextPart, toBlock, write_append_left, write_append_self]

theorem cwd_sits : cwdPart.Sits toBlock PathSlot.toBlock := by
  refine ⟨by decide, fun event => ?_, fun event value => ?_⟩
  · simp (disch := decide) only [cwdPart, toBlock, slice_append_left, slice_append_self]
  · simp (disch := decide) only [cwdPart, toBlock, write_append_left, write_append_self]

theorem exe_sits : exePart.Sits toBlock PathSlot.toBlock := by
  refine ⟨by decide, fun event => ?_, fun event value => ?_⟩
  · simp (disch := decide) only [exePart, toBlock, slice_append_self]
  · simp (disch := decide) only [exePart, toBlock, write_append_self]

theorem layout : Layout fields toBlock := by
  refine ⟨fun field hfield => ?_, ?_⟩
  · simp only [fields, List.mem_append] at hfield
    rcases hfield with ((hheader | hcontext) | hcwd) | hexe
    · exact Header.layout.sits_within header_sits field hheader
    · exact Context.layout.sits_within context_sits field hcontext
    · exact PathSlot.layout.sits_within cwd_sits field hcwd
    · exact PathSlot.layout.sits_within exe_sits field hexe
  · have hheader := Header.layout.tiled.within headerPart
    have hcontext := Context.layout.tiled.within contextPart
    have hcwd := PathSlot.layout.tiled.within cwdPart
    have hexe := PathSlot.layout.tiled.within exePart
    exact ((hheader.append hcontext).append hcwd).append hexe

def ranges : List (Nat × Nat) := [
  -- the header
  (0, 4), (4, 4), (8, 4), (12, 4), (16, 2), (18, 2), (20, 4), (24, 16), (40, 108), (148, 4),
  -- the stamp, the identity, the node names and the padding of the context
  (152, 8), (160, 4), (164, 2), (166, 2),
  (168, 8), (176, 4), (180, 4), (184, 4), (188, 4), (192, 4), (196, 4), (200, 4), (204, 4),
  (208, 8), (216, 8), (224, 8), (232, 8), (240, 8), (248, 16),
  (264, 65), (329, 65), (394, 65), (459, 65), (524, 65), (589, 65),
  (654, 2),
  -- the working directory and the executable
  (656, 4), (660, 256), (916, 4), (920, 256)]

structure PartsInPlace (event : Event) : Prop where
  header_eq : event.toBlock.slice 0 152 = event.header.toBlock
  context_eq : event.toBlock.slice 152 504 = event.context.toBlock
  stamp_eq : event.toBlock.slice 152 16 = event.context.stamp.toBlock
  identity_eq : event.toBlock.slice 168 96 = event.context.identity.toBlock
  node_eq : event.toBlock.slice 264 390 = event.context.node.toBlock
  pad_eq : event.toBlock.slice 654 2 = event.context.pad
  cwd_eq : event.toBlock.slice 656 260 = event.cwd.toBlock
  exe_eq : event.toBlock.slice 916 260 = event.exe.toBlock

theorem partsInPlace (event : Event) : event.PartsInPlace where
  header_eq := header_sits.read event
  context_eq := context_sits.read event
  stamp_eq := (context_sits.within Context.stamp_sits).read event
  identity_eq := (context_sits.within Context.identity_sits).read event
  node_eq := (context_sits.within Context.node_sits).read event
  pad_eq := (context_sits.within Context.pad_sits).read event
  cwd_eq := cwd_sits.read event
  exe_eq := exe_sits.read event

/-- Setting the field to the value shows in its own bytes and in no other field read from them. -/
structure SetsAlone (event : Event) (field : Field Event) (value : field.scalar.Value) :
    Prop where
  read_eq : field.get (ofBlock (field.set event value).toBlock) = value
  outside_eq : ∀ position, ¬ field.Covers position →
    (field.set event value).toBlock[position]? = event.toBlock[position]?
  others_eq : ∀ other ∈ fields, other ≠ field →
    other.get (ofBlock (field.set event value).toBlock) = other.get (ofBlock event.toBlock)

theorem setsAlone (event : Event) {field : Field Event} (hfield : field ∈ fields)
    (value : field.scalar.Value) : event.SetsAlone field value := by
  have hsits := layout.sits field hfield
  refine ⟨?_, hsits.getElem_set event value, fun other hother hne => ?_⟩
  · rw [ofBlock_toBlock, hsits.get_set]
  · have hapart := layout.tiled.apart hfield hother hne
    rw [ofBlock_toBlock, ofBlock_toBlock]
    exact hsits.get_set_apart (layout.sits other hother) hapart event value

/--
Events and blocks of the size of a record determine each other.  Parts and fields stand at their
places, words in little-endian order, every byte belongs to one field, and setting a field to any
value changes its own bytes and nothing else that is read back.
-/
theorem wire_layout :
    (∀ event : Event, ofBlock event.toBlock = event) ∧
    (∀ block : Block size, (ofBlock block).toBlock = block) ∧
    (∀ event : Event, event.PartsInPlace) ∧
    fields.map Field.range = ranges ∧
    (∀ field ∈ fields, ∀ (event : Event) (place : Nat), place < field.width →
      event.toBlock[field.start + place]? = some (field.scalar.byte (field.get event) place)) ∧
    (∀ field ∈ fields, ∀ other ∈ fields, other ≠ field → field.Apart other) ∧
    (∀ position < size, ∃ field ∈ fields, field.Covers position ∧
      ∀ other ∈ fields, other.Covers position → other = field) ∧
    ∀ field ∈ fields, ∀ (event : Event) (value : field.scalar.Value),
      event.SetsAlone field value := by
  refine ⟨ofBlock_toBlock, toBlock_ofBlock, partsInPlace, rfl, ?_, ?_, ?_, ?_⟩
  · intro field hfield event place hplace
    exact (layout.sits field hfield).getElem_byte event place hplace
  · intro field hfield other hother hne
    exact layout.tiled.apart hfield hother hne
  · intro position hposition
    obtain ⟨field, hfield, hcovers⟩ :=
      layout.tiled.exists_covers (Nat.zero_le position) hposition
    exact ⟨field, hfield, hcovers, fun other hother hcovered =>
      layout.tiled.eq_of_covers hfield hother hcovers hcovered⟩
  · intro field hfield event value
    exact event.setsAlone hfield value

/-- A stored length of three is the bytes 3, 0, 0, 0 at offset 656, and the byte behind stays. -/
theorem cwd_length_in_place :
    let event := { zero with cwd := { PathSlot.zero with length := 3 } }
    event.toBlock[656]? = some 3 ∧ event.toBlock[657]? = some 0 ∧
      event.toBlock[660]? = zero.toBlock[660]? := by
  intro event
  let cwdLength := Field.within cwdPart PathSlot.lengthField
  have hfield : cwdLength ∈ fields := by simp [fields, PathSlot.fields, cwdLength]
  obtain ⟨-, -, -, -, hbyte, -, -, halone⟩ := wire_layout
  have hthree : Scalar.byte .u32 3 0 = 3 ∧ Scalar.byte .u32 3 1 = 0 := by decide
  have hlow := hbyte cwdLength hfield event 0 (by decide)
  have hnext := hbyte cwdLength hfield event 1 (by decide)
  have hbehind := (halone cwdLength hfield zero (3 : UInt32)).outside_eq 660 (by decide)
  exact ⟨hlow.trans (congrArg some hthree.1), hnext.trans (congrArg some hthree.2), hbehind⟩

end Event

end BindTrace
