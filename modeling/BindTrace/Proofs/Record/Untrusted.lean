import BindTrace.Proofs.Record.Meaning
import BindTrace.Proofs.Wire.RoundTrip

/-! # Records from untrusted bytes

A buffer is refused for its alignment, its length or its kind, in this order,
and read otherwise, whatever it holds. The positions that reading depends on
follow from what the buffer itself claims: numbers always, a name up to its
first NUL, a path up to its claimed length, an address as its family selects.
Buffers that agree there are read alike.
-/

namespace BindTrace

open Block

/-! ## Refused or read -/

def Event.inFront? (bytes : List UInt8) : Option Event :=
  (Block.ofPrefix? size bytes).map ofBlock

/-- The first four bytes as a signed little-endian word. -/
def firstWord (bytes : List UInt8) : Int32 :=
  Int32.ofNat (LittleEndian.toNat (bytes.take 4))

/-- A buffer that is long enough begins with a block. -/
theorem Event.inFront?_of_length {bytes : List UInt8} (h : size ≤ bytes.length) :
    ∃ block : Block size, inFront? bytes = some (ofBlock block) ∧
      block.toList = bytes.take size := by
  refine ⟨⟨(bytes.take size).toArray, by simp [h]⟩, ?_, rfl⟩
  rw [inFront?, ofPrefix?, dif_pos h, Option.map_some]

theorem Event.block_of_inFront {bytes : List UInt8} {event : Event}
    (h : inFront? bytes = some event) :
    ∃ block : Block size, ofBlock block = event ∧ block.toList = bytes.take size := by
  by_cases hlength : size ≤ bytes.length
  · obtain ⟨block, hfront, hblock⟩ := inFront?_of_length hlength
    exact ⟨block, Option.some.inj (hfront.symm.trans h), hblock⟩
  · rw [inFront?, ofPrefix?, dif_neg hlength] at h
    cases h

theorem Event.kind_inFront {bytes : List UInt8} {block : Block size}
    (h : block.toList = bytes.take size) : (ofBlock block).header.kind = firstWord bytes := by
  have hword : ((block.slice 0 152).slice 0 4).toList = bytes.take 4 := by
    rw [slice_slice, toList_slice, h, List.drop_zero, List.take_take]
    rfl
  simp only [ofBlock, Header.ofBlock, toInt32, toUInt32, Block.toNat, hword]
  rfl

namespace Record

theorem ofBytes_inFront {skew : Nat} {bytes : List UInt8} {event : Event}
    (aligned : skew % 8 = 0) (h : Event.inFront? bytes = some event) :
    ofBytes skew bytes = ofEvent event := by
  obtain ⟨block, hblock, rfl⟩ := Option.map_eq_some_iff.mp h
  rw [ofBytes, if_pos aligned, hblock]

theorem ofBytes_of_misaligned {skew : Nat} {bytes : List UInt8} (hskew : skew % 8 ≠ 0) :
    ofBytes skew bytes = .error .misaligned :=
  if_neg hskew

theorem ofBytes_of_short {skew : Nat} {bytes : List UInt8} (hskew : skew % 8 = 0)
    (hlength : bytes.length < Event.size) : ofBytes skew bytes = .error .tooShort := by
  have hshort : ofPrefix? Event.size bytes = none := dif_neg (by omega)
  rw [ofBytes, if_pos hskew, hshort]

theorem ofBytes_of_known {skew : Nat} {bytes : List UInt8} (hskew : skew % 8 = 0)
    (hlength : Event.size ≤ bytes.length) (hknown : firstWord bytes = 0 ∨ firstWord bytes = 1) :
    ∃ record, ofBytes skew bytes = .ok record := by
  obtain ⟨block, hfront, hblock⟩ := Event.inFront?_of_length hlength
  rw [ofBytes_inFront hskew hfront, ofEvent, Event.kind?, Event.kind_inFront hblock, Kind.ofCode?]
  rcases hknown with hentry | hexit
  · rw [if_pos hentry]
    exact ⟨_, rfl⟩
  · rw [if_neg (by simp [hexit]), if_pos hexit]
    exact ⟨_, rfl⟩

theorem ofBytes_of_unknown {skew : Nat} {bytes : List UInt8} (hskew : skew % 8 = 0)
    (hlength : Event.size ≤ bytes.length) (hentry : firstWord bytes ≠ 0)
    (hexit : firstWord bytes ≠ 1) :
    ofBytes skew bytes = .error (.unknownKind (firstWord bytes)) := by
  obtain ⟨block, hfront, hblock⟩ := Event.inFront?_of_length hlength
  rw [ofBytes_inFront hskew hfront, ofEvent, Event.kind?, Event.kind_inFront hblock, Kind.ofCode?,
    if_neg hentry, if_neg hexit]

/-- Each way for reading a buffer to end has its own condition. -/
structure Decided (skew : Nat) (bytes : List UInt8) (result : Except DecodeError Record) :
    Prop where
  misaligned_iff : result = .error .misaligned ↔ skew % 8 ≠ 0
  tooShort_iff : result = .error .tooShort ↔ skew % 8 = 0 ∧ bytes.length < Event.size
  unknownKind_iff : ∀ raw, result = .error (.unknownKind raw) ↔
    skew % 8 = 0 ∧ Event.size ≤ bytes.length ∧ raw = firstWord bytes ∧ raw ≠ 0 ∧ raw ≠ 1
  read_iff : (∃ record, result = .ok record) ↔
    skew % 8 = 0 ∧ Event.size ≤ bytes.length ∧ (firstWord bytes = 0 ∨ firstWord bytes = 1)

theorem decided_ofBytes (skew : Nat) (bytes : List UInt8) :
    Decided skew bytes (ofBytes skew bytes) := by
  by_cases hskew : skew % 8 = 0
  · by_cases hlength : Event.size ≤ bytes.length
    · by_cases hknown : firstWord bytes = 0 ∨ firstWord bytes = 1
      · obtain ⟨record, hrecord⟩ := ofBytes_of_known hskew hlength hknown
        rw [hrecord]
        constructor <;> simp [hskew, hlength, hknown]
        exact hknown.resolve_left
      · obtain ⟨hentry, hexit⟩ := not_or.mp hknown
        rw [ofBytes_of_unknown hskew hlength hentry hexit]
        constructor <;> simp [hskew, hlength, hentry, hexit]
        intro raw
        constructor
        · rintro rfl
          exact ⟨rfl, hentry, hexit⟩
        · rintro ⟨rfl, -⟩
          rfl
    · rw [ofBytes_of_short hskew (by omega)]
      constructor <;> simp [hskew, hlength]
      omega
  · rw [ofBytes_of_misaligned hskew]
    constructor <;> simp [hskew]

end Record

/-! ## Positions that are read -/

def NoNulBefore (name : List UInt8) (place : Nat) : Prop :=
  ∀ earlier < place, name[earlier]? ≠ some 0

namespace Event

/-- The names in an event that end at their first NUL, with the offsets at which they stand. -/
def names (event : Event) : List (Nat × List UInt8) := [
  (248, event.context.identity.comm.toList),
  (264, event.context.node.sysname.toList),
  (329, event.context.node.nodename.toList),
  (394, event.context.node.release.toList),
  (459, event.context.node.version.toList),
  (524, event.context.node.machine.toList),
  (589, event.context.node.domainname.toList)]

def paths (event : Event) : List (Nat × PathSlot) :=
  [(656, event.cwd), (916, event.exe)]

/-- The positions of a record that its reading depends on. -/
inductive Reads (event : Event) : Nat → Prop
  | arguments {position : Nat} (hstop : position < 18) : Reads event position
  | port {position : Nat}
      (hfamily : event.header.family = familyIpv4 ∨ event.header.family = familyIpv6)
      (hstart : 18 ≤ position) (hstop : position < 20) : Reads event position
  | ipv4 {position : Nat} (hfamily : event.header.family = familyIpv4)
      (hstart : 20 ≤ position) (hstop : position < 24) : Reads event position
  | ipv6 {position : Nat} (hfamily : event.header.family = familyIpv6)
      (hstart : 24 ≤ position) (hstop : position < 40) : Reads event position
  | abstractName {place : Nat} (hfamily : event.header.family = familyUnix)
      (habstract : event.header.unixPath[0] = 0) (hplace : place < unixPathSize) :
      Reads event (40 + place)
  | socketPath {place : Nat} (hfamily : event.header.family = familyUnix)
      (hbefore : NoNulBefore event.header.unixPath.toList place) (hplace : place < unixPathSize) :
      Reads event (40 + place)
  | stamp {position : Nat} (hstart : 152 ≤ position) (hstop : position < 166) :
      Reads event position
  | identity {position : Nat} (hstart : 168 ≤ position) (hstop : position < 248) :
      Reads event position
  | name {start place : Nat} {name : List UInt8} (hname : (start, name) ∈ event.names)
      (hbefore : NoNulBefore name place) (hplace : place < name.length) :
      Reads event (start + place)
  | pathLength {start place : Nat} {slot : PathSlot} (hslot : (start, slot) ∈ event.paths)
      (hplace : place < 4) : Reads event (start + place)
  | path {start place : Nat} {slot : PathSlot} (hslot : (start, slot) ∈ event.paths)
      (hplace : place < min slot.length.toNat pathCapacity) : Reads event (start + (4 + place))

/-- Neither paddings nor bytes behind the record are read. -/
theorem Reads.within {event : Event} {position : Nat} (h : event.Reads position) :
    position < size ∧ ¬ (148 ≤ position ∧ position < 152) ∧
      ¬ (166 ≤ position ∧ position < 168) ∧ ¬ (654 ≤ position ∧ position < 656) := by
  have hsizes : size = 1176 ∧ unixPathSize = 108 ∧ commSize = 16 ∧ nodeNameSize = 65 ∧
      pathCapacity = 256 := ⟨rfl, rfl, rfl, rfl, rfl⟩
  cases h with
  | name hname hbefore hplace =>
      simp only [names, List.mem_cons, Prod.mk.injEq, List.not_mem_nil, or_false] at hname
      rcases hname with ⟨rfl, rfl⟩ | ⟨rfl, rfl⟩ | ⟨rfl, rfl⟩ | ⟨rfl, rfl⟩ | ⟨rfl, rfl⟩ |
        ⟨rfl, rfl⟩ | ⟨rfl, rfl⟩ <;> (rw [Vector.length_toList] at hplace; omega)
  | pathLength hslot hplace =>
      simp only [paths, List.mem_cons, Prod.mk.injEq, List.not_mem_nil, or_false] at hslot
      rcases hslot with ⟨rfl, -⟩ | ⟨rfl, -⟩ <;> omega
  | path hslot hplace =>
      have hcapacity := Nat.lt_of_lt_of_le hplace (Nat.min_le_right _ _)
      simp only [paths, List.mem_cons, Prod.mk.injEq, List.not_mem_nil, or_false] at hslot
      rcases hslot with ⟨rfl, -⟩ | ⟨rfl, -⟩ <;> omega
  | _ => omega

end Event

/-! ## Agreement on what is read -/

theorem Stamp.sameNumbers_ofBlock {left right : Block Stamp.size} (h : left.AgreeOn right 0 14) :
    (ofBlock left).SameNumbers (ofBlock right) where
  time_eq := congrArg toUInt64 (h.slice_eq 0 8)
  syscall_eq := congrArg toInt32 (h.slice_eq 8 4)
  processor_eq := congrArg toUInt16 (h.slice_eq 12 2)

theorem Identity.sameNumbers_ofBlock {left right : Block Identity.size}
    (h : left.AgreeOn right 0 80) : (ofBlock left).SameNumbers (ofBlock right) where
  startTime_eq := congrArg toUInt64 (h.slice_eq 0 8)
  hostPid_eq := congrArg toUInt32 (h.slice_eq 8 4)
  hostTgid_eq := congrArg toUInt32 (h.slice_eq 12 4)
  hostPpid_eq := congrArg toUInt32 (h.slice_eq 16 4)
  pid_eq := congrArg toUInt32 (h.slice_eq 20 4)
  tgid_eq := congrArg toUInt32 (h.slice_eq 24 4)
  ppid_eq := congrArg toUInt32 (h.slice_eq 28 4)
  uid_eq := congrArg toUInt32 (h.slice_eq 32 4)
  gid_eq := congrArg toUInt32 (h.slice_eq 36 4)
  cgroupId_eq := congrArg toUInt64 (h.slice_eq 40 8)
  mountNsId_eq := congrArg toUInt64 (h.slice_eq 48 8)
  pidNsId_eq := congrArg toUInt64 (h.slice_eq 56 8)
  lifetimeId_eq := congrArg toUInt64 (h.slice_eq 64 8)
  parentLifetimeId_eq := congrArg toUInt64 (h.slice_eq 72 8)

theorem Event.names_ofBlock (block : Block size) : (ofBlock block).names = [
    (248, (block.slice 248 16).toList), (264, (block.slice 264 65).toList),
    (329, (block.slice 329 65).toList), (394, (block.slice 394 65).toList),
    (459, (block.slice 459 65).toList), (524, (block.slice 524 65).toList),
    (589, (block.slice 589 65).toList)] := by
  simp only [names, ofBlock, Context.ofBlock, Identity.ofBlock, Node.ofBlock, slice_slice,
    Nat.reduceAdd]

theorem Event.getElem?_unixPath (block : Block size) {place : Nat} (hplace : place < unixPathSize) :
    (ofBlock block).header.unixPath[place]? = block[40 + place]? := by
  simp only [ofBlock, Header.ofBlock, slice_slice]
  exact getElem?_slice block 40 108 (by decide) hplace

theorem SameName.of_agree {n : Nat} {left right : Block n}
    (h : ∀ place < n, NoNulBefore left.toList place → left[place]? = right[place]?) :
    SameName left right := by
  apply Text.untilNul_congr
  · simp
  · intro place hplace hbefore
    rw [Vector.getElem?_toList, Vector.getElem?_toList]
    exact h place (by simpa using hplace) hbefore

/-- The blocks agree at every position that reading the event in the first one depends on. -/
def AgreeOnReads (left right : Block Event.size) : Prop :=
  ∀ position, (Event.ofBlock left).Reads position → left[position]? = right[position]?

namespace AgreeOnReads

variable {left right : Block Event.size}

theorem sameName (h : AgreeOnReads left right) {n : Nat} (start : Nat)
    (hfits : start + n ≤ Event.size)
    (hname : (start, (left.slice start n hfits).toList) ∈ (Event.ofBlock left).names) :
    SameName (left.slice start n hfits) (right.slice start n hfits) := by
  apply SameName.of_agree
  intro place hplace hbefore
  have hread := h (start + place) (.name hname hbefore (by simpa using hplace))
  rw [getElem?_slice _ _ _ _ hplace, getElem?_slice _ _ _ _ hplace, hread]

theorem sameString (h : AgreeOnReads left right) (start : Nat)
    (hfits : start + PathSlot.size ≤ Event.size)
    (hslot : (start, PathSlot.ofBlock (left.slice start PathSlot.size hfits)) ∈
      (Event.ofBlock left).paths) :
    (PathSlot.ofBlock (left.slice start PathSlot.size hfits)).SameString
      (PathSlot.ofBlock (right.slice start PathSlot.size hfits)) := by
  have hlength : left.AgreeOn right (start + 0) (start + 4) := fun position hstart hstop => by
    have hread := h (start + (position - start)) (.pathLength hslot (by omega))
    rwa [Nat.add_sub_cancel' (by omega)] at hread
  have hslots := hlength.slice start PathSlot.size hfits
  have hwords := congrArg toUInt32 (hslots.slice_eq 0 4)
  refine ⟨congrArg (fun word : UInt32 => min word.toNat pathCapacity) hwords,
    fun place hplace => ?_⟩
  have hread := h (start + (4 + place)) (.path hslot hplace)
  have hwithin : place < 256 := Nat.lt_of_lt_of_le hplace (Nat.min_le_right _ _)
  have hinner : 4 + place < PathSlot.size := Nat.add_lt_add_left hwithin 4
  simp only [PathSlot.ofBlock, getElem?_slice _ _ _ _ hwithin, getElem?_slice _ _ _ _ hinner, hread]

theorem arguments (h : AgreeOnReads left right) : left.AgreeOn right (0 + 0) (0 + 18) :=
  fun position _ hstop => h position (.arguments hstop)

theorem sameSocketName (h : AgreeOnReads left right)
    (hfamily : (Event.ofBlock left).header.family = familyUnix) :
    SameSocketName (Event.ofBlock left).header.unixPath
      (Event.ofBlock right).header.unixPath := by
  have hsame : ∀ place < unixPathSize,
      NoNulBefore (Event.ofBlock left).header.unixPath.toList place →
      (Event.ofBlock left).header.unixPath[place]? =
        (Event.ofBlock right).header.unixPath[place]? := by
    intro place hplace hbefore
    rw [Event.getElem?_unixPath _ hplace, Event.getElem?_unixPath _ hplace]
    exact h (40 + place) (.socketPath hfamily hbefore hplace)
  -- The first byte is always read, so both names are abstract or neither is.
  have hhead : (Event.ofBlock left).header.unixPath[0] =
      (Event.ofBlock right).header.unixPath[0] := by
    have hread := hsame 0 (by decide) fun earlier hearlier => by omega
    rw [Vector.getElem?_eq_getElem (by decide), Vector.getElem?_eq_getElem (by decide)] at hread
    exact Option.some.inj hread
  refine ⟨by rw [hhead], fun habstract => ?_, fun _ => SameName.of_agree hsame⟩
  have hpath : (Event.ofBlock left).header.unixPath = (Event.ofBlock right).header.unixPath := by
    apply Vector.ext
    intro place hplace
    have hread := h (40 + place) (.abstractName hfamily habstract hplace)
    rw [← Event.getElem?_unixPath _ hplace, ← Event.getElem?_unixPath _ hplace,
      Vector.getElem?_eq_getElem hplace, Vector.getElem?_eq_getElem hplace] at hread
    exact Option.some.inj hread
  rw [hpath]

theorem sameArm (h : AgreeOnReads left right) :
    (Event.ofBlock left).header.SameArm (Event.ofBlock right).header := by
  have harguments := h.arguments.slice 0 Header.size
  have hport : (Event.ofBlock left).header.family = familyIpv4 ∨
      (Event.ofBlock left).header.family = familyIpv6 →
      (Event.ofBlock left).header.port = (Event.ofBlock right).header.port := fun hfamily => by
    have hagree : left.AgreeOn right (0 + 18) (0 + 20) := fun position hstart hstop =>
      h position (.port hfamily hstart hstop)
    exact congrArg toUInt16 ((hagree.slice 0 Header.size).slice_eq 18 2)
  refine ⟨congrArg toUInt16 (harguments.slice_eq 16 2), fun hipv4 => ⟨hport (.inl hipv4), ?_⟩,
    fun hipv6 => ⟨hport (.inr hipv6), ?_⟩, h.sameSocketName⟩
  · have hagree : left.AgreeOn right (0 + 20) (0 + 24) := fun position hstart hstop =>
      h position (.ipv4 hipv4 hstart hstop)
    exact (hagree.slice 0 Header.size).slice_eq 20 4
  · have hagree : left.AgreeOn right (0 + 24) (0 + 40) := fun position hstart hstop =>
      h position (.ipv6 hipv6 hstart hstop)
    exact (hagree.slice 0 Header.size).slice_eq 24 16

theorem sameNames (h : AgreeOnReads left right) :
    (Event.ofBlock left).context.node.SameNames (Event.ofBlock right).context.node := by
  simp only [Event.ofBlock, Context.ofBlock, Node.ofBlock, slice_slice]
  constructor
  · exact h.sameName 264 (by decide) (by simp [Event.names_ofBlock])
  · exact h.sameName 329 (by decide) (by simp [Event.names_ofBlock])
  · exact h.sameName 394 (by decide) (by simp [Event.names_ofBlock])
  · exact h.sameName 459 (by decide) (by simp [Event.names_ofBlock])
  · exact h.sameName 524 (by decide) (by simp [Event.names_ofBlock])
  · exact h.sameName 589 (by decide) (by simp [Event.names_ofBlock])

theorem sameComm (h : AgreeOnReads left right) :
    SameName (Event.ofBlock left).context.identity.comm
      (Event.ofBlock right).context.identity.comm := by
  simp only [Event.ofBlock, Context.ofBlock, Identity.ofBlock, slice_slice]
  exact h.sameName 248 (by decide) (by simp [Event.names_ofBlock])

theorem sameMeaning (h : AgreeOnReads left right) :
    (Event.ofBlock left).SameMeaning (Event.ofBlock right) := by
  have harguments := h.arguments.slice 0 Header.size
  have hstamp : left.AgreeOn right (152 + (0 + 0)) (152 + (0 + 14)) := fun position hstart hstop =>
    h position (.stamp hstart hstop)
  have hidentity : left.AgreeOn right (152 + (16 + 0)) (152 + (16 + 80)) :=
    fun position hstart hstop => h position (.identity hstart hstop)
  exact {
    kind_eq := congrArg toInt32 (harguments.slice_eq 0 4)
    fd_eq := congrArg toInt32 (harguments.slice_eq 4 4)
    addrLength_eq := congrArg toInt32 (harguments.slice_eq 8 4)
    result_eq := congrArg toInt32 (harguments.slice_eq 12 4)
    arm := h.sameArm
    stamp := Stamp.sameNumbers_ofBlock ((hstamp.slice 152 504).slice 0 16)
    numbers := Identity.sameNumbers_ofBlock ((hidentity.slice 152 504).slice 16 96)
    comm_same := h.sameComm
    node := h.sameNames
    cwd := h.sameString 656 (by decide) (by simp [Event.paths, Event.ofBlock])
    exe := h.sameString 916 (by decide) (by simp [Event.paths, Event.ofBlock]) }

end AgreeOnReads

/-! ## Buffers -/

theorem Event.getElem?_inFront {bytes : List UInt8} {block : Block size}
    (h : block.toList = bytes.take size) {position : Nat} (hposition : position < size) :
    block[position]? = bytes[position]? := by
  rw [← Vector.getElem?_toList, h, List.getElem?_take, if_pos hposition]

namespace Record

/-- Buffers that agree on what reading the first one depends on are read alike. -/
theorem ofBytes_congr {skew otherSkew : Nat} {bytes others : List UInt8} {event : Event}
    (aligned : skew % 8 = 0) (otherAligned : otherSkew % 8 = 0)
    (hevent : Event.inFront? bytes = some event) (hothers : Event.size ≤ others.length)
    (hagree : ∀ position, event.Reads position → bytes[position]? = others[position]?) :
    ofBytes skew bytes = ofBytes otherSkew others := by
  obtain ⟨left, rfl, hleft⟩ := Event.block_of_inFront hevent
  obtain ⟨right, hfront, hright⟩ := Event.inFront?_of_length hothers
  have hblocks : AgreeOnReads left right := fun position hread => by
    have hposition := hread.within.1
    rw [Event.getElem?_inFront hleft hposition, Event.getElem?_inFront hright hposition]
    exact hagree position hread
  rw [ofBytes_inFront aligned hevent, ofBytes_inFront otherAligned hfront,
    hblocks.sameMeaning.ofEvent_eq]

/--
Reading a buffer ends in one of four ways, each under its own condition and in this order, whatever
the buffer holds, and no index at which a name or a path is cut is out of range.  What is read
depends on the meaning of the event at the front alone: neither on where the buffer starts nor on
bytes at positions that the event does not have read.
-/
theorem untrusted_bytes_read :
    (∀ (skew : Nat) (bytes : List UInt8), Decided skew bytes (ofBytes skew bytes)) ∧
    (∀ (skew : Nat) (bytes : List UInt8) (event : Event) (record : Record),
      Event.inFront? bytes = some event → ofBytes skew bytes = .ok record →
      CutsInRange event record) ∧
    (∀ (skew otherSkew : Nat) (bytes others : List UInt8) (event other : Event),
      skew % 8 = 0 → otherSkew % 8 = 0 → Event.inFront? bytes = some event →
      Event.inFront? others = some other → event.SameMeaning other →
      ofBytes skew bytes = ofBytes otherSkew others) ∧
    (∀ (skew otherSkew : Nat) (bytes others : List UInt8) (event : Event),
      skew % 8 = 0 → otherSkew % 8 = 0 → Event.inFront? bytes = some event →
      Event.size ≤ others.length →
      (∀ position, event.Reads position → bytes[position]? = others[position]?) →
      ofBytes skew bytes = ofBytes otherSkew others) ∧
    ∀ (event : Event) (position : Nat), event.Reads position →
      position < Event.size ∧ ¬ (148 ≤ position ∧ position < 152) ∧
        ¬ (166 ≤ position ∧ position < 168) ∧ ¬ (654 ≤ position ∧ position < 656) := by
  refine ⟨decided_ofBytes, ?_, ?_, ?_, ?_⟩
  · intro skew bytes event record hevent hrecord
    have aligned := ((decided_ofBytes skew bytes).read_iff.mp ⟨record, hrecord⟩).1
    rw [ofBytes_inFront aligned hevent] at hrecord
    exact cutsInRange hrecord
  · intro skew otherSkew bytes others event other aligned otherAligned hevent hother same
    rw [ofBytes_inFront aligned hevent, ofBytes_inFront otherAligned hother, same.ofEvent_eq]
  · intro skew otherSkew bytes others event aligned otherAligned hevent hothers hagree
    exact ofBytes_congr aligned otherAligned hevent hothers hagree
  · intro event position hread
    exact hread.within

/-- A length beyond every slot is read as a full slot, and bytes behind the record are not read. -/
theorem forged_length_read :
    let forged := { Event.zero with cwd := { PathSlot.zero with length := 4294967295 } }
    let full := { Event.zero with cwd := { PathSlot.zero with length := 256 } }
    ofBytes 0 (forged.toBlock.toList ++ [255]) = ofBytes 8 (full.toBlock.toList ++ []) := by
  intro forged full
  have hfront : ∀ (event : Event) (rest : List UInt8),
      Event.inFront? (event.toBlock.toList ++ rest) = some event := by
    intro event rest
    rw [Event.inFront?, ofPrefix?_append, Option.map_some, Event.ofBlock_toBlock]
  have hsame : forged.SameMeaning full := {
    kind_eq := rfl
    fd_eq := rfl
    addrLength_eq := rfl
    result_eq := rfl
    arm := ⟨rfl, fun _ => ⟨rfl, rfl⟩, fun _ => ⟨rfl, rfl⟩,
      fun _ => ⟨Iff.rfl, fun _ => rfl, fun _ => rfl⟩⟩
    stamp := ⟨rfl, rfl, rfl⟩
    numbers := ⟨rfl, rfl, rfl, rfl, rfl, rfl, rfl, rfl, rfl, rfl, rfl, rfl, rfl, rfl⟩
    comm_same := rfl
    node := ⟨rfl, rfl, rfl, rfl, rfl, rfl⟩
    cwd := ⟨by decide, fun _ _ => rfl⟩
    exe := ⟨rfl, fun _ _ => rfl⟩ }
  obtain ⟨-, -, hmeaning, -, -⟩ := untrusted_bytes_read
  exact hmeaning 0 8 _ _ forged full (by decide) (by decide) (hfront forged [255])
    (hfront full []) hsame

end Record

end BindTrace
