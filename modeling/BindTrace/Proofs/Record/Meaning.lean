import BindTrace.Proofs.Bytes.Slices
import BindTrace.Record

/-! # The meaning of an event

A record keeps the numbers of an event, its names up to their ends, as much of
each path as its length claims and its slot holds, and the address that the
family selects. Events that agree on these have one record. The cuts are made
at indices that stand in the event or are searched for in it, and none of them
lies outside the bytes that are cut.
-/

namespace BindTrace

/-! ## Cuts by index -/

namespace Text

/-- The front of a string up to an index, refused if the index is out of range. -/
def frontTo? (bytes : List UInt8) (stop : Nat) : Option (List UInt8) :=
  if stop ≤ bytes.length then some (bytes.take stop) else none

def nulIndex (bytes : List UInt8) : Nat :=
  bytes.findIdx (· == 0)

def paddingIndex (bytes : List UInt8) : Nat :=
  bytes.length - bytes.reverse.findIdx (· != 0)

theorem frontTo?_nulIndex (bytes : List UInt8) :
    frontTo? bytes (nulIndex bytes) = some (untilNul bytes) := by
  have hnot : (fun byte : UInt8 => !(byte != 0)) = (· == 0) := by
    funext byte
    simp [bne]
  have hrange : nulIndex bytes ≤ bytes.length := List.findIdx_le_length
  rw [frontTo?, if_pos hrange, untilNul, List.takeWhile_eq_take_findIdx_not, hnot]
  rfl

theorem frontTo?_paddingIndex (bytes : List UInt8) :
    frontTo? bytes (paddingIndex bytes) = some (dropPadding bytes) := by
  have hnot : (fun byte : UInt8 => !(byte == 0)) = (· != 0) := rfl
  have hrange : paddingIndex bytes ≤ bytes.length := Nat.sub_le _ _
  rw [frontTo?, if_pos hrange, dropPadding, List.dropWhile_eq_drop_findIdx_not, hnot,
    List.drop_reverse, List.reverse_reverse]
  rfl

/-- Strings that agree up to the first NUL and on it are cut to the same name. -/
theorem untilNul_congr {left right : List UInt8} (hlength : left.length = right.length)
    (hagree : ∀ place < left.length, (∀ earlier < place, left[earlier]? ≠ some 0) →
      left[place]? = right[place]?) : untilNul left = untilNul right := by
  induction left generalizing right with
  | nil =>
      have hnil : right = [] := List.eq_nil_of_length_eq_zero hlength.symm
      rw [hnil]
  | cons byte rest ih =>
      cases right with
      | nil => simp at hlength
      | cons other behind =>
          have hhead : byte = other := by
            simpa using hagree 0 (by simp) (by simp)
          subst hhead
          -- A NUL ends both names here; behind any other byte the rests are compared.
          by_cases hnul : byte = 0
          · simp [untilNul, hnul]
          · have hrest : untilNul rest = untilNul behind := by
              refine ih (by simpa using hlength) fun place hplace hbefore => ?_
              have hnext := hagree (place + 1) (by simpa using hplace) fun earlier hearlier => ?_
              · simpa using hnext
              · cases earlier with
                | zero => simpa using hnul
                | succ earlier => simpa using hbefore earlier (by omega)
            simpa [untilNul, hnul] using hrest

end Text

theorem PathSlot.frontTo?_contents (slot : PathSlot) :
    Text.frontTo? slot.bytes.toList (min slot.length.toNat pathCapacity) = some slot.contents := by
  have hrange : min slot.length.toNat pathCapacity ≤ slot.bytes.toList.length := by
    rw [Vector.length_toList]
    exact Nat.min_le_right _ _
  rw [Text.frontTo?, if_pos hrange]
  rfl

/-! ## Agreement -/

structure Stamp.SameNumbers (left right : Stamp) : Prop where
  time_eq : left.time = right.time
  syscall_eq : left.syscall = right.syscall
  processor_eq : left.processor = right.processor

structure Identity.SameNumbers (left right : Identity) : Prop where
  startTime_eq : left.startTime = right.startTime
  hostPid_eq : left.hostPid = right.hostPid
  hostTgid_eq : left.hostTgid = right.hostTgid
  hostPpid_eq : left.hostPpid = right.hostPpid
  pid_eq : left.pid = right.pid
  tgid_eq : left.tgid = right.tgid
  ppid_eq : left.ppid = right.ppid
  uid_eq : left.uid = right.uid
  gid_eq : left.gid = right.gid
  cgroupId_eq : left.cgroupId = right.cgroupId
  mountNsId_eq : left.mountNsId = right.mountNsId
  pidNsId_eq : left.pidNsId = right.pidNsId
  lifetimeId_eq : left.lifetimeId = right.lifetimeId
  parentLifetimeId_eq : left.parentLifetimeId = right.parentLifetimeId

/-- Names in blocks of one size agree up to the first NUL. -/
def SameName {n : Nat} (left right : Block n) : Prop :=
  Text.untilNul left.toList = Text.untilNul right.toList

structure Node.SameNames (left right : Node) : Prop where
  sysname_same : SameName left.sysname right.sysname
  nodename_same : SameName left.nodename right.nodename
  release_same : SameName left.release right.release
  version_same : SameName left.version right.version
  machine_same : SameName left.machine right.machine
  domainname_same : SameName left.domainname right.domainname

/-- The claimed lengths agree up to the capacity, and that many bytes agree. -/
structure PathSlot.SameString (left right : PathSlot) : Prop where
  length_eq : min left.length.toNat pathCapacity = min right.length.toNat pathCapacity
  bytes_eq : ∀ place < min left.length.toNat pathCapacity, left.bytes[place]? = right.bytes[place]?

/--
Socket names agree: both are abstract and agree up to the padding, or neither is and they agree up
to the first NUL.
-/
structure SameSocketName (left right : Block unixPathSize) : Prop where
  abstract_iff : left[0] = 0 ↔ right[0] = 0
  abstract_eq : left[0] = 0 →
    Text.dropPadding (left.toList.drop 1) = Text.dropPadding (right.toList.drop 1)
  path_same : left[0] ≠ 0 → SameName left right

/-- The families agree, and so do the fields that the family selects. -/
structure Header.SameArm (left right : Header) : Prop where
  family_eq : left.family = right.family
  ipv4_eq : left.family = familyIpv4 → left.port = right.port ∧ left.v4 = right.v4
  ipv6_eq : left.family = familyIpv6 → left.port = right.port ∧ left.v6 = right.v6
  unix_same : left.family = familyUnix → SameSocketName left.unixPath right.unixPath

/-- The events agree on everything that a record tells. -/
structure Event.SameMeaning (left right : Event) : Prop where
  kind_eq : left.header.kind = right.header.kind
  fd_eq : left.header.fd = right.header.fd
  addrLength_eq : left.header.addrLength = right.header.addrLength
  result_eq : left.header.result = right.header.result
  arm : left.header.SameArm right.header
  stamp : left.context.stamp.SameNumbers right.context.stamp
  numbers : left.context.identity.SameNumbers right.context.identity
  comm_same : SameName left.context.identity.comm right.context.identity.comm
  node : left.context.node.SameNames right.context.node
  cwd : left.cwd.SameString right.cwd
  exe : left.exe.SameString right.exe

/-! ## One record -/

theorem SameName.text_eq {n : Nat} {left right : Block n} (same : SameName left right) :
    nameText left = nameText right :=
  congrArg Utf8.text same

theorem Node.SameNames.names_eq {left right : Node} (same : left.SameNames right) :
    left.names = right.names := by
  simp only [names, same.sysname_same.text_eq, same.nodename_same.text_eq,
    same.release_same.text_eq, same.version_same.text_eq, same.machine_same.text_eq,
    same.domainname_same.text_eq]

theorem PathSlot.SameString.contents_eq {left right : PathSlot} (same : left.SameString right) :
    left.contents = right.contents := by
  unfold contents storedLength
  rw [← same.length_eq]
  apply List.ext_getElem?
  intro place
  by_cases hplace : place < min left.length.toNat pathCapacity
  · rw [List.getElem?_take, if_pos hplace, List.getElem?_take, if_pos hplace,
      Vector.getElem?_toList, Vector.getElem?_toList]
    exact same.bytes_eq place hplace
  · rw [List.getElem?_take, if_neg hplace, List.getElem?_take, if_neg hplace]

theorem unixName_of_path {path : Block unixPathSize} (h : path[0] ≠ 0) :
    unixName path.toList = nameText path := by
  unfold unixName nameText
  split
  · next rest heq =>
      have hhead : path.toList[0]? = some 0 := by simp [heq]
      simp [h] at hhead
  · rfl

theorem toList_of_abstract {path : Block unixPathSize} (h : path[0] = 0) :
    path.toList = 0 :: path.toList.drop 1 := by
  have hcons := List.drop_eq_getElem_cons (l := path.toList) (i := 0) (by simp)
  simpa [h] using hcons

theorem unixName_of_abstract {path : Block unixPathSize} (h : path[0] = 0) :
    unixName path.toList = "@" ++ Utf8.text (Text.dropPadding (path.toList.drop 1)) := by
  rw [toList_of_abstract h]
  rfl

theorem SameSocketName.unixName_eq {left right : Block unixPathSize}
    (same : SameSocketName left right) : unixName left.toList = unixName right.toList := by
  by_cases habstract : left[0] = 0
  · rw [unixName_of_abstract habstract, unixName_of_abstract (same.abstract_iff.mp habstract),
      same.abstract_eq habstract]
  · have hright : right[0] ≠ 0 := fun h => habstract (same.abstract_iff.mpr h)
    rw [unixName_of_path habstract, unixName_of_path hright]
    exact (same.path_same habstract).text_eq

theorem Header.SameArm.shown_eq {left right : Header} (same : left.SameArm right) :
    left.address.shown = right.address.shown := by
  by_cases hipv4 : left.family = familyIpv4
  · obtain ⟨hport, hv4⟩ := same.ipv4_eq hipv4
    simp only [address, ← same.family_eq, if_pos hipv4, hport, hv4]
  · by_cases hipv6 : left.family = familyIpv6
    · obtain ⟨hport, hv6⟩ := same.ipv6_eq hipv6
      simp only [address, ← same.family_eq, if_neg hipv4, if_pos hipv6, hport, hv6]
    · by_cases hunix : left.family = familyUnix
      · have hname := (same.unix_same hunix).unixName_eq
        simp only [address, ← same.family_eq, if_neg hipv4, if_neg hipv6, if_pos hunix,
          SocketAddress.shown, hname]
      · simp only [address, ← same.family_eq, if_neg hipv4, if_neg hipv6, if_neg hunix]

/-- Events of one meaning are read as one record, or refused for one reason. -/
theorem Event.SameMeaning.ofEvent_eq {left right : Event} (same : left.SameMeaning right) :
    Record.ofEvent left = Record.ofEvent right := by
  have hstamp := same.stamp
  have hnumbers := same.numbers
  unfold Record.ofEvent kind?
  rw [same.kind_eq]
  split
  · rfl
  · simp only [hstamp.time_eq, hstamp.syscall_eq, hstamp.processor_eq, hnumbers.startTime_eq,
      hnumbers.hostPid_eq, hnumbers.hostTgid_eq, hnumbers.hostPpid_eq, hnumbers.pid_eq,
      hnumbers.tgid_eq, hnumbers.ppid_eq, hnumbers.uid_eq, hnumbers.gid_eq,
      hnumbers.cgroupId_eq, hnumbers.mountNsId_eq, hnumbers.pidNsId_eq, hnumbers.lifetimeId_eq,
      hnumbers.parentLifetimeId_eq, same.comm_same.text_eq, same.node.names_eq,
      same.cwd.contents_eq, same.exe.contents_eq, same.fd_eq, same.addrLength_eq,
      same.result_eq, same.arm.shown_eq]

/-! ## Texts of a record -/

def nameCut? {n : Nat} (name : Block n) : Option String :=
  (Text.frontTo? name.toList (Text.nulIndex name.toList)).map Utf8.text

def PathSlot.cut? (slot : PathSlot) : Option String :=
  (Text.frontTo? slot.bytes.toList (min slot.length.toNat pathCapacity)).map Utf8.text

def socketNameCut? (path : Block unixPathSize) : Option String :=
  if path[0] = 0 then
    (Text.frontTo? (path.toList.drop 1) (Text.paddingIndex (path.toList.drop 1))).map
      fun name => "@" ++ Utf8.text name
  else
    nameCut? path

theorem nameCut?_eq {n : Nat} (name : Block n) : nameCut? name = some (nameText name) := by
  rw [nameCut?, Text.frontTo?_nulIndex, Option.map_some, nameText]

theorem PathSlot.cut?_eq (slot : PathSlot) : slot.cut? = some (Utf8.text slot.contents) := by
  rw [cut?, frontTo?_contents, Option.map_some]

theorem socketNameCut?_eq (path : Block unixPathSize) :
    socketNameCut? path = some (unixName path.toList) := by
  unfold socketNameCut?
  split
  · next habstract =>
      rw [Text.frontTo?_paddingIndex, Option.map_some, unixName_of_abstract habstract]
  · next hpath => rw [nameCut?_eq, unixName_of_path hpath]

namespace Record

/-- Every text of the record is cut out of its field of the event, at an index in range. -/
structure CutsInRange (event : Event) (record : Record) : Prop where
  comm_cut : nameCut? event.context.identity.comm = some record.comm
  sysname_cut : nameCut? event.context.node.sysname = some record.node.sysname
  nodename_cut : nameCut? event.context.node.nodename = some record.node.nodename
  release_cut : nameCut? event.context.node.release = some record.node.release
  version_cut : nameCut? event.context.node.version = some record.node.version
  machine_cut : nameCut? event.context.node.machine = some record.node.machine
  domainname_cut : nameCut? event.context.node.domainname = some record.node.domainname
  cwd_cut : event.cwd.cut? = some record.cwd
  exe_cut : event.exe.cut? = some record.exe
  socketName_cut : event.header.family = familyUnix →
    (socketNameCut? event.header.unixPath).map ShownAddress.unix = some record.address

theorem cutsInRange {event : Event} {record : Record} (h : ofEvent event = .ok record) :
    CutsInRange event record := by
  unfold ofEvent at h
  split at h
  · cases h
  · obtain rfl := Except.ok.inj h
    refine ⟨nameCut?_eq _, nameCut?_eq _, nameCut?_eq _, nameCut?_eq _, nameCut?_eq _,
      nameCut?_eq _, nameCut?_eq _, PathSlot.cut?_eq _, PathSlot.cut?_eq _, fun hfamily => ?_⟩
    have hipv4 : familyUnix ≠ familyIpv4 := by decide
    have hipv6 : familyUnix ≠ familyIpv6 := by decide
    rw [socketNameCut?_eq, Option.map_some, Header.address, hfamily, if_neg hipv4, if_neg hipv6,
      if_pos rfl, SocketAddress.shown]

end Record

end BindTrace
