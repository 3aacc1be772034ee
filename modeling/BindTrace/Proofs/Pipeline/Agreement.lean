import BindTrace.Proofs.Address.Decoding
import BindTrace.Proofs.Pipeline.Firing
import BindTrace.Proofs.Wire.PathSlot
import BindTrace.Record

/-! # What the agent reads from a published record

The probe splits and cuts words, stores names as padded bytes and paths up to a
capacity, and the agent puts all of it together again from the byte image. The
record that the agent reads is written down here from the settings of the
kernel and the arguments of the call, field by field, and both probes are shown
to publish exactly that.
-/

namespace BindTrace

/-! ## Reading an image -/

/-- An aligned image is read as its event, whatever follows it. -/
theorem Record.ofBytes_toBlock (event : Event) {skew : Nat} (aligned : skew % 8 = 0)
    (rest : List UInt8) :
    Record.ofBytes skew (event.toBlock.toList ++ rest) = Record.ofEvent event := by
  rw [Record.ofBytes, if_pos aligned, Block.ofPrefix?_append]
  exact congrArg Record.ofEvent (Event.ofBlock_toBlock event)

/-! ## Split words -/

theorem lowWord_eq (word : UInt64) : lowWord word = UInt32.ofNat (word.toNat % 4294967296) := by
  apply UInt32.toNat_inj.mp
  rw [toNat_lowWord, UInt32.toNat_ofNat']
  omega

theorem highWord_eq (word : UInt64) : highWord word = UInt32.ofNat (word.toNat / 4294967296) := by
  have hword := word.toNat_lt
  apply UInt32.toNat_inj.mp
  rw [toNat_highWord, UInt32.toNat_ofNat']
  omega

theorem toUInt16_eq (word : UInt32) : word.toUInt16 = UInt16.ofNat (word.toNat % 65536) := by
  apply UInt16.toNat_inj.mp
  rw [UInt32.toNat_toUInt16, UInt16.toNat_ofNat']
  omega

/-! ## Addresses -/

namespace SocketAddress

/--
An address as it is told back by a header that was zero before.  A known family without a body is
told back as an address of zeros.
-/
def toldBack : SocketAddress → ShownAddress
  | familyOnly family =>
      if family = familyIpv4 then .ipv4 (Block.zero 4) 0
      else if family = familyIpv6 then .ipv6 (Block.zero 16) 0
      else if family = familyUnix then .unix "@"
      else .family family
  | address => address.shown

end SocketAddress

/-- The address that is shown for an entry, which is no family where nothing was read. -/
def CallArguments.shownAddress (args : CallArguments) (memory : Memory) : ShownAddress :=
  match SocketAddress.decode? memory args.address with
  | none => .family 0
  | some address => address.toldBack

theorem Header.shown_setAddress (header : Header) (v4 : header.v4 = Block.zero 4)
    (v6 : header.v6 = Block.zero 16) (port : header.port = 0)
    (unixPath : header.unixPath = Block.zero unixPathSize) (address : SocketAddress) :
    (header.setAddress address).address.shown = address.toldBack := by
  cases address with
  | ipv4 bytes number => rfl
  | ipv6 bytes number => rfl
  | unix path => rfl
  | familyOnly family =>
      have hname : unixName (Block.zero unixPathSize).toList = "@" := by decide
      rw [setAddress, Header.address, SocketAddress.toldBack]
      dsimp only
      by_cases hipv4 : family = familyIpv4
      · rw [if_pos hipv4, if_pos hipv4, v4, port]
        rfl
      · rw [if_neg hipv4, if_neg hipv4]
        by_cases hipv6 : family = familyIpv6
        · rw [if_pos hipv6, if_pos hipv6, v6, port]
          rfl
        · rw [if_neg hipv6, if_neg hipv6]
          by_cases hunix : family = familyUnix
          · rw [if_pos hunix, if_pos hunix, unixPath]
            exact congrArg ShownAddress.unix hname
          · rw [if_neg hunix, if_neg hunix]
            rfl

namespace CallArguments

theorem shown_fill (args : CallArguments) (memory : Memory) :
    (args.fill memory { Header.zero with kind := Kind.entry.code }).address.shown =
      args.shownAddress memory := by
  unfold fill shownAddress
  cases SocketAddress.decode? memory args.address with
  | none => rfl
  | some address =>
      exact Header.shown_setAddress _ rfl rfl rfl rfl address

end CallArguments

/-! ## The record of a call -/

namespace Pipeline

def record (pipeline : Pipeline) (kind : Kind) (fd addrLength result : Int32)
    (address : ShownAddress) : Record where
  kind := kind
  time := pipeline.site.clock
  syscall := pipeline.settings.syscall
  processor := UInt16.ofNat (pipeline.settings.processor.toNat % 65536)
  hostPid := UInt32.ofNat (pipeline.settings.pidTgid.toNat % 4294967296)
  hostTgid := UInt32.ofNat (pipeline.settings.pidTgid.toNat / 4294967296)
  hostPpid := pipeline.settings.task.hostPpid
  pid := pipeline.settings.task.nsPid
  tgid := pipeline.settings.task.nsTgid
  ppid := pipeline.settings.task.nsPpid
  uid := UInt32.ofNat (pipeline.settings.uidGid.toNat % 4294967296)
  gid := UInt32.ofNat (pipeline.settings.uidGid.toNat / 4294967296)
  cgroupId := pipeline.settings.cgroupId
  mountNsId := pipeline.settings.task.mountNsId
  pidNsId := pipeline.settings.task.pidNsId
  startTime := pipeline.settings.task.startTime
  lifetimeId := lifetimeId (UInt32.ofNat (pipeline.settings.pidTgid.toNat / 4294967296))
    pipeline.settings.task.leaderStartTime
  parentLifetimeId := lifetimeId pipeline.settings.task.hostPpid
    pipeline.settings.task.parentStartTime
  comm := Utf8.text (Text.untilNul pipeline.settings.comm.toList)
  node := {
    sysname := Utf8.text (Text.untilNul pipeline.settings.node.sysname.toList)
    nodename := Utf8.text (Text.untilNul pipeline.settings.node.nodename.toList)
    release := Utf8.text (Text.untilNul pipeline.settings.node.release.toList)
    version := Utf8.text (Text.untilNul pipeline.settings.node.version.toList)
    machine := Utf8.text (Text.untilNul pipeline.settings.node.machine.toList)
    domainname := Utf8.text (Text.untilNul pipeline.settings.node.domainname.toList) }
  cwd := Utf8.text (pipeline.settings.cwd.take 256)
  exe := Utf8.text (pipeline.settings.exe.take 256)
  fd := fd
  addrLength := addrLength
  result := result
  address := address

theorem take_resolved (settings : Settings) (path : PathKind) :
    (settings.resolved path).take pathCapacity = (settings.source path).take 256 := by
  rw [Settings.resolved, List.take_take]
  rfl

theorem ofEvent_event (pipeline : Pipeline) {kind : Kind} {header : Header}
    (hkind : header.kind = kind.code) :
    Record.ofEvent { pipeline.event kind with header := header } =
      .ok (pipeline.record kind header.fd header.addrLength header.result
        header.address.shown) := by
  have hnamed : Event.kind? { pipeline.event kind with header := header } = some kind := by
    rw [Event.kind?, hkind]
    exact Kind.ofCode?_code kind
  have hcwd : (pipeline.event kind).cwd.contents = pipeline.settings.cwd.take 256 :=
    (PathSlot.contents_store _).trans (take_resolved pipeline.settings .cwd)
  have hexe : (pipeline.event kind).exe.contents = pipeline.settings.exe.take 256 :=
    (PathSlot.contents_store _).trans (take_resolved pipeline.settings .exe)
  rw [Record.ofEvent, hnamed]
  dsimp only
  rw [hcwd, hexe, record, ← lowWord_eq, ← lowWord_eq, ← highWord_eq, ← highWord_eq, ← toUInt16_eq]
  rfl

/-- What the agent reads of a recorded call is what the kernel and the caller told the probe. -/
theorem published_record_agrees (pipeline : Pipeline) :
    (∀ args, (pipeline.step (.entry args)).1 = .fired (.ok ()) →
      ∃ event, (pipeline.step (.entry args)).2.site.channel.ready =
          pipeline.site.channel.ready ++ [event] ∧
        ∀ skew rest, skew % 8 = 0 → Record.ofBytes skew (event.toBlock.toList ++ rest) =
          .ok (pipeline.record .entry args.fd args.addrLength 0
            (args.shownAddress pipeline.memory))) ∧
    ∀ result, (pipeline.step (.exit result)).1 = .fired (.ok ()) →
      ∃ event, (pipeline.step (.exit result)).2.site.channel.ready =
          pipeline.site.channel.ready ++ [event] ∧
        ∀ skew rest, skew % 8 = 0 → Record.ofBytes skew (event.toBlock.toList ++ rest) =
          .ok (pipeline.record .exit 0 0 result (.family 0)) := by
  constructor
  · intro args recorded
    refine ⟨pipeline.entryEvent args, ready_of_entry recorded, ?_⟩
    intro skew rest aligned
    have hheader : (pipeline.event .entry).header = { Header.zero with kind := Kind.entry.code } :=
      rfl
    obtain ⟨hkind, hfd, haddrLength, hresult⟩ :=
      args.fill_fields pipeline.memory (pipeline.event .entry).header
    rw [Record.ofBytes_toBlock _ aligned, entryEvent, pipeline.ofEvent_event hkind, hfd,
      haddrLength, hresult, hheader, args.shown_fill]
    rfl
  · intro result recorded
    refine ⟨pipeline.exitEvent result, ready_of_exit recorded, ?_⟩
    intro skew rest aligned
    rw [Record.ofBytes_toBlock _ aligned, exitEvent, pipeline.ofEvent_event rfl]
    rfl

def single : Pipeline where
  settings := Settings.webServer 0x100000001000
  memory := Memory.loopback 4096
  config := SelfFilter.unknown
  site := { channel := { capacity := Event.size } }

/-- A recorded entry with its address, and a recorded exit read with a byte behind it. -/
theorem recorded_calls_read_back :
    ((single.step (.entry { fd := 3, address := 4096, addrLength := 16 })).1 = .fired (.ok ()) ∧
      ∃ event,
        (single.step (.entry { fd := 3, address := 4096, addrLength := 16 })).2.site.channel.ready =
            [event] ∧
          Record.ofBytes 0 event.toBlock.toList =
            .ok (single.record .entry 3 16 0 (.ipv4 #v[127, 0, 0, 1] 8080))) ∧
    (single.step (.exit (-98))).1 = .fired (.ok ()) ∧
      ∃ event, (single.step (.exit (-98))).2.site.channel.ready = [event] ∧
        Record.ofBytes 16 (event.toBlock.toList ++ [0xFF]) =
          .ok (single.record .exit 0 0 (-98) (.family 0)) := by
  obtain ⟨hentry, hexit⟩ := single.published_record_agrees
  constructor
  · have hrecorded : (single.step (.entry
        { fd := 3, address := 4096, addrLength := 16 })).1 = .fired (.ok ()) := rfl
    have hshown : CallArguments.shownAddress { fd := 3, address := 4096, addrLength := 16 }
        single.memory = .ipv4 #v[127, 0, 0, 1] 8080 := by
      decide
    obtain ⟨event, hready, hread⟩ := hentry _ hrecorded
    have hfront := hread 0 [] rfl
    rw [hshown, List.append_nil] at hfront
    exact ⟨hrecorded, event, hready, hfront⟩
  · have hrecorded : (single.step (.exit (-98))).1 = .fired (.ok ()) := rfl
    obtain ⟨event, hready, hread⟩ := hexit (-98) hrecorded
    exact ⟨hrecorded, event, hready, hread 16 [0xFF] rfl⟩

end Pipeline

end BindTrace
