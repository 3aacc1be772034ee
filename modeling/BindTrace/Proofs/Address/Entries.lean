import BindTrace.Proofs.Address.Decoding
import BindTrace.Proofs.History
import BindTrace.Proofs.Probes.Turn

/-! # Addresses from memory to the record

An address is stored in the fields that its shape owns and told back by its
family tag, so nothing is lost but the difference between a body of zeros and a
body that could not be read. A record of an entry therefore shows what stood in
memory at the address, and neither the length that the caller claimed nor
anything else that differs between two firings has a part in it.
-/

namespace BindTrace

namespace Header

/-! ## Storing and telling back -/

/-- Nothing has changed but the family and the fields that an address owns. -/
structure ChangedOnly (address : SocketAddress) (before after : Header) : Prop where
  kind_eq : after.kind = before.kind
  fd_eq : after.fd = before.fd
  addrLength_eq : after.addrLength = before.addrLength
  result_eq : after.result = before.result
  pad_eq : after.pad = before.pad
  v4 : after.v4 ≠ before.v4 → ∃ bytes port, address = .ipv4 bytes port
  v6 : after.v6 ≠ before.v6 → ∃ bytes port, address = .ipv6 bytes port
  port : after.port ≠ before.port →
    ∃ port, (∃ bytes, address = .ipv4 bytes port) ∨ ∃ bytes, address = .ipv6 bytes port
  unixPath : after.unixPath ≠ before.unixPath → ∃ path, address = .unix path

/-- What a header tells of an address stored in it, with what its fields held before. -/
inductive ToldAs (header : Header) : SocketAddress → SocketAddress → Prop
  | same {address : SocketAddress} (noIpv4 : address ≠ .familyOnly 2)
      (noIpv6 : address ≠ .familyOnly 10) (noUnix : address ≠ .familyOnly 1) :
      ToldAs header address address
  | ipv4 : ToldAs header (.familyOnly 2) (.ipv4 header.v4 header.port)
  | ipv6 : ToldAs header (.familyOnly 10) (.ipv6 header.v6 header.port)
  | unix : ToldAs header (.familyOnly 1) (.unix header.unixPath)

theorem changedOnly_setAddress (header : Header) (address : SocketAddress) :
    ChangedOnly address header (header.setAddress address) := by
  cases address with
  | ipv4 bytes port =>
      exact ⟨rfl, rfl, rfl, rfl, rfl, fun _ => ⟨_, _, rfl⟩, fun h => absurd rfl h,
        fun _ => ⟨_, .inl ⟨_, rfl⟩⟩, fun h => absurd rfl h⟩
  | ipv6 bytes port =>
      exact ⟨rfl, rfl, rfl, rfl, rfl, fun h => absurd rfl h, fun _ => ⟨_, _, rfl⟩,
        fun _ => ⟨_, .inr ⟨_, rfl⟩⟩, fun h => absurd rfl h⟩
  | unix path =>
      exact ⟨rfl, rfl, rfl, rfl, rfl, fun h => absurd rfl h, fun h => absurd rfl h,
        fun h => absurd rfl h, fun _ => ⟨_, rfl⟩⟩
  | familyOnly family =>
      exact ⟨rfl, rfl, rfl, rfl, rfl, fun h => absurd rfl h, fun h => absurd rfl h,
        fun h => absurd rfl h, fun h => absurd rfl h⟩

theorem toldAs_setAddress (header : Header) (address : SocketAddress) :
    header.ToldAs address (header.setAddress address).address := by
  cases address with
  | ipv4 bytes port => exact .same nofun nofun nofun
  | ipv6 bytes port => exact .same nofun nofun nofun
  | unix path => exact .same nofun nofun nofun
  | familyOnly family =>
      -- Only the tag is stored, so the tag alone decides which fields are shown.
      by_cases hipv4 : family = 2
      · subst hipv4
        exact .ipv4
      by_cases hipv6 : family = 10
      · subst hipv6
        exact .ipv6
      by_cases hunix : family = 1
      · subst hunix
        exact .unix
      have htold : (header.setAddress (.familyOnly family)).address = .familyOnly family := by
        rw [setAddress, address]
        dsimp only
        rw [if_neg (show ¬ family = familyIpv4 from hipv4),
          if_neg (show ¬ family = familyIpv6 from hipv6),
          if_neg (show ¬ family = familyUnix from hunix)]
      rw [htold]
      exact .same (fun h => hipv4 (SocketAddress.familyOnly.inj h))
        (fun h => hipv6 (SocketAddress.familyOnly.inj h))
        fun h => hunix (SocketAddress.familyOnly.inj h)

/-! ## The address in a header -/

structure SameAddress (left right : Header) : Prop where
  family_eq : left.family = right.family
  port_eq : left.port = right.port
  v4_eq : left.v4 = right.v4
  v6_eq : left.v6 = right.v6
  unixPath_eq : left.unixPath = right.unixPath

theorem SameAddress.setAddress {left right : Header} (same : left.SameAddress right)
    (address : SocketAddress) :
    (left.setAddress address).SameAddress (right.setAddress address) := by
  obtain ⟨hfamily, hport, hv4, hv6, hunixPath⟩ := same
  cases address with
  | ipv4 bytes port => exact ⟨rfl, rfl, rfl, hv6, hunixPath⟩
  | ipv6 bytes port => exact ⟨rfl, rfl, hv4, rfl, hunixPath⟩
  | unix path => exact ⟨rfl, hport, hv4, hv6, rfl⟩
  | familyOnly family => exact ⟨rfl, hport, hv4, hv6, hunixPath⟩

end Header

/-- The header of an entry: the arguments of the call, and the address if one was found. -/
inductive Header.Carries (memory : Memory) (args : CallArguments) : Header → Prop
  | nothing (found : SocketAddress.Found memory args.address none) :
      Carries memory args
        { Header.zero with kind := Kind.entry.code, fd := args.fd, addrLength := args.addrLength }
  | address {address : SocketAddress}
      (found : SocketAddress.Found memory args.address (some address)) :
      Carries memory args
        (Header.setAddress
          { Header.zero with kind := Kind.entry.code, fd := args.fd, addrLength := args.addrLength }
          address)

namespace CallArguments

theorem carries_fill (args : CallArguments) (memory : Memory) :
    Header.Carries memory args
      (args.fill memory { Header.zero with kind := Kind.entry.code }) := by
  unfold fill
  cases hdecode : SocketAddress.decode? memory args.address with
  | none => exact .nothing (SocketAddress.decode?_eq_iff.mp hdecode)
  | some address => exact .address (SocketAddress.decode?_eq_iff.mp hdecode)

theorem sameAddress_fill {left right : Memory} {args others : CallArguments}
    (same : SocketAddress.SameSight left args.address right others.address) (header : Header) :
    (args.fill left header).SameAddress (others.fill right header) := by
  have hplain : ({ header with fd := args.fd, addrLength := args.addrLength } : Header).SameAddress
      { header with fd := others.fd, addrLength := others.addrLength } := ⟨rfl, rfl, rfl, rfl, rfl⟩
  unfold fill
  rw [same.decode?_eq]
  cases SocketAddress.decode? right others.address with
  | none => exact hplain
  | some address => exact hplain.setAddress address

theorem fill_with (args : CallArguments) (fd addrLength : Int32) (memory : Memory)
    (header : Header) :
    ({ args with fd := fd, addrLength := addrLength } : CallArguments).fill memory header =
      { args.fill memory header with fd := fd, addrLength := addrLength } := by
  unfold fill
  cases SocketAddress.decode? memory args.address with
  | none => rfl
  | some address => cases address <;> rfl

end CallArguments

/-! ## Records of entries -/

namespace Pipeline

theorem Publishes.recorded {pipeline : Pipeline} {args : CallArguments} {event : Event}
    (publishes : pipeline.Publishes (.entry args) .entry event) :
    (pipeline.step (.entry args)).1 = .fired (.ok ()) := by
  have heffect := (pipeline.step_moves (.entry args)).of_appended publishes.2
  rw [pipeline.step_verdict (.entry args) rfl]
  rw [Run.turn, pipeline.step_verdict (.entry args) rfl] at heffect
  rcases hverdict : pipeline.verdict with error | done
  · rw [hverdict] at heffect
    cases error <;> cases heffect
  · rfl

theorem Publishes.entry_eq {pipeline : Pipeline} {args : CallArguments} {event : Event}
    (publishes : pipeline.Publishes (.entry args) .entry event) :
    event = pipeline.entryEvent args := by
  rcases publishes.event_eq with ⟨_, hstep, -, hevent⟩ | ⟨_, hstep, -, -⟩
  · cases hstep
    exact hevent
  · cases hstep

theorem Publishes.carries {pipeline : Pipeline} {args : CallArguments} {event : Event}
    (published : pipeline.Publishes (.entry args) .entry event) :
    Header.Carries pipeline.memory args event.header := by
  rw [published.entry_eq]
  exact args.carries_fill pipeline.memory

theorem publishes_entry {pipeline : Pipeline} {args : CallArguments}
    (recorded : (pipeline.step (.entry args)).1 = .fired (.ok ())) :
    pipeline.Publishes (.entry args) .entry (pipeline.entryEvent args) :=
  ⟨rfl, ready_of_entry recorded⟩

theorem Publishes.sameAddress {left right : Pipeline} {args others : CallArguments}
    {first second : Event} (published : left.Publishes (.entry args) .entry first)
    (again : right.Publishes (.entry others) .entry second)
    (same : SocketAddress.SameSight left.memory args.address right.memory others.address) :
    first.header.SameAddress second.header := by
  rw [published.entry_eq, again.entry_eq]
  exact CallArguments.sameAddress_fill same _

/-- Another descriptor and another length change nothing but these two fields. -/
theorem Publishes.entry_with {pipeline : Pipeline} {args : CallArguments} {event : Event}
    (published : pipeline.Publishes (.entry args) .entry event) (fd addrLength : Int32) :
    pipeline.Publishes (.entry { args with fd := fd, addrLength := addrLength }) .entry
      { event with header := { event.header with fd := fd, addrLength := addrLength } } := by
  have hrecorded :
      (pipeline.step (.entry { args with fd := fd, addrLength := addrLength })).1 =
        .fired (.ok ()) := by
    rw [pipeline.step_verdict _ rfl, ← pipeline.step_verdict (.entry args) rfl]
    exact published.recorded
  have hevent : pipeline.entryEvent { args with fd := fd, addrLength := addrLength } =
      { event with header := { event.header with fd := fd, addrLength := addrLength } } := by
    rw [published.entry_eq, entryEvent, CallArguments.fill_with]
    rfl
  rw [← hevent]
  exact publishes_entry hrecorded

end Pipeline

namespace ProbeSite

theorem Publishes.entry_eq {probes : ProbeSite} {pointer : Option UInt64} {event : Event}
    (publishes : probes.Publishes (.entry pointer) .entry event) :
    ∃ task node, event = probes.entryEvent pointer task node := by
  obtain ⟨task, node, -, -, hcase⟩ := publishes.event_eq
  rcases hcase with ⟨_, hstep, -, hevent⟩ | ⟨_, hstep, -, -⟩
  · cases hstep
    exact ⟨task, node, hevent⟩
  · cases hstep

theorem Publishes.carries {probes : ProbeSite} {pointer : Option UInt64} {args : CallArguments}
    {syscall : Int32} {event : Event}
    (published : probes.Publishes (.entry pointer) .entry event)
    (enters : probes.machine.kernelMemory.Enters pointer args syscall) :
    Header.Carries probes.machine.userMemory args event.header := by
  obtain ⟨task, node, rfl⟩ := published.entry_eq
  obtain ⟨rfl, -⟩ := KernelMemory.enters_iff.mp enters
  exact CallArguments.carries_fill _ _

theorem Publishes.sameAddress {left right : ProbeSite} {pointer other : Option UInt64}
    {first second : Event} (published : left.Publishes (.entry pointer) .entry first)
    (again : right.Publishes (.entry other) .entry second)
    (same : SocketAddress.SameSight left.machine.userMemory (left.entryArguments pointer).address
      right.machine.userMemory (right.entryArguments other).address) :
    first.header.SameAddress second.header := by
  obtain ⟨task, node, rfl⟩ := published.entry_eq
  obtain ⟨task', node', rfl⟩ := again.entry_eq
  exact CallArguments.sameAddress_fill same _

end ProbeSite

/-- An address goes from memory through the header to whoever reads the record. -/
theorem address_carried :
    (∀ memory pointer result, SocketAddress.decode? memory pointer = result ↔
      SocketAddress.Found memory pointer result) ∧
    (∀ (header : Header) (address : SocketAddress),
      (header.setAddress address).family = address.family ∧
        Header.ChangedOnly address header (header.setAddress address) ∧
        header.ToldAs address (header.setAddress address).address) ∧
    ((Header.zero.setAddress (.familyOnly 2)).address = .ipv4 (Block.zero 4) 0 ∧
      (Header.zero.setAddress (.familyOnly 10)).address = .ipv6 (Block.zero 16) 0 ∧
      (Header.zero.setAddress (.familyOnly 1)).address = .unix (Block.zero 108)) ∧
    (∀ (left right : Pipeline) (args others : CallArguments) (first second : Event),
      SocketAddress.SameSight left.memory args.address right.memory others.address →
      left.Publishes (.entry args) .entry first → right.Publishes (.entry others) .entry second →
        first.header.SameAddress second.header) ∧
    (∀ (left right : ProbeSite) (pointer other : Option UInt64) (first second : Event),
      SocketAddress.SameSight left.machine.userMemory (left.entryArguments pointer).address
        right.machine.userMemory (right.entryArguments other).address →
      left.Publishes (.entry pointer) .entry first →
      right.Publishes (.entry other) .entry second → first.header.SameAddress second.header) ∧
    (∀ (pipeline : Pipeline) (args : CallArguments) (event : Event),
      pipeline.Publishes (.entry args) .entry event →
        Header.Carries pipeline.memory args event.header) ∧
    (∀ (probes : ProbeSite) (pointer : Option UInt64) (args : CallArguments) (syscall : Int32)
      (event : Event), probes.machine.kernelMemory.Enters pointer args syscall →
      probes.Publishes (.entry pointer) .entry event →
        Header.Carries probes.machine.userMemory args event.header) ∧
    ∀ (pipeline : Pipeline) (args : CallArguments) (fd addrLength : Int32),
      (pipeline.step (.entry { args with fd := fd, addrLength := addrLength })).1 =
          (pipeline.step (.entry args)).1 ∧
        ∀ event, pipeline.Publishes (.entry args) .entry event →
          pipeline.Publishes (.entry { args with fd := fd, addrLength := addrLength }) .entry
            { event with header := { event.header with fd := fd, addrLength := addrLength } } := by
  refine ⟨fun _ _ _ => SocketAddress.decode?_eq_iff, ?_, ⟨rfl, rfl, rfl⟩, ?_, ?_, ?_, ?_, ?_⟩
  · intro header address
    exact ⟨header.family_setAddress address, header.changedOnly_setAddress address,
      header.toldAs_setAddress address⟩
  · intro left right args others first second same published again
    exact published.sameAddress again same
  · intro left right pointer other first second same published again
    exact published.sameAddress again same
  · intro pipeline args event published
    exact published.carries
  · intro probes pointer args syscall event enters published
    exact published.carries enters
  · intro pipeline args fd addrLength
    refine ⟨?_, fun event published => published.entry_with fd addrLength⟩
    rw [pipeline.step_verdict _ rfl, pipeline.step_verdict (.entry args) rfl]

def Pipeline.bound (base : Nat) : Pipeline :=
  fresh Event.size (Settings.webServer 0x100000001000) (Memory.loopback base) SelfFilter.unknown 0
    (Block.zero scratchSize) (Block.zero Event.size)

/-- Probes that find the same address through the registers of a process. -/
def ProbeSite.bound (pidTgid : UInt64) : ProbeSite :=
  fresh 1
    { kernelMemory := readableKernel
      userMemory := Memory.loopback 0x0101010101010101
      task := 4096
      pidTgid := pidTgid }
    0 (Block.zero scratchSize) (Block.zero Event.size)

/-- One address at two places, under different descriptors and lengths. -/
theorem loopback_carried :
    SocketAddress.SameSight (Memory.loopback 4096) 4096 (Memory.loopback 8192) 8192 ∧
    (∃ first second,
      (Pipeline.bound 4096).Publishes (.entry { fd := 3, address := 4096, addrLength := 16 })
          .entry first ∧
        (Pipeline.bound 8192).Publishes (.entry { fd := 9, address := 8192, addrLength := -1 })
          .entry second ∧
        first.header.SameAddress second.header ∧
        Header.Carries (Memory.loopback 4096) { fd := 3, address := 4096, addrLength := 16 }
          first.header) ∧
    (∃ first second, (ProbeSite.bound 0x300000003).Publishes (.entry (some 8)) .entry first ∧
      (ProbeSite.bound 0x400000005).Publishes (.entry (some 16)) .entry second ∧
      first.header.SameAddress second.header ∧
      Header.Carries (Memory.loopback 0x0101010101010101)
        { fd := 0x01010101, address := 0x0101010101010101, addrLength := 0x01010101 }
        first.header) ∧
    ∃ event, (Pipeline.bound 4096).Publishes (.entry { address := 4096 }) .entry event ∧
      (Pipeline.bound 4096).Publishes (.entry { fd := 9, address := 4096, addrLength := 2 }) .entry
        { event with header := { event.header with fd := 9, addrLength := 2 } } := by
  obtain ⟨-, -, -, hpipelines, hprobes, hcarried, hcarriedBy, hwith⟩ := address_carried
  have hsight : SocketAddress.SameSight (Memory.loopback 4096) 4096 (Memory.loopback 8192) 8192 :=
    ⟨by decide, by decide⟩
  have hpublishes : ∀ (base : Nat) (args : CallArguments), ∃ event,
      (Pipeline.bound base).Publishes (.entry args) .entry event := by
    intro base args
    refine ⟨_, Pipeline.publishes_entry ?_⟩
    rw [Pipeline.step_verdict _ _ rfl]
    simp [Pipeline.verdict, Pipeline.bound, Pipeline.fresh, Settings.webServer, SelfFilter.unknown]
  -- Registers of ones are found behind every pointer, so the address is a word of ones.
  have henters : ∀ (pidTgid : UInt64) {pointer : UInt64}, pointer ≠ 0 →
      (ProbeSite.bound pidTgid).machine.kernelMemory.Enters (some pointer)
        { fd := 0x01010101, address := 0x0101010101010101, addrLength := 0x01010101 } 0x01010101 :=
    fun _ _ present => ProbeSite.enters_readableKernel present
  have hargs : ∀ (pidTgid : UInt64) {pointer : UInt64}, pointer ≠ 0 →
      (ProbeSite.bound pidTgid).entryArguments (some pointer) =
        { fd := 0x01010101, address := 0x0101010101010101, addrLength := 0x01010101 } :=
    fun pidTgid _ present => (KernelMemory.enters_iff.mp (henters pidTgid present)).1
  have hfired : ∀ pidTgid pointer,
      ∃ event, (ProbeSite.bound pidTgid).Publishes (.entry pointer) .entry event := by
    intro pidTgid pointer
    have hfound := ProbeSite.not_metadataLost_readableKernel (show (4096 : UInt64) ≠ 0 by decide)
    exact ProbeSite.publishes_entry_of_found hfound rfl rfl Nat.zero_lt_one pointer
  obtain ⟨left, hleft⟩ := hpublishes 4096 { fd := 3, address := 4096, addrLength := 16 }
  obtain ⟨right, hright⟩ := hpublishes 8192 { fd := 9, address := 8192, addrLength := -1 }
  obtain ⟨first, hfirst⟩ := hfired 0x300000003 (some 8)
  obtain ⟨second, hsecond⟩ := hfired 0x400000005 (some 16)
  obtain ⟨event, hevent⟩ := hpublishes 4096 { address := 4096 }
  have hsame : SocketAddress.SameSight
      (ProbeSite.bound 0x300000003).machine.userMemory
      ((ProbeSite.bound 0x300000003).entryArguments (some 8)).address
      (ProbeSite.bound 0x400000005).machine.userMemory
      ((ProbeSite.bound 0x400000005).entryArguments (some 16)).address := by
    rw [hargs _ (by decide), hargs _ (by decide)]
    exact ⟨Iff.rfl, fun i hi => rfl⟩
  refine ⟨hsight, ⟨left, right, hleft, hright, ?_, ?_⟩, ⟨first, second, hfirst, hsecond, ?_, ?_⟩,
    event, hevent, ?_⟩
  · exact hpipelines _ _ _ _ _ _ hsight hleft hright
  · exact hcarried _ _ _ hleft
  · exact hprobes _ _ _ _ _ _ hsame hfirst hsecond
  · exact hcarriedBy _ _ _ _ _ (henters _ (by decide)) hfirst
  · exact (hwith _ _ 9 2).2 event hevent

end BindTrace
