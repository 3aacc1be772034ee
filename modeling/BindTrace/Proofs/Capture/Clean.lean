import BindTrace.Proofs.Capture.Ending
import BindTrace.Proofs.Wire.PathSlot

/-! # Records without leftovers

In a clean record every byte that the firing did not write is zero: the padding,
what follows a path, the header fields of the other probe, and the address
fields that do not belong to the family in the header.
-/

namespace BindTrace

/-- Address fields of other families are zero. -/
structure Header.OwnsOnly (header : Header) : Prop where
  v4 : header.family ≠ familyIpv4 → header.v4 = Block.zero 4
  v6 : header.family ≠ familyIpv6 → header.v6 = Block.zero 16
  port : header.family ≠ familyIpv4 → header.family ≠ familyIpv6 → header.port = 0
  unixPath : header.family ≠ familyUnix → header.unixPath = Block.zero unixPathSize

/-- Nothing but the fields of its own probe is in a header. -/
inductive Header.Clean (header : Header) : Kind → Prop
  | entry (hkind : header.kind = Kind.entry.code) (result : header.result = 0)
      (pad : header.pad = 0) (owns : header.OwnsOnly) : Clean header .entry
  | exit (result : Int32)
      (only : header = { Header.zero with kind := Kind.exit.code, result := result }) :
      Clean header .exit

structure Event.Clean (event : Event) (kind : Kind) (paths : PathKind → List UInt8) : Prop where
  header : event.header.Clean kind
  stamp_pad : event.context.stamp.pad = Block.zero 2
  context_pad : event.context.pad = Block.zero 2
  cwd : event.cwd.Holds (paths .cwd)
  exe : event.exe.Holds (paths .exe)

/-- An address writes its family and the fields that this family owns. -/
theorem Header.ownsOnly_setAddress (header : Header) (v4 : header.v4 = Block.zero 4)
    (v6 : header.v6 = Block.zero 16) (port : header.port = 0)
    (unixPath : header.unixPath = Block.zero unixPathSize) (address : SocketAddress) :
    (header.setAddress address).OwnsOnly := by
  cases address with
  | ipv4 bytes number =>
      exact ⟨fun h => absurd rfl h, fun _ => v6, fun h => absurd rfl h, fun _ => unixPath⟩
  | ipv6 bytes number =>
      exact ⟨fun _ => v4, fun h => absurd rfl h, fun _ h => absurd rfl h, fun _ => unixPath⟩
  | unix path => exact ⟨fun _ => v4, fun _ => v6, fun _ _ => port, fun h => absurd rfl h⟩
  | familyOnly family => exact ⟨fun _ => v4, fun _ => v6, fun _ _ => port, fun _ => unixPath⟩

theorem CallArguments.clean_fill (args : CallArguments) (memory : Memory) :
    (args.fill memory { Header.zero with kind := Kind.entry.code }).Clean .entry := by
  unfold fill
  cases SocketAddress.decode? memory args.address with
  | none =>
      exact .entry rfl rfl rfl ⟨fun _ => rfl, fun _ => rfl, fun _ _ => rfl, fun _ => rfl⟩
  | some address =>
      have howns := Header.ownsOnly_setAddress
        { Header.zero with
          kind := Kind.entry.code
          fd := args.fd
          addrLength := args.addrLength } rfl rfl rfl rfl address
      cases address <;> exact .entry rfl rfl rfl howns

/-- A record that is filled in from zeros is clean. -/
theorem Surroundings.event_clean (env : Surroundings) (kind : Kind) (now : UInt64)
    (task : TaskView) (node : Node) (paths : PathKind → List UInt8) {header : Header}
    (hheader : header.Clean kind) :
    ({ env.event kind now task node paths with header := header } : Event).Clean kind paths where
  header := hheader
  stamp_pad := Context.pad_stamp_zero
  context_pad := Context.pad_zero
  cwd := PathSlot.holds_store _
  exe := PathSlot.holds_store _

end BindTrace
