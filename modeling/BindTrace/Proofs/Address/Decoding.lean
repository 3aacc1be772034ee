import BindTrace.Address.Decode
import BindTrace.Proofs.Kernel.Readable

/-! # Addresses as they stand in memory

What a pointer leads to is told byte by byte: a tag of two bytes, low byte
first, and behind it the body that this tag asks for, with the port high byte
first. Decoding finds exactly that, and looks at no byte beyond the longest
body.
-/

namespace BindTrace

/-! ## Bytes behind a pointer -/

namespace Memory

/-- The byte at an offset from a pointer, and zero where none is mapped. -/
def byteAt (memory : Memory) (pointer : UInt64) (offset : Nat) : UInt8 :=
  (memory.byte? (pointer.toNat + offset)).getD 0

def window (memory : Memory) (pointer : UInt64) (offset len : Nat) : Block len :=
  Vector.ofFn fun i => memory.byteAt pointer (offset + i.val)

theorem getElem_window (memory : Memory) (pointer : UInt64) (offset len i : Nat) (h : i < len) :
    (memory.window pointer offset len)[i] = memory.byteAt pointer (offset + i) := by
  simp [window]

theorem slice_window (memory : Memory) (pointer : UInt64) (start len n : Nat)
    (h : start + len ≤ n) :
    (memory.window pointer 0 n).slice start len h = memory.window pointer start len := by
  ext i hi
  rw [Block.getElem_slice, getElem_window, getElem_window, Nat.zero_add]

theorem byteAt_of_mapped {memory : Memory} {pointer : UInt64} {n i : Nat}
    (mapped : memory.Mapped pointer n) (h : i < n) :
    memory.byte? (pointer.toNat + i) = some (memory.byteAt pointer i) := by
  obtain ⟨byte, hbyte⟩ := Option.isSome_iff_exists.mp (mapped ⟨i, h⟩)
  have hat : memory.byteAt pointer i = byte := by rw [byteAt, hbyte, Option.getD_some]
  rw [hat]
  exact hbyte

theorem read?_of_mapped {memory : Memory} {pointer : UInt64} {n : Nat}
    (mapped : memory.Mapped pointer n) :
    memory.read? pointer n = some (memory.window pointer 0 n) := by
  rw [read?_eq_some_iff]
  intro i hi
  rw [getElem_window, Nat.zero_add]
  exact byteAt_of_mapped mapped hi

def tagAt (memory : Memory) (pointer : UInt64) : UInt16 :=
  UInt16.ofNat ((memory.byteAt pointer 0).toNat + 256 * (memory.byteAt pointer 1).toNat)

def portAt (memory : Memory) (pointer : UInt64) : UInt16 :=
  UInt16.ofNat (256 * (memory.byteAt pointer 2).toNat + (memory.byteAt pointer 3).toNat)

theorem toUInt16_eq_bytes (block : Block 2) :
    Block.toUInt16 block = UInt16.ofNat (block[0].toNat + 256 * block[1].toNat) := by
  have hbytes : block.toList = [block[0], block[1]] := by
    apply List.ext_getElem
    · simp
    · intro i hi _
      have hcases : i = 0 ∨ i = 1 := by
        simp at hi
        omega
      rcases hcases with rfl | rfl <;> simp
  rw [Block.toUInt16, Block.toNat, hbytes]
  rfl

theorem word16?_of_mapped {memory : Memory} {pointer : UInt64}
    (mapped : memory.Mapped pointer 2) : memory.word16? pointer = some (memory.tagAt pointer) := by
  rw [word16?, read?_of_mapped mapped, Option.map_some, toUInt16_eq_bytes, getElem_window,
    getElem_window]
  rfl

theorem swapBytes_ofNat (low high : UInt8) :
    swapBytes (UInt16.ofNat (low.toNat + 256 * high.toNat)) =
      UInt16.ofNat (256 * low.toNat + high.toNat) := by
  have hlow : low.toNat < 256 := low.toNat_lt
  have hhigh : high.toNat < 256 := high.toNat_lt
  have hfits : (low.toNat + 256 * high.toNat) % 65536 = low.toNat + 256 * high.toNat :=
    Nat.mod_eq_of_lt (by omega)
  have hdown : (low.toNat + 256 * high.toNat) / 256 = high.toNat := by omega
  have hup : (low.toNat + 256 * high.toNat) * 256 % 65536 = 256 * low.toNat := by omega
  have hjoin : high.toNat ||| 256 * low.toNat = 256 * low.toNat + high.toNat := by
    rw [Nat.or_comm]
    exact (Nat.two_pow_add_eq_or_of_lt (i := 8) hhigh low.toNat).symm
  have height : UInt16.toNat 8 % 16 = 8 := rfl
  apply UInt16.toNat_inj.mp
  rw [swapBytes, UInt16.toNat_or, UInt16.toNat_shiftRight, UInt16.toNat_shiftLeft]
  simp only [UInt16.toNat_ofNat', Nat.shiftRight_eq_div_pow, Nat.shiftLeft_eq, height,
    Nat.reducePow]
  rw [hfits, hdown, hup, hjoin]
  omega

theorem swapBytes_window (memory : Memory) (pointer : UInt64) :
    swapBytes (Block.toUInt16 (memory.window pointer 2 2)) = memory.portAt pointer := by
  rw [toUInt16_eq_bytes, getElem_window, getElem_window, swapBytes_ofNat]
  rfl

end Memory

/-! ## What a pointer leads to -/

namespace SocketAddress

structure Tagged (memory : Memory) (pointer : UInt64) (family : UInt16) : Prop where
  present : pointer ≠ 0
  mapped : memory.Mapped pointer 2
  tag_eq : memory.tagAt pointer = family

/-- What there is behind a pointer, if anything. -/
inductive Found (memory : Memory) (pointer : UInt64) : Option SocketAddress → Prop
  | nothing (lost : pointer = 0 ∨ ¬ memory.Mapped pointer 2) : Found memory pointer none
  | ipv4 (tagged : Tagged memory pointer 2) (body : memory.Mapped pointer 16) :
      Found memory pointer (some (.ipv4 (memory.window pointer 4 4) (memory.portAt pointer)))
  | ipv6 (tagged : Tagged memory pointer 10) (body : memory.Mapped pointer 28) :
      Found memory pointer (some (.ipv6 (memory.window pointer 8 16) (memory.portAt pointer)))
  | unix (tagged : Tagged memory pointer 1) (body : memory.Mapped pointer 110) :
      Found memory pointer (some (.unix (memory.window pointer 2 108)))
  | familyOnly {family : UInt16} (tagged : Tagged memory pointer family)
      (noIpv4 : ¬ (family = 2 ∧ memory.Mapped pointer 16))
      (noIpv6 : ¬ (family = 10 ∧ memory.Mapped pointer 28))
      (noUnix : ¬ (family = 1 ∧ memory.Mapped pointer 110)) :
      Found memory pointer (some (.familyOnly family))

variable {memory : Memory} {pointer : UInt64}

theorem Tagged.decode?_eq {family : UInt16} (tagged : Tagged memory pointer family) :
    decode? memory pointer = some ((body? memory pointer family).getD (.familyOnly family)) := by
  obtain ⟨present, mapped, rfl⟩ := tagged
  rw [decode?, if_neg present, Memory.word16?_of_mapped mapped, Option.map_some]

theorem body?_ipv4 (body : memory.Mapped pointer 16) :
    body? memory pointer 2 = some (.ipv4 (memory.window pointer 4 4) (memory.portAt pointer)) := by
  rw [body?, if_pos (by decide)]
  change (memory.read? pointer 16).map ofIpv4Block = _
  rw [Memory.read?_of_mapped body, Option.map_some, ofIpv4Block, Memory.slice_window,
    Memory.slice_window, Memory.swapBytes_window]

theorem body?_ipv6 (body : memory.Mapped pointer 28) :
    body? memory pointer 10 =
      some (.ipv6 (memory.window pointer 8 16) (memory.portAt pointer)) := by
  rw [body?, if_neg (by decide), if_pos (by decide)]
  change (memory.read? pointer 28).map ofIpv6Block = _
  rw [Memory.read?_of_mapped body, Option.map_some, ofIpv6Block, Memory.slice_window,
    Memory.slice_window, Memory.swapBytes_window]

theorem body?_unix (body : memory.Mapped pointer 110) :
    body? memory pointer 1 = some (.unix (memory.window pointer 2 108)) := by
  rw [body?, if_neg (by decide), if_neg (by decide), if_pos (by decide)]
  change (memory.read? pointer 110).map ofUnixBlock = _
  rw [Memory.read?_of_mapped body, Option.map_some, ofUnixBlock, Memory.slice_window]

/-- No body is read under a tag that is not known or whose body is not all there. -/
theorem body?_eq_none {family : UInt16} (noIpv4 : ¬ (family = 2 ∧ memory.Mapped pointer 16))
    (noIpv6 : ¬ (family = 10 ∧ memory.Mapped pointer 28))
    (noUnix : ¬ (family = 1 ∧ memory.Mapped pointer 110)) : body? memory pointer family = none := by
  unfold body?
  split
  · next h => exact Option.map_eq_none_iff.mpr (Memory.read?_eq_none_iff.mpr fun m => noIpv4 ⟨h, m⟩)
  · split
    · next h =>
        exact Option.map_eq_none_iff.mpr (Memory.read?_eq_none_iff.mpr fun m => noIpv6 ⟨h, m⟩)
    · split
      · next h =>
          exact Option.map_eq_none_iff.mpr (Memory.read?_eq_none_iff.mpr fun m => noUnix ⟨h, m⟩)
      · rfl

theorem Found.decode?_eq {result : Option SocketAddress} (found : Found memory pointer result) :
    decode? memory pointer = result := by
  cases found with
  | nothing lost =>
      unfold decode?
      rcases lost with null | unmapped
      · rw [if_pos null]
      · have hword : memory.word16? pointer = none :=
          Option.map_eq_none_iff.mpr (Memory.read?_eq_none_iff.mpr unmapped)
        rw [hword, Option.map_none, ite_self]
  | ipv4 tagged body => rw [tagged.decode?_eq, body?_ipv4 body, Option.getD_some]
  | ipv6 tagged body => rw [tagged.decode?_eq, body?_ipv6 body, Option.getD_some]
  | unix tagged body => rw [tagged.decode?_eq, body?_unix body, Option.getD_some]
  | familyOnly tagged noIpv4 noIpv6 noUnix =>
      rw [tagged.decode?_eq, body?_eq_none noIpv4 noIpv6 noUnix, Option.getD_none]

theorem exists_found (memory : Memory) (pointer : UInt64) :
    ∃ result, Found memory pointer result := by
  by_cases lost : pointer = 0 ∨ ¬ memory.Mapped pointer 2
  · exact ⟨none, .nothing lost⟩
  · obtain ⟨present, mapped⟩ := not_or.mp lost
    have tagged : Tagged memory pointer (memory.tagAt pointer) :=
      ⟨present, Classical.not_not.mp mapped, rfl⟩
    by_cases hipv4 : memory.tagAt pointer = 2 ∧ memory.Mapped pointer 16
    · exact ⟨_, .ipv4 (hipv4.1 ▸ tagged) hipv4.2⟩
    · by_cases hipv6 : memory.tagAt pointer = 10 ∧ memory.Mapped pointer 28
      · exact ⟨_, .ipv6 (hipv6.1 ▸ tagged) hipv6.2⟩
      · by_cases hunix : memory.tagAt pointer = 1 ∧ memory.Mapped pointer 110
        · exact ⟨_, .unix (hunix.1 ▸ tagged) hunix.2⟩
        · exact ⟨_, .familyOnly tagged hipv4 hipv6 hunix⟩

/-- Decoding finds what is there, and nothing else. -/
theorem decode?_eq_iff {result : Option SocketAddress} :
    decode? memory pointer = result ↔ Found memory pointer result := by
  constructor
  · rintro rfl
    obtain ⟨result, found⟩ := exists_found memory pointer
    rw [found.decode?_eq]
    exact found
  · exact Found.decode?_eq

/-! ## Where decoding looks -/

/-- Two pointers see the same memory, as far as an address can reach. -/
structure SameSight (left : Memory) (leftPointer : UInt64) (right : Memory)
    (rightPointer : UInt64) : Prop where
  null_iff : leftPointer = 0 ↔ rightPointer = 0
  byte_eq : ∀ i < 110, left.byte? (leftPointer.toNat + i) = right.byte? (rightPointer.toNat + i)

namespace SameSight

variable {left right : Memory} {leftPointer rightPointer : UInt64}

theorem mapped_iff (same : SameSight left leftPointer right rightPointer) {n : Nat}
    (within : n ≤ 110) : left.Mapped leftPointer n ↔ right.Mapped rightPointer n := by
  constructor
  · intro mapped i
    rw [← same.byte_eq i.val (Nat.lt_of_lt_of_le i.isLt within)]
    exact mapped i
  · intro mapped i
    rw [same.byte_eq i.val (Nat.lt_of_lt_of_le i.isLt within)]
    exact mapped i

theorem byteAt_eq (same : SameSight left leftPointer right rightPointer) {i : Nat} (h : i < 110) :
    left.byteAt leftPointer i = right.byteAt rightPointer i := by
  rw [Memory.byteAt, same.byte_eq i h]
  rfl

theorem window_eq (same : SameSight left leftPointer right rightPointer) {offset len : Nat}
    (within : offset + len ≤ 110) :
    left.window leftPointer offset len = right.window rightPointer offset len := by
  ext i hi
  rw [Memory.getElem_window, Memory.getElem_window, same.byteAt_eq (by omega)]

theorem portAt_eq (same : SameSight left leftPointer right rightPointer) :
    left.portAt leftPointer = right.portAt rightPointer := by
  rw [Memory.portAt, same.byteAt_eq (by decide), same.byteAt_eq (by decide)]
  rfl

theorem tagged (same : SameSight left leftPointer right rightPointer) {family : UInt16}
    (tagged : Tagged left leftPointer family) : Tagged right rightPointer family := by
  refine ⟨fun h => tagged.present (same.null_iff.mpr h),
    (same.mapped_iff (by decide)).mp tagged.mapped, ?_⟩
  rw [← tagged.tag_eq, Memory.tagAt, Memory.tagAt, same.byteAt_eq (by decide),
    same.byteAt_eq (by decide)]

theorem found (same : SameSight left leftPointer right rightPointer)
    {result : Option SocketAddress} (found : Found left leftPointer result) :
    Found right rightPointer result := by
  cases found with
  | nothing lost =>
      rw [same.null_iff, same.mapped_iff (by decide)] at lost
      exact .nothing lost
  | ipv4 tagged body =>
      rw [same.window_eq (by decide), same.portAt_eq]
      exact .ipv4 (same.tagged tagged) ((same.mapped_iff (by decide)).mp body)
  | ipv6 tagged body =>
      rw [same.window_eq (by decide), same.portAt_eq]
      exact .ipv6 (same.tagged tagged) ((same.mapped_iff (by decide)).mp body)
  | unix tagged body =>
      rw [same.window_eq (by decide)]
      exact .unix (same.tagged tagged) ((same.mapped_iff (by decide)).mp body)
  | familyOnly tagged noIpv4 noIpv6 noUnix =>
      rw [same.mapped_iff (by decide)] at noIpv4 noIpv6 noUnix
      exact .familyOnly (same.tagged tagged) noIpv4 noIpv6 noUnix

theorem decode?_eq (same : SameSight left leftPointer right rightPointer) :
    decode? left leftPointer = decode? right rightPointer :=
  (decode?_eq_iff.mpr (same.found (decode?_eq_iff.mp rfl))).symm

end SameSight

end SocketAddress

/-- A socket address on the loopback interface, at a place of its own in memory. -/
def Memory.loopback (base : Nat) : Memory :=
  Memory.ofRun base #[2, 0, 0x1F, 0x90, 127, 0, 0, 1, 0, 0, 0, 0, 0, 0, 0, 0]

end BindTrace
