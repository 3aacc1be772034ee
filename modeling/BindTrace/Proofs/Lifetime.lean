import BindTrace.Capture.Surroundings
import Mathlib.Data.UInt
import Mathlib.Logic.Function.Basic

/-! # When two lifetimes share an identifier

Each step of the scramble can be undone: a fold of the upper bits by folding twice
more, a multiplication by an odd constant by the constant's inverse. Scrambling
is therefore a permutation of the words, and identifiers collide exactly where
the keys do. As a process number only reaches the upper half of its key, two
processes collide only if their start times make up for their numbers there.
-/

namespace BindTrace

/-! ## Steps that can be undone -/

/-- Lays the upper bits of a word over the lower ones. -/
def foldHigh (shift word : UInt64) : UInt64 :=
  word ^^^ (word >>> shift)

def unfoldHigh (shift word : UInt64) : UInt64 :=
  word ^^^ (word >>> shift) ^^^ (word >>> shift >>> shift)

/-- A third of a word, shifted out three times, leaves nothing. -/
theorem shiftRight_thrice {shift : UInt64} (large : 22 ≤ shift.toNat) (small : shift.toNat < 64)
    (word : UInt64) : word >>> shift >>> shift >>> shift = 0 := by
  have hword : word.toNat < 2 ^ 64 := word.toNat_lt
  have hbound : 2 ^ 64 ≤ 2 ^ (shift.toNat + shift.toNat + shift.toNat) :=
    Nat.pow_le_pow_right (by decide) (by omega)
  apply UInt64.toNat_inj.mp
  simp only [UInt64.toNat_shiftRight, Nat.mod_eq_of_lt small, ← Nat.shiftRight_add]
  rw [Nat.shiftRight_eq_div_pow, Nat.div_eq_of_lt (by omega)]
  rfl

theorem unfoldHigh_foldHigh {shift : UInt64} (large : 22 ≤ shift.toNat)
    (small : shift.toNat < 64) (word : UInt64) : unfoldHigh shift (foldHigh shift word) = word := by
  simp only [unfoldHigh, foldHigh, UInt64.shiftRight_xor, shiftRight_thrice large small]
  calc word ^^^ (word >>> shift) ^^^ (word >>> shift ^^^ word >>> shift >>> shift) ^^^
        (word >>> shift >>> shift ^^^ 0)
      = word ^^^ (word >>> shift ^^^ word >>> shift) ^^^
          (word >>> shift >>> shift ^^^ word >>> shift >>> shift) ^^^ 0 := by ac_rfl
    _ = word := by simp only [UInt64.xor_self, UInt64.xor_zero]

theorem foldHigh_unfoldHigh {shift : UInt64} (large : 22 ≤ shift.toNat)
    (small : shift.toNat < 64) (word : UInt64) : foldHigh shift (unfoldHigh shift word) = word := by
  have hcommute : foldHigh shift (unfoldHigh shift word) =
      unfoldHigh shift (foldHigh shift word) := by
    simp only [unfoldHigh, foldHigh, UInt64.shiftRight_xor]
    ac_rfl
  rw [hcommute, unfoldHigh_foldHigh large small]

theorem foldHigh_bijective {shift : UInt64} (large : 22 ≤ shift.toNat)
    (small : shift.toNat < 64) : Function.Bijective (foldHigh shift) :=
  Function.bijective_iff_has_inverse.mpr
    ⟨unfoldHigh shift, unfoldHigh_foldHigh large small, foldHigh_unfoldHigh large small⟩

theorem mul_bijective {factor inverse : UInt64} (unit : factor * inverse = 1) :
    Function.Bijective fun word : UInt64 => word * factor := by
  refine Function.bijective_iff_has_inverse.mpr ⟨(· * inverse), ?_, ?_⟩
  · intro word
    change word * factor * inverse = word
    rw [UInt64.mul_assoc, unit, UInt64.mul_one]
  · intro word
    change word * inverse * factor = word
    rw [UInt64.mul_assoc, UInt64.mul_comm inverse, unit, UInt64.mul_one]

/-- Scrambling loses nothing and reaches every word. -/
theorem scramble_bijective : Function.Bijective scramble := by
  have hfirst : (0xbf58476d1ce4e5b9 : UInt64) * 0x96de1b173f119089 = 1 := by decide
  have hsecond : (0x94d049bb133111eb : UInt64) * 0x319642b2d24d8ec3 = 1 := by decide
  have hinner : Function.Bijective (foldHigh 30) := foldHigh_bijective (by decide) (by decide)
  have hmiddle : Function.Bijective (foldHigh 27) := foldHigh_bijective (by decide) (by decide)
  have hlast : Function.Bijective (foldHigh 31) := foldHigh_bijective (by decide) (by decide)
  have hstart := (mul_bijective hfirst).comp hinner
  exact hlast.comp ((mul_bijective hsecond).comp (hmiddle.comp hstart))

/-! ## Keys by halves -/

theorem eq_iff_halves {left right : UInt64} :
    left = right ↔ lowWord left = lowWord right ∧ highWord left = highWord right := by
  constructor
  · rintro rfl
    exact ⟨rfl, rfl⟩
  · rintro ⟨hlow, hhigh⟩
    have hlow := congrArg UInt32.toNat hlow
    have hhigh := congrArg UInt32.toNat hhigh
    rw [toNat_lowWord, toNat_lowWord] at hlow
    rw [toNat_highWord, toNat_highWord] at hhigh
    apply UInt64.toNat_inj.mp
    omega

theorem shiftLeft_eq_mul (tgid : UInt32) : tgid.toUInt64 <<< 32 = tgid.toUInt64 * 2 ^ 32 := by
  apply UInt64.toNat_inj.mp
  rw [UInt64.toNat_shiftLeft, UInt64.toNat_mul, Nat.shiftLeft_eq]
  rfl

theorem lowWord_shiftLeft (tgid : UInt32) : lowWord (tgid.toUInt64 <<< 32) = 0 := by
  apply UInt32.toNat_inj.mp
  rw [toNat_lowWord, UInt64.toNat_shiftLeft, Nat.shiftLeft_eq]
  change tgid.toUInt64.toNat * 2 ^ 32 % 2 ^ 64 % 2 ^ 32 = 0
  omega

theorem highWord_shiftLeft (tgid : UInt32) : highWord (tgid.toUInt64 <<< 32) = tgid := by
  have hbound : tgid.toUInt64.toNat < 2 ^ 32 := tgid.toNat_lt
  apply UInt32.toNat_inj.mp
  rw [toNat_highWord, UInt64.toNat_shiftLeft, Nat.shiftLeft_eq]
  change tgid.toUInt64.toNat * 2 ^ 32 % 2 ^ 64 / 2 ^ 32 = tgid.toUInt64.toNat
  omega

theorem lowWord_lifetimeKey (tgid : UInt32) (start : UInt64) :
    lowWord (lifetimeKey tgid start) = lowWord start := by
  have hxor : lowWord (lifetimeKey tgid start) =
      lowWord start ^^^ lowWord (tgid.toUInt64 <<< 32) := UInt64.toUInt32_xor ..
  rw [hxor, lowWord_shiftLeft, UInt32.xor_zero]

theorem highWord_lifetimeKey (tgid : UInt32) (start : UInt64) :
    highWord (lifetimeKey tgid start) = highWord start ^^^ tgid := by
  have hxor : highWord (lifetimeKey tgid start) =
      highWord start ^^^ highWord (tgid.toUInt64 <<< 32) := by
    rw [highWord, lifetimeKey, UInt64.shiftRight_xor]
    exact UInt64.toUInt32_xor ..
  rw [hxor, highWord_shiftLeft]

theorem xor_eq_xor_iff (a b c d : UInt32) : a ^^^ b = c ^^^ d ↔ a ^^^ c = b ^^^ d := by
  have hswap : ∀ {a b c d : UInt32}, a ^^^ b = c ^^^ d → a ^^^ c = b ^^^ d := by
    intro a b c d h
    calc a ^^^ c = a ^^^ b ^^^ (b ^^^ c) := by
          rw [UInt32.xor_assoc, ← UInt32.xor_assoc b, UInt32.xor_self, UInt32.zero_xor]
      _ = c ^^^ d ^^^ (b ^^^ c) := by rw [h]
      _ = b ^^^ d ^^^ (c ^^^ c) := by ac_rfl
      _ = b ^^^ d := by rw [UInt32.xor_self, UInt32.xor_zero]
  exact ⟨hswap, hswap⟩

/-! ## Identifiers -/

theorem lifetimeId_eq_iff {left right : UInt32} {start start' : UInt64} :
    lifetimeId left start = lifetimeId right start' ↔
      lifetimeKey left start = lifetimeKey right start' :=
  scramble_bijective.injective.eq_iff

theorem lifetimeKey_eq_iff {left right : UInt32} {start start' : UInt64} :
    lifetimeKey left start = lifetimeKey right start' ↔
      lowWord start = lowWord start' ∧ highWord start ^^^ highWord start' = left ^^^ right := by
  rw [eq_iff_halves, lowWord_lifetimeKey, lowWord_lifetimeKey, highWord_lifetimeKey,
    highWord_lifetimeKey, xor_eq_xor_iff]

/-- Laying a process number over the start time twice takes it off again. -/
theorem lifetimeKey_involutive (tgid : UInt32) : Function.Involutive (lifetimeKey tgid) := by
  intro start
  rw [lifetimeKey, lifetimeKey, UInt64.xor_assoc, UInt64.xor_self, UInt64.xor_zero]

/-- Identifiers tell lifetimes apart exactly as far as the keys do. -/
theorem lifetimeId_collisions :
    (∀ (tgid tgid' : UInt32) (start start' : UInt64),
      lifetimeId tgid start = lifetimeId tgid' start' ↔
        start ^^^ (tgid.toUInt64 * 2 ^ 32) = start' ^^^ (tgid'.toUInt64 * 2 ^ 32)) ∧
    (∀ tgid, Function.Bijective (lifetimeId tgid)) ∧
    (∀ start, Function.Injective fun tgid => lifetimeId tgid start) ∧
    ∀ (tgid tgid' : UInt32) (start start' : UInt64),
      lifetimeId tgid start = lifetimeId tgid' start' ↔
        lowWord start = lowWord start' ∧
          highWord start ^^^ highWord start' = tgid ^^^ tgid' := by
  refine ⟨?_, ?_, ?_, ?_⟩
  · intro tgid tgid' start start'
    rw [lifetimeId_eq_iff, lifetimeKey, lifetimeKey, shiftLeft_eq_mul, shiftLeft_eq_mul]
  · intro tgid
    exact scramble_bijective.comp (lifetimeKey_involutive tgid).bijective
  · intro start tgid tgid' h
    have hsame := (lifetimeKey_eq_iff.mp (lifetimeId_eq_iff.mp h)).2
    rw [UInt32.xor_self] at hsame
    exact UInt32.xor_eq_zero_iff.mp hsame.symm
  · intro tgid tgid' start start'
    rw [lifetimeId_eq_iff, lifetimeKey_eq_iff]

end BindTrace
