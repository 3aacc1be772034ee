import BindTrace.Channel.ByteRing

/-! # What a step does to a ring

A step leaves the ring alone, loses a slot, accepts one record, or releases the
oldest. Each of these has one effect on the bytes held and on the records that
are ready, and a ring that starts empty stays in balance with what it has
accepted, released and lost.
-/

namespace BindTrace

inductive Effect where
  | keep
  | lose
  | accept (event : Event)
  | release (event : Event)

namespace Effect

def accepted? : Effect → Option Event
  | accept event => some event
  | _ => none

def released? : Effect → Option Event
  | release event => some event
  | _ => none

def isLoss : Effect → Bool
  | lose => true
  | _ => false

end Effect

namespace ByteRing

theorem reserve?_eq_none_iff {ring : ByteRing} :
    RecordChannel.reserve? ring = none ↔ ring.capacity < ring.reserved + Event.size := by
  change reserve? ring = none ↔ _
  unfold reserve?
  split <;> simp <;> omega

theorem reserve?_eq_some_iff {ring later : ByteRing} {slot : Block Event.size} :
    RecordChannel.reserve? ring = some (slot, later) ↔
      ring.reserved + Event.size ≤ ring.capacity ∧ ring.residue = slot ∧
        { ring with reserved := ring.reserved + Event.size } = later := by
  change reserve? ring = some (slot, later) ↔ _
  unfold reserve?
  by_cases hfits : ring.reserved + Event.size ≤ ring.capacity
  · rw [if_pos hfits, Option.some.injEq, Prod.mk.injEq]
    exact ⟨fun h => ⟨hfits, h⟩, fun h => h.2⟩
  · rw [if_neg hfits]
    constructor
    · intro h
      cases h
    · intro h
      exact absurd h.1 hfits

/-- How an effect changes a ring, and what it requires of it. -/
inductive Moves (ring : ByteRing) : Effect → ByteRing → Prop
  | keep : Moves ring .keep ring
  | lose (residue : Block Event.size) :
      Moves ring .lose { ring with discarded := ring.discarded + 1, residue := residue }
  | accept (event : Event) (room : ring.reserved + Event.size ≤ ring.capacity) :
      Moves ring (.accept event)
        { ring with reserved := ring.reserved + Event.size, ready := ring.ready ++ [event] }
  | release {event : Event} {rest : List Event} (oldest : ring.ready = event :: rest) :
      Moves ring (.release event)
        { ring with
          reserved := ring.reserved - Event.size
          ready := rest
          residue := event.toBlock }

theorem Moves.ready_eq {ring later : ByteRing} {event : Event}
    (moves : ring.Moves (.accept event) later) : later.ready = ring.ready ++ [event] := by
  cases moves
  rfl

/-- A reservation that is given back costs nothing but a loss. -/
theorem discard_reserved (ring : ByteRing) (bytes : Block Event.size) :
    Moves ring .lose
      (RecordChannel.discard { ring with reserved := ring.reserved + Event.size } bytes) := by
  have hfreed : RecordChannel.discard { ring with reserved := ring.reserved + Event.size } bytes =
      { ring with discarded := ring.discarded + 1, residue := bytes } := by
    change discard _ bytes = _
    simp [discard]
  rw [hfreed]
  exact .lose bytes

/-- Only a step that accepts a record leaves it behind the others. -/
theorem Moves.of_appended {ring later : ByteRing} {effect : Effect} {event : Event}
    (moves : ring.Moves effect later) (h : later.ready = ring.ready ++ [event]) :
    effect = .accept event := by
  have hlength := congrArg List.length h
  rw [List.length_append, List.length_singleton] at hlength
  cases moves with
  | keep => omega
  | lose residue =>
      change ring.ready.length = ring.ready.length + 1 at hlength
      omega
  | accept accepted room =>
      have hlast := List.append_cancel_left h
      cases hlast
      rfl
  | release oldest =>
      rename_i event rest
      rw [oldest, List.length_cons] at hlength
      change rest.length = rest.length + 1 + 1 at hlength
      omega

/-! ## Rings in balance -/

/-- A ring that has accepted, released and lost what is listed. -/
structure Balanced (ring : ByteRing) (accepted released : List Event) (losses : Nat) : Prop where
  reserved_eq : ring.reserved = Event.size * ring.ready.length
  reserved_le : ring.reserved ≤ ring.capacity
  discarded_eq : ring.discarded = losses
  in_order : released ++ ring.ready = accepted

theorem Moves.capacity_eq {ring later : ByteRing} {effect : Effect}
    (moves : ring.Moves effect later) : later.capacity = ring.capacity := by
  cases moves <;> rfl

theorem Balanced.moves {ring later : ByteRing} {accepted released : List Event} {losses : Nat}
    (balanced : ring.Balanced accepted released losses) {effect : Effect}
    (moves : ring.Moves effect later) :
    later.Balanced (accepted ++ effect.accepted?.toList) (released ++ effect.released?.toList)
      (losses + effect.isLoss.toNat) := by
  obtain ⟨hreserved, hwithin, hdiscarded, horder⟩ := balanced
  cases moves with
  | keep =>
      refine ⟨hreserved, hwithin, hdiscarded, ?_⟩
      simpa [Effect.accepted?, Effect.released?] using horder
  | lose residue =>
      refine ⟨hreserved, hwithin, ?_, ?_⟩
      · rw [← hdiscarded]
        rfl
      · simpa [Effect.accepted?, Effect.released?] using horder
  | accept event room =>
      refine ⟨?_, room, hdiscarded, ?_⟩
      · have hlength : (ring.ready ++ [event]).length = ring.ready.length + 1 :=
          List.length_append
        change ring.reserved + Event.size = Event.size * (ring.ready ++ [event]).length
        rw [hlength, Nat.mul_succ, ← hreserved]
      · rw [← horder]
        simp [Effect.accepted?, Effect.released?]
  | release oldest =>
      rename_i event rest
      have hheld : ring.reserved = Event.size * rest.length + Event.size := by
        rw [hreserved, oldest, List.length_cons, Nat.mul_succ]
      have hfreed : ring.reserved - Event.size = Event.size * rest.length := by
        rw [hheld, Nat.add_sub_cancel]
      refine ⟨hfreed, ?_, hdiscarded, ?_⟩
      · exact Nat.le_trans (Nat.sub_le _ _) hwithin
      · rw [← horder, oldest]
        simp [Effect.accepted?, Effect.released?]

end ByteRing

end BindTrace
