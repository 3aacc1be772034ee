import BindTrace.Proofs.Record.Meaning
import BindTrace.Proofs.Text.Utf8
import BindTrace.Proofs.Wire.PathSlot

/-! # Texts cut to the capacity of a path slot

A path slot cuts a string at a byte, not at a character. Of a text that is cut,
the characters that fit are shown as they were; one that lies across the cut is
shown as a single replacement character, and nothing is shown if none does.
-/

namespace BindTrace

namespace Utf8

/-! ## Characters before a cut -/

/-- The longest front of a text of which the bytes fit in a number of bytes. -/
structure LongestFit (limit : Nat) (chars kept : List Char) : Prop where
  front : kept <+: chars
  fits : (encode kept).length ≤ limit
  longest : ∀ other, other <+: chars → (encode other).length ≤ limit → other <+: kept

/-- A character has bytes on both sides of a place in the bytes of the text. -/
inductive Straddles (place : Nat) (chars : List Char) : Prop
  | at (before after : List Char) (char : Char) (split : chars = before ++ char :: after)
      (starts : (encode before).length < place)
      (ends : place < (encode (before ++ [char])).length)

def fitting : Nat → List Char → List Char
  | _, [] => []
  | limit, char :: rest =>
      if (String.utf8EncodeChar char).length ≤ limit then
        char :: fitting (limit - (String.utf8EncodeChar char).length) rest
      else []

theorem length_encode_cons (char : Char) (chars : List Char) :
    (encode (char :: chars)).length =
      (String.utf8EncodeChar char).length + (encode chars).length := by
  rw [encode_cons, List.length_append]

theorem longestFit_fitting (limit : Nat) (chars : List Char) :
    LongestFit limit chars (fitting limit chars) := by
  induction chars generalizing limit with
  | nil => exact ⟨List.nil_prefix, Nat.zero_le _, fun other front _ => front⟩
  | cons char rest ih =>
      rw [fitting]
      split
      · next hfits =>
          have hrest := ih (limit - (String.utf8EncodeChar char).length)
          refine ⟨List.cons_prefix_cons.mpr ⟨rfl, hrest.front⟩, ?_, fun other front hother => ?_⟩
          · have := hrest.fits
            rw [length_encode_cons]
            omega
          · cases other with
            | nil => exact List.nil_prefix
            | cons first others =>
                obtain ⟨rfl, hothers⟩ := List.cons_prefix_cons.mp front
                rw [length_encode_cons] at hother
                exact List.cons_prefix_cons.mpr ⟨rfl, hrest.longest others hothers (by omega)⟩
      · next hlong =>
          refine ⟨List.nil_prefix, Nat.zero_le _, fun other front hother => ?_⟩
          cases other with
          | nil => exact List.nil_prefix
          | cons first others =>
              obtain ⟨rfl, -⟩ := List.cons_prefix_cons.mp front
              rw [length_encode_cons] at hother
              omega

theorem LongestFit.unique {limit : Nat} {chars left right : List Char}
    (hleft : LongestFit limit chars left) (hright : LongestFit limit chars right) :
    left = right := by
  have hforth := hright.longest left hleft.front hleft.fits
  have hback := hleft.longest right hright.front hright.fits
  exact hforth.eq_of_length (Nat.le_antisymm hforth.length_le hback.length_le)

/-- What fits ends before the first character that does not. -/
theorem longestFit_append {limit : Nat} {before after : List Char} {char : Char}
    (hfits : (encode before).length ≤ limit)
    (hlong : limit < (encode (before ++ [char])).length) :
    LongestFit limit (before ++ char :: after) before := by
  have hfitting : fitting limit (before ++ char :: after) = before := by
    induction before generalizing limit with
    | nil =>
        rw [List.nil_append, length_encode_cons, encode_nil, List.length_nil] at hlong
        rw [List.nil_append, fitting, if_neg (by omega)]
    | cons first before ih =>
        rw [length_encode_cons] at hfits
        rw [List.cons_append, length_encode_cons] at hlong
        rw [List.cons_append, fitting, if_pos (by omega), ih (by omega) (by omega)]
  have longest := longestFit_fitting limit (before ++ char :: after)
  rwa [hfitting] at longest

/-- Behind a character that fits, the same place is that much nearer. -/
theorem straddles_cons_of_fits {place : Nat} {char : Char} {rest : List Char}
    (hfits : (String.utf8EncodeChar char).length ≤ place) :
    Straddles place (char :: rest) ↔
      Straddles (place - (String.utf8EncodeChar char).length) rest := by
  constructor
  · rintro ⟨before, after, crossed, split, starts, ends⟩
    cases before with
    | nil =>
        obtain ⟨rfl, rfl⟩ := List.cons.inj split
        rw [List.nil_append, length_encode_cons, encode_nil, List.length_nil] at ends
        omega
    | cons first before =>
        obtain ⟨rfl, hrest⟩ := List.cons.inj split
        rw [length_encode_cons] at starts
        rw [List.cons_append, length_encode_cons] at ends
        exact .at before after crossed hrest (by omega) (by omega)
  · rintro ⟨before, after, crossed, split, starts, ends⟩
    refine .at (char :: before) after crossed (by rw [split, List.cons_append]) ?_ ?_
    · rw [length_encode_cons]
      omega
    · rw [List.cons_append, length_encode_cons]
      omega

/-- A character that does not fit lies across the place, unless that is its beginning. -/
theorem straddles_cons_of_long {place : Nat} {char : Char} {rest : List Char}
    (hlong : place < (String.utf8EncodeChar char).length) :
    Straddles place (char :: rest) ↔ 0 < place := by
  constructor
  · rintro ⟨before, after, crossed, -, starts, -⟩
    exact Nat.zero_lt_of_lt starts
  · intro hplace
    refine .at [] rest char rfl hplace ?_
    rw [List.nil_append, length_encode_cons]
    omega

/-- A text that is cut is shown up to the cut, and what is left of a character as one sign. -/
theorem decode_take_encode (limit : Nat) (chars : List Char) :
    (Straddles limit chars →
      decode ((encode chars).take limit) = fitting limit chars ++ [replacement]) ∧
    (¬ Straddles limit chars → decode ((encode chars).take limit) = fitting limit chars) := by
  induction chars generalizing limit with
  | nil =>
      have hnone : ¬ Straddles limit [] := by
        rintro ⟨before, after, char, split, -, -⟩
        exact List.append_ne_nil_of_right_ne_nil before (List.cons_ne_nil char after) split.symm
      exact ⟨fun straddles => absurd straddles hnone, fun _ => by simp [fitting]⟩
  | cons char rest ih =>
      rw [fitting, encode_cons]
      by_cases hfits : (String.utf8EncodeChar char).length ≤ limit
      · rw [if_pos hfits, straddles_cons_of_fits hfits, List.take_append,
          List.take_of_length_le hfits, decode, resume_utf8EncodeChar_append]
        obtain ⟨hcut, hwhole⟩ := ih (limit - (String.utf8EncodeChar char).length)
        exact ⟨fun straddles => congrArg (char :: ·) (hcut straddles),
          fun whole => congrArg (char :: ·) (hwhole whole)⟩
      · have hlong := Nat.lt_of_not_le hfits
        rw [if_neg hfits, straddles_cons_of_long hlong,
          List.take_append_of_le_length (Nat.le_of_lt hlong)]
        refine ⟨fun hplace => decode_encode_append_take [] char hplace hlong, fun hplace => ?_⟩
        rw [Nat.eq_zero_of_not_pos hplace, List.take_zero, decode_nil]

end Utf8

/-! ## Paths that are shown -/

structure ShownCut (chars : List Char) (shown : String) : Prop where
  whole : (Utf8.encode chars).length ≤ pathCapacity → shown = String.ofList chars
  cut : pathCapacity < (Utf8.encode chars).length →
    ∃ kept, Utf8.LongestFit pathCapacity chars kept ∧
      (Utf8.Straddles pathCapacity chars →
        shown = String.ofList (kept ++ [Utf8.replacement])) ∧
      (¬ Utf8.Straddles pathCapacity chars → shown = String.ofList kept)

namespace PathSlot

structure ShownIn (slot : PathSlot) (event : Event) (record : Record) : Prop where
  cwd_eq : event.cwd = slot → record.cwd = Utf8.text slot.contents
  exe_eq : event.exe = slot → record.exe = Utf8.text slot.contents

theorem shownIn (slot : PathSlot) {event : Event} {record : Record}
    (h : Record.ofEvent event = .ok record) : slot.ShownIn event record := by
  have cuts := Record.cutsInRange h
  constructor
  · rintro rfl
    exact Option.some.inj (cuts.cwd_cut.symm.trans event.cwd.cut?_eq)
  · rintro rfl
    exact Option.some.inj (cuts.exe_cut.symm.trans event.exe.cut?_eq)

theorem shownCut_store (slot : PathSlot) (chars : List Char) :
    ShownCut chars (Utf8.text (slot.store (Utf8.encode chars)).contents) := by
  rw [contents_store]
  constructor
  · intro hfits
    rw [List.take_of_length_le hfits, Utf8.text_encode]
  · intro _
    obtain ⟨hcut, hwhole⟩ := Utf8.decode_take_encode pathCapacity chars
    exact ⟨Utf8.fitting pathCapacity chars, Utf8.longestFit_fitting pathCapacity chars,
      fun straddles => congrArg String.ofList (hcut straddles),
      fun whole => congrArg String.ofList (hwhole whole)⟩

/--
Whatever a slot held, it keeps the beginning of the string that is stored in it, as long as the
stored length says. Storing that again changes nothing, and a reader is shown the whole characters
of it and a sign for one that is cut.
-/
theorem stored_path_shown (slot : PathSlot) (source : List UInt8) :
    (slot.store source).contents = source.take (min source.length pathCapacity) ∧
    (slot.store source).contents.length = storedLength source.length ∧
    (slot.store source).length.toNat = storedLength source.length ∧
    (slot.store source).store (slot.store source).contents = slot.store source ∧
    (Utf8.Valid source → ∃ chars, source = Utf8.encode chars ∧
      ShownCut chars (Utf8.text (slot.store source).contents)) ∧
    ∀ event record, Record.ofEvent event = .ok record →
      (slot.store source).ShownIn event record := by
  refine ⟨?_, ?_, length_store slot source, store_contents_store slot source, ?_, ?_⟩
  · rw [contents_store, List.take_eq_take_iff]
    omega
  · rw [contents_store, List.length_take, Nat.min_comm, storedLength]
  · intro valid
    obtain ⟨chars, rfl⟩ := Utf8.valid_iff.mp valid
    exact ⟨chars, rfl, shownCut_store slot chars⟩
  · intro event record h
    exact shownIn _ h

/-- 255 letters, and then one of two bytes. -/
def cutPath : List Char :=
  List.replicate 255 'a' ++ ['é', 'b']

theorem length_encode_letters (count : Nat) :
    (Utf8.encode (List.replicate count 'a')).length = count := by
  induction count with
  | zero => rfl
  | succ count ih =>
      rw [List.replicate_succ, Utf8.length_encode_cons, ih]
      exact Nat.add_comm 1 count

/-- The letter that is cut is shown as one sign, also where a longer path stood before. -/
theorem cutPath_shown :
    Utf8.Valid (Utf8.encode cutPath) ∧
      Utf8.text ((zero.store (List.replicate 300 0x2F)).store (Utf8.encode cutPath)).contents =
        String.ofList (List.replicate 255 'a' ++ [Utf8.replacement]) := by
  have valid : Utf8.Valid (Utf8.encode cutPath) := Utf8.valid_iff.mpr ⟨cutPath, rfl⟩
  obtain ⟨-, -, -, -, hshown, -⟩ :=
    stored_path_shown (zero.store (List.replicate 300 0x2F)) (Utf8.encode cutPath)
  obtain ⟨chars, hchars, shown⟩ := hshown valid
  obtain rfl := Utf8.encode_inj.mp hchars
  have hbefore : (Utf8.encode (List.replicate 255 'a')).length = 255 := length_encode_letters 255
  have hbehind : (Utf8.encode (List.replicate 255 'a' ++ ['é'])).length = 257 := by
    rw [Utf8.encode_append, List.length_append, hbefore]
    rfl
  have hlength : (Utf8.encode cutPath).length = 258 := by
    rw [cutPath, Utf8.encode_append, List.length_append, hbefore]
    rfl
  have hcapacity : pathCapacity = 256 := rfl
  have straddles : Utf8.Straddles pathCapacity cutPath :=
    .at (List.replicate 255 'a') ['b'] 'é' rfl (by omega) (by omega)
  obtain ⟨kept, longest, hcut, -⟩ := shown.cut (by omega)
  have hkept : kept = List.replicate 255 'a' :=
    longest.unique (Utf8.longestFit_append (by omega) (by omega))
  rw [hcut straddles, hkept]
  exact ⟨valid, rfl⟩

end PathSlot

end BindTrace
