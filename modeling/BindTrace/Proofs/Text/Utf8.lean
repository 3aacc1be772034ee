import BindTrace.Text.Utf8

/-! # Characters in bytes

The bytes of a character are a byte that stands alone, or a first byte and those
that it owes, each within the bounds that the bytes before it leave. The reader
takes them back to the character, and takes a front part of them, which is cut
off before it is complete, to one replacement character.
-/

namespace BindTrace

namespace Utf8

def encode (chars : List Char) : List UInt8 :=
  chars.flatMap String.utf8EncodeChar

def Valid (bytes : List UInt8) : Prop :=
  bytes.toByteArray.IsValidUTF8

theorem valid_iff {bytes : List UInt8} : Valid bytes ↔ ∃ chars, bytes = encode chars := by
  constructor
  · rintro ⟨chars, hbytes⟩
    have hdata := congrArg (fun array => array.data.toList) hbytes
    exact ⟨chars, by simpa [List.utf8Encode, encode] using hdata⟩
  · rintro ⟨chars, rfl⟩
    exact ⟨chars, rfl⟩

theorem Valid.encode_append {bytes : List UInt8} (valid : Valid bytes) (chars : List Char) :
    Valid (encode chars ++ bytes) := by
  obtain ⟨others, rfl⟩ := valid_iff.mp valid
  exact valid_iff.mpr ⟨chars ++ others, List.flatMap_append.symm⟩

@[simp]
theorem encode_nil : encode [] = [] := rfl

@[simp]
theorem encode_cons (char : Char) (chars : List Char) :
    encode (char :: chars) = String.utf8EncodeChar char ++ encode chars := rfl

@[simp]
theorem encode_append (left right : List Char) :
    encode (left ++ right) = encode left ++ encode right :=
  List.flatMap_append

/-! ## Bytes that complete a character -/

/-- The bytes of what has been begun lie in its bounds, are as many as it owes, and spell a code. -/
inductive Completes : Begun → List UInt8 → Nat → Prop
  | last {begun : Begun} {byte : UInt8} (low : begun.low ≤ byte.toNat)
      (high : byte.toNat ≤ begun.high) (owed : begun.owed = 0) :
      Completes begun [byte] (begun.code * 64 + (byte.toNat - 0x80))
  | next {begun : Begun} {byte : UInt8} {rest : List UInt8} {owed code : Nat}
      (low : begun.low ≤ byte.toNat) (high : byte.toNat ≤ begun.high)
      (howed : begun.owed = owed + 1)
      (onward : Completes ⟨begun.code * 64 + (byte.toNat - 0x80), 0x80, 0xBF, owed⟩ rest code) :
      Completes begun (byte :: rest) code

inductive Spells : Nat → List UInt8 → Prop
  | alone {byte : UInt8} (ascii : byte.toNat < 0x80) : Spells byte.toNat [byte]
  | begun {lead : UInt8} {begun : Begun} {rest : List UInt8} {code : Nat}
      (notAscii : 0x80 ≤ lead.toNat) (hlead : lead? lead.toNat = some begun)
      (completes : Completes begun rest code) : Spells code (lead :: rest)

theorem Completes.resume_append {begun : Begun} {bytes : List UInt8} {code : Nat}
    (completes : Completes begun bytes code) (rest : List UInt8) :
    resume (some begun) (bytes ++ rest) = Char.ofNat code :: resume none rest := by
  induction completes with
  | last low high owed =>
      rw [List.cons_append, List.nil_append, resume, if_pos ⟨low, high⟩]
      simp only [owed]
  | next low high howed _ ih =>
      rw [List.cons_append, resume, if_pos ⟨low, high⟩]
      simp only [howed]
      exact ih

theorem Completes.resume_take {begun : Begun} {bytes : List UInt8} {code : Nat}
    (completes : Completes begun bytes code) {count : Nat} (short : count < bytes.length) :
    resume (some begun) (bytes.take count) = [replacement] := by
  induction completes generalizing count with
  | last =>
      have hcount : count = 0 := Nat.lt_one_iff.mp short
      rw [hcount, List.take_zero, resume]
  | next low high howed _ ih =>
      cases count with
      | zero => rw [List.take_zero, resume]
      | succ count =>
          rw [List.take_succ_cons, resume, if_pos ⟨low, high⟩]
          simp only [howed]
          exact ih (Nat.lt_of_succ_lt_succ short)

theorem start_of_lead {byte : Nat} {begun : Begun} (notAscii : 0x80 ≤ byte)
    (hlead : lead? byte = some begun) : start byte = ([], some begun) := by
  rw [start, if_neg (Nat.not_lt.mpr notAscii), hlead]

/-- A character is read back from its bytes, whatever follows them. -/
theorem Spells.resume_append {code : Nat} {bytes : List UInt8} (spells : Spells code bytes)
    (rest : List UInt8) : resume none (bytes ++ rest) = Char.ofNat code :: resume none rest := by
  cases spells with
  | alone ascii =>
      rw [List.cons_append, List.nil_append, resume, start, if_pos ascii]
      rfl
  | begun notAscii hlead completes =>
      rw [List.cons_append, resume, start_of_lead notAscii hlead]
      exact completes.resume_append rest

/-- A character that is cut within its bytes reads as one replacement character. -/
theorem Spells.resume_take {code : Nat} {bytes : List UInt8} (spells : Spells code bytes)
    {count : Nat} (some_read : 0 < count) (short : count < bytes.length) :
    resume none (bytes.take count) = [replacement] := by
  obtain ⟨count, rfl⟩ := Nat.exists_eq_succ_of_ne_zero (Nat.ne_of_gt some_read)
  cases spells with
  | alone => exact absurd short (by simp)
  | begun notAscii hlead completes =>
      rw [List.take_succ_cons, resume, start_of_lead notAscii hlead]
      exact completes.resume_take (Nat.lt_of_succ_lt_succ short)

/-! ## Characters as bytes -/

theorem toNat_ofNat_byte {n : Nat} (h : n < 256) : (UInt8.ofNat n).toNat = n := by
  rw [UInt8.toNat_ofNat']
  exact Nat.mod_eq_of_lt h

/-- The last byte of a character holds its lowest six bits. -/
theorem Completes.of_last {code low high : Nat} (hlow : low ≤ code % 64 + 128)
    (hhigh : code % 64 + 128 ≤ high) :
    Completes ⟨code / 64, low, high, 0⟩ [UInt8.ofNat (code % 64 + 128)] code := by
  have hbyte : (UInt8.ofNat (code % 64 + 128)).toNat = code % 64 + 128 :=
    toNat_ofNat_byte (by omega)
  have hcode : code / 64 * 64 + ((UInt8.ofNat (code % 64 + 128)).toNat - 0x80) = code := by
    omega
  have completes : Completes ⟨code / 64, low, high, 0⟩ [UInt8.ofNat (code % 64 + 128)] _ :=
    .last (hbyte.symm ▸ hlow) (hbyte.symm ▸ hhigh) rfl
  rwa [hcode] at completes

/-- Each byte before it holds the lowest six bits of what is begun with it. -/
theorem Completes.of_next {code low high owed whole : Nat} {rest : List UInt8}
    (hlow : low ≤ code % 64 + 128) (hhigh : code % 64 + 128 ≤ high)
    (onward : Completes ⟨code, 0x80, 0xBF, owed⟩ rest whole) :
    Completes ⟨code / 64, low, high, owed + 1⟩ (UInt8.ofNat (code % 64 + 128) :: rest) whole := by
  have hbyte : (UInt8.ofNat (code % 64 + 128)).toNat = code % 64 + 128 :=
    toNat_ofNat_byte (by omega)
  have hcode : code / 64 * 64 + ((UInt8.ofNat (code % 64 + 128)).toNat - 0x80) = code := by
    omega
  refine .next (hbyte.symm ▸ hlow) (hbyte.symm ▸ hhigh) rfl ?_
  rwa [hcode]

theorem lead?_two (code : Nat) (first : 0x80 ≤ code) (last : code ≤ 0x7FF) :
    lead? (code / 64 + 192) = some ⟨code / 64, 0x80, 0xBF, 0⟩ := by
  rw [lead?, if_pos (by omega), Nat.add_sub_cancel]

/-- The bounds on the second of three bytes leave out short codes and surrogates. -/
theorem lead?_three (code : Nat) (first : 0x800 ≤ code) (last : code ≤ 0xFFFF)
    (scalar : code < 0xD800 ∨ 0xDFFF < code) :
    ∃ low high, lead? (code / 4096 + 224) = some ⟨code / 4096, low, high, 1⟩ ∧
      low ≤ code / 64 % 64 + 128 ∧ code / 64 % 64 + 128 ≤ high := by
  by_cases hshort : code / 4096 = 0
  · exact ⟨0xA0, 0xBF, by rw [hshort]; rfl, by omega, by omega⟩
  · by_cases hsurrogate : code / 4096 = 13
    · exact ⟨0x80, 0x9F, by rw [hsurrogate]; rfl, by omega, by omega⟩
    · refine ⟨0x80, 0xBF, ?_, by omega, by omega⟩
      rw [lead?, if_neg (by omega), if_neg (by omega), if_neg (by omega), if_pos (by omega),
        Nat.add_sub_cancel]

/-- Those on the second of four leave out short codes and what is past the last code point. -/
theorem lead?_four (code : Nat) (first : 0x10000 ≤ code) (last : code ≤ 0x10FFFF) :
    ∃ low high, lead? (code / 262144 + 240) = some ⟨code / 262144, low, high, 2⟩ ∧
      low ≤ code / 4096 % 64 + 128 ∧ code / 4096 % 64 + 128 ≤ high := by
  by_cases hshort : code / 262144 = 0
  · exact ⟨0x90, 0xBF, by rw [hshort]; rfl, by omega, by omega⟩
  · by_cases hlast : code / 262144 = 4
    · exact ⟨0x80, 0x8F, by rw [hlast]; rfl, by omega, by omega⟩
    · refine ⟨0x80, 0xBF, ?_, by omega, by omega⟩
      rw [lead?, if_neg (by omega), if_neg (by omega), if_neg (by omega), if_neg (by omega),
        if_neg (by omega), if_pos (by omega), Nat.add_sub_cancel]

/-- The bytes that encode a character spell its code point. -/
theorem spells_utf8EncodeChar (char : Char) : Spells char.toNat (String.utf8EncodeChar char) := by
  have hscalar : char.toNat < 0xD800 ∨ 0xDFFF < char.toNat ∧ char.toNat < 0x110000 := char.valid
  have hbytes : ∀ n, n ≤ 255 → (UInt8.ofNat n).toNat = n :=
    fun n hn => toNat_ofNat_byte (Nat.lt_succ_of_le hn)
  unfold String.utf8EncodeChar
  unfold Char.toNat at hscalar ⊢
  generalize char.val.toNat = code at hscalar ⊢
  dsimp only
  split
  · next hone =>
      have hbyte := hbytes code (by omega)
      have spells : Spells (UInt8.ofNat code).toNat [UInt8.ofNat code] := .alone (by omega)
      rwa [hbyte] at spells
  · split
    · next hone htwo =>
        have hsmall : code / 64 % 32 = code / 64 := Nat.mod_eq_of_lt (by omega)
        have hbyte := hbytes (code / 64 + 192) (by omega)
        have hlead := lead?_two code (by omega) htwo
        rw [hsmall]
        exact .begun (by omega) (hbyte.symm ▸ hlead) (.of_last (by omega) (by omega))
    · split
      · next hone htwo hthree =>
          have hsmall : code / 4096 % 16 = code / 4096 := Nat.mod_eq_of_lt (by omega)
          have hbyte := hbytes (code / 4096 + 224) (by omega)
          have hquotient : code / 64 / 64 = code / 4096 := Nat.div_div_eq_div_mul code 64 64
          obtain ⟨low, high, hlead, hlow, hhigh⟩ :=
            lead?_three code (by omega) hthree (by omega)
          rw [hsmall]
          rw [← hquotient] at hlead hbyte ⊢
          refine .begun (by omega) (hbyte.symm ▸ hlead) (.of_next hlow hhigh ?_)
          exact .of_last (by omega) (by omega)
      · next hone htwo hthree =>
          have hsmall : code / 262144 % 8 = code / 262144 := Nat.mod_eq_of_lt (by omega)
          have hbyte := hbytes (code / 262144 + 240) (by omega)
          have hquotient : code / 4096 / 64 = code / 262144 := Nat.div_div_eq_div_mul code 4096 64
          have hinner : code / 64 / 64 = code / 4096 := Nat.div_div_eq_div_mul code 64 64
          obtain ⟨low, high, hlead, hlow, hhigh⟩ :=
            lead?_four code (by omega) (by omega)
          rw [hsmall]
          rw [← hquotient] at hlead hbyte ⊢
          refine .begun (by omega) (hbyte.symm ▸ hlead) (.of_next hlow hhigh ?_)
          rw [← hinner]
          exact .of_next (by omega) (by omega) (.of_last (by omega) (by omega))

/-! ## Texts read back -/

theorem resume_utf8EncodeChar_append (char : Char) (rest : List UInt8) :
    resume none (String.utf8EncodeChar char ++ rest) = char :: resume none rest := by
  rw [(spells_utf8EncodeChar char).resume_append rest, Char.ofNat_toNat]

@[simp]
theorem decode_nil : decode [] = [] := rfl

theorem decode_encode_append (chars : List Char) (rest : List UInt8) :
    decode (encode chars ++ rest) = chars ++ decode rest := by
  induction chars with
  | nil => rfl
  | cons char chars ih =>
      rw [encode_cons, List.append_assoc, decode, resume_utf8EncodeChar_append, List.cons_append]
      exact congrArg (char :: ·) ih

@[simp]
theorem decode_encode (chars : List Char) : decode (encode chars) = chars := by
  simpa using decode_encode_append chars []

theorem text_encode (chars : List Char) : text (encode chars) = String.ofList chars :=
  congrArg String.ofList (decode_encode chars)

theorem text_encode_append (chars : List Char) (rest : List UInt8) :
    text (encode chars ++ rest) = String.ofList chars ++ text rest := by
  rw [text, decode_encode_append, String.ofList_append]
  rfl

/-- The bytes of a text are told by the text. -/
theorem encode_text {bytes : List UInt8} (valid : Valid bytes) :
    encode (text bytes).toList = bytes := by
  obtain ⟨chars, rfl⟩ := valid_iff.mp valid
  rw [text_encode, String.toList_ofList]

/-- A character of which a part follows a text reads as one replacement character. -/
theorem decode_encode_append_take (chars : List Char) (char : Char) {count : Nat}
    (some_read : 0 < count) (short : count < (String.utf8EncodeChar char).length) :
    decode (encode chars ++ (String.utf8EncodeChar char).take count) = chars ++ [replacement] := by
  rw [decode_encode_append, decode, (spells_utf8EncodeChar char).resume_take some_read short]

theorem encode_inj {left right : List Char} : encode left = encode right ↔ left = right := by
  constructor
  · intro h
    rw [← decode_encode left, h, decode_encode]
  · rintro rfl
    rfl

end Utf8

end BindTrace
