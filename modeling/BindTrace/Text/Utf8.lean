/-!
# Reading bytes as text

`Utf8.decode` reads a byte string as UTF-8 and never fails: each longest run of bytes that begins
a character but does not finish one, and each byte that begins none, reads as one replacement
character U+FFFD.  The reader looks at one byte at a time and remembers what the bytes before it
have begun.
-/

namespace BindTrace

namespace Utf8

def replacement : Char := '\uFFFD'

/-- A character whose first bytes have been read and whose next byte is still to come. -/
structure Begun where
  code : Nat
  low : Nat
  high : Nat
  owed : Nat

/--
What a first byte of a longer character begins.  The bounds on the second byte leave out
surrogates, code points past U+10FFFF and encodings longer than needed.
-/
def lead? (byte : Nat) : Option Begun :=
  if 0xC2 ≤ byte ∧ byte ≤ 0xDF then some ⟨byte - 0xC0, 0x80, 0xBF, 0⟩
  else if byte = 0xE0 then some ⟨0, 0xA0, 0xBF, 1⟩
  else if byte = 0xED then some ⟨0xD, 0x80, 0x9F, 1⟩
  else if 0xE1 ≤ byte ∧ byte ≤ 0xEF then some ⟨byte - 0xE0, 0x80, 0xBF, 1⟩
  else if byte = 0xF0 then some ⟨0, 0x90, 0xBF, 2⟩
  else if 0xF1 ≤ byte ∧ byte ≤ 0xF3 then some ⟨byte - 0xF0, 0x80, 0xBF, 2⟩
  else if byte = 0xF4 then some ⟨4, 0x80, 0x8F, 2⟩
  else none

/-- Reads a byte where a character starts: what it completes, and what it begins. -/
def start (byte : Nat) : List Char × Option Begun :=
  if byte < 0x80 then ([Char.ofNat byte], none)
  else
    match lead? byte with
    | some begun => ([], some begun)
    | none => ([replacement], none)

def resume : Option Begun → List UInt8 → List Char
  | none, [] => []
  | some _, [] => [replacement]
  | none, byte :: rest =>
      let step := start byte.toNat
      step.1 ++ resume step.2 rest
  | some begun, byte :: rest =>
      if begun.low ≤ byte.toNat ∧ byte.toNat ≤ begun.high then
        let code := begun.code * 64 + (byte.toNat - 0x80)
        match begun.owed with
        | 0 => Char.ofNat code :: resume none rest
        | owed + 1 => resume (some ⟨code, 0x80, 0xBF, owed⟩) rest
      else
        let step := start byte.toNat
        replacement :: (step.1 ++ resume step.2 rest)

/-- The characters of a byte string, with U+FFFD for what is no text. -/
def decode (bytes : List UInt8) : List Char :=
  resume none bytes

def text (bytes : List UInt8) : String :=
  String.ofList (decode bytes)

end Utf8

end BindTrace
