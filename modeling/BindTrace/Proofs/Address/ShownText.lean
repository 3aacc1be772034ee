import BindTrace.Proofs.Address.IpText
import BindTrace.Proofs.Record.Meaning
import BindTrace.Proofs.Text.Utf8
import Mathlib.Data.List.DropRight

/-! # Addresses told by what the log shows

The first sign of what is shown tells the shape of the address, and the rest
tells its fields, but for socket names: a path ends at its first NUL, and one
that begins with an at sign reads like an abstract name. An abstract name is cut
at its padding only, so two of them never read alike.
-/

namespace BindTrace

namespace Text

/-! ## Names in their blocks -/

theorem untilNul_eq_self {bytes : List UInt8} (h : 0 ∉ bytes) : untilNul bytes = bytes := by
  refine List.takeWhile_eq_self_iff.mpr fun byte hbyte => ?_
  have hne : byte ≠ 0 := fun hzero => h (hzero ▸ hbyte)
  simpa using hne

/-- The NULs that are cut off are as many as are missing. -/
theorem eq_dropPadding_append (bytes : List UInt8) :
    bytes = dropPadding bytes ++ List.replicate (bytes.length - (dropPadding bytes).length) 0 := by
  have hsplit : dropPadding bytes ++ bytes.rtakeWhile (· == 0) = bytes :=
    List.rdropWhile_append_rtakeWhile
  have hnul : ∀ byte ∈ bytes.rtakeWhile (· == 0), byte = 0 := fun byte hbyte => by
    simpa using List.mem_rtakeWhile_imp hbyte
  have hlength := congrArg List.length hsplit
  rw [List.length_append] at hlength
  rw [← hlength, Nat.add_sub_cancel_left, ← List.eq_replicate_of_mem hnul]
  exact hsplit.symm

/-- A name in a block of known size is told without its padding. -/
theorem dropPadding_inj {left right : List UInt8} (hlength : left.length = right.length)
    (h : dropPadding left = dropPadding right) : left = right := by
  rw [eq_dropPadding_append left, eq_dropPadding_append right, h, hlength]

end Text

namespace SocketAddress

/-! ## Shapes -/

inductive Shape
  | ipv4
  | ipv6
  | unix
  | familyOnly
deriving DecidableEq

def shape : SocketAddress → Shape
  | ipv4 _ _ => .ipv4
  | ipv6 _ _ => .ipv6
  | unix _ => .unix
  | familyOnly _ => .familyOnly

def Shape.ofSign (sign : Char) : Shape :=
  if sign = '[' then .ipv6
  else if sign = 'u' then .unix
  else if sign = '-' ∨ sign = 'f' then .familyOnly
  else .ipv4

theorem Shape.ofSign_of_isDigit {digit : Char} (h : digit.isDigit) : ofSign digit = .ipv4 := by
  have hne : ∀ sign : Char, sign.isDigit = false → digit ≠ sign := by
    rintro sign hsign rfl
    rw [h] at hsign
    cases hsign
  rw [ofSign, if_neg (hne '[' rfl), if_neg (hne 'u' rfl), if_neg]
  exact not_or.mpr ⟨hne '-' rfl, hne 'f' rfl⟩

/-- What is shown of an address begins with a sign of its shape. -/
theorem exists_sign_cons_text (address : SocketAddress) :
    ∃ sign rest, address.shown.text.toList = sign :: rest ∧ Shape.ofSign sign = address.shape := by
  cases address with
  | ipv4 v4 port =>
      obtain ⟨digit, rest, hfirst, hdigit⟩ := Text.exists_digit_cons_toString v4[0].toNat
      have htext : Ipv4.text v4 = ".".intercalate (Ipv4.decimals v4) := rfl
      rw [shown, ShownAddress.text, htext, Ipv4.decimals_eq, String.intercalate_cons_cons]
      simp only [String.toList_append, hfirst, List.cons_append]
      exact ⟨digit, _, rfl, Shape.ofSign_of_isDigit hdigit⟩
  | ipv6 v6 port =>
      simp only [shown, ShownAddress.text, String.toList_append]
      exact ⟨'[', _, rfl, rfl⟩
  | unix path =>
      simp only [shown, ShownAddress.text, String.toList_append]
      exact ⟨'u', _, rfl, rfl⟩
  | familyOnly number =>
      rw [shown, ShownAddress.text]
      split
      · exact ⟨'-', [], rfl, rfl⟩
      · rw [String.toList_append]
        exact ⟨'f', _, rfl, rfl⟩

theorem shape_eq_of_text_eq {left right : SocketAddress}
    (h : left.shown.text = right.shown.text) : left.shape = right.shape := by
  obtain ⟨sign, rest, htext, hshape⟩ := exists_sign_cons_text left
  obtain ⟨sign', rest', htext', hshape'⟩ := exists_sign_cons_text right
  rw [h, htext'] at htext
  rw [← hshape, ← hshape', List.head_eq_of_cons_eq htext]

/-! ## Addresses of one shape -/

theorem eq_of_toString_eq {left right : UInt16}
    (h : toString left.toNat = toString right.toNat) : left = right :=
  UInt16.toNat_inj.mp (Text.toString_inj h)

theorem ipv4_eq_of_text_eq {v4 v4' : Block 4} {port port' : UInt16}
    (h : (ipv4 v4 port).shown.text = (ipv4 v4' port').shown.text) :
    ipv4 v4 port = ipv4 v4' port' := by
  have hcolon : ∀ v4, ':' ∉ (Ipv4.text v4).toList :=
    Ipv4.not_mem_text (fun _ => Nat.digitChar_ne ':' rfl) (by decide)
  obtain ⟨hv4, hport⟩ := Text.append_sign_inj (hcolon v4) (hcolon v4') h
  rw [Ipv4.text_inj hv4, eq_of_toString_eq hport]

theorem ipv6_eq_of_text_eq {v6 v6' : Block 16} {port port' : UInt16}
    (h : (ipv6 v6 port).shown.text = (ipv6 v6' port').shown.text) :
    ipv6 v6 port = ipv6 v6' port' := by
  have hbracket : ∀ v6, ']' ∉ ("[" ++ Ipv6.text v6).toList := by
    intro v6
    rw [String.toList_append, List.mem_append, not_or]
    exact ⟨by decide,
      Ipv6.not_mem_text (fun _ => Nat.digitChar_ne ']' rfl) (by decide) (by decide) v6⟩
  have hclose : "]:" = String.singleton ']' ++ ":" := by decide
  have htext : ∀ v6 port, (ipv6 v6 port).shown.text =
      "[" ++ Ipv6.text v6 ++ String.singleton ']' ++ (":" ++ toString port.toNat) := by
    intro v6 port
    simp only [shown, ShownAddress.text, hclose, String.append_assoc]
  rw [htext, htext] at h
  obtain ⟨hv6, hport⟩ := Text.append_sign_inj (hbracket v6) (hbracket v6') h
  rw [Ipv6.text_inj ((String.append_right_inj _).mp hv6),
    eq_of_toString_eq ((String.append_right_inj _).mp hport)]

theorem familyOnly_eq_of_text_eq {number number' : UInt16}
    (h : (familyOnly number).shown.text = (familyOnly number').shown.text) :
    familyOnly number = familyOnly number' := by
  -- The dash is no text of another family.
  have hdash : ∀ text : String, "-" ≠ "family:" ++ text := by
    intro text heq
    have hchars := congrArg String.toList heq
    rw [String.toList_append] at hchars
    exact absurd (List.head_eq_of_cons_eq hchars) (by decide)
  simp only [shown, ShownAddress.text] at h
  split at h
  · next hzero =>
      split at h
      · next hzero' => rw [hzero, hzero']
      · exact absurd h (hdash _)
  · split at h
    · exact absurd h.symm (hdash _)
    · rw [eq_of_toString_eq ((String.append_right_inj _).mp h)]

/-! ## Socket names -/

/-- The bytes of a socket name: an abstract one between its NUL and the padding, or a path. -/
def nameBytes (path : Block unixPathSize) : List UInt8 :=
  if path[0]? = some 0 then Text.dropPadding (path.toList.drop 1) else Text.untilNul path.toList

/-- Those bytes, behind an at sign if the name is abstract. -/
def shownBytes (path : Block unixPathSize) : List UInt8 :=
  if path[0]? = some 0 then '@'.toUInt8 :: nameBytes path else nameBytes path

def Legible : SocketAddress → Prop
  | unix path => Utf8.Valid (nameBytes path)
  | _ => True

theorem getElem?_first {path : Block unixPathSize} : path[0]? = some 0 ↔ path[0] = 0 := by
  rw [Vector.getElem?_eq_getElem (by decide), Option.some.injEq]

theorem shownBytes_of_abstract {path : Block unixPathSize} (h : path[0] = 0) :
    shownBytes path = '@'.toUInt8 :: Text.dropPadding (path.toList.drop 1) := by
  have hfirst := getElem?_first.mpr h
  rw [shownBytes, nameBytes, if_pos hfirst, if_pos hfirst]

theorem shownBytes_of_path {path : Block unixPathSize} (h : path[0] ≠ 0) :
    shownBytes path = Text.untilNul path.toList := by
  have hfirst := mt getElem?_first.mp h
  rw [shownBytes, nameBytes, if_neg hfirst, if_neg hfirst]

theorem unixName_eq_text (path : Block unixPathSize) :
    unixName path.toList = Utf8.text (shownBytes path) := by
  by_cases h : path[0] = 0
  · have hsign : Utf8.encode ['@'] = ['@'.toUInt8] := by decide
    rw [shownBytes_of_abstract h, unixName_of_abstract h, ← List.singleton_append, ← hsign,
      Utf8.text_encode_append]
  · rw [shownBytes_of_path h, unixName_of_path h, nameText]

theorem valid_shownBytes {path : Block unixPathSize} (legible : (unix path).Legible) :
    Utf8.Valid (shownBytes path) := by
  unfold shownBytes
  split
  · exact Utf8.Valid.encode_append legible ['@']
  · exact legible

/-- Addresses that the log shows alike. -/
inductive ShownAlike : SocketAddress → SocketAddress → Prop
  | same (address : SocketAddress) : ShownAlike address address
  | paths {left right : Block unixPathSize} (leftPath : left[0] ≠ 0) (rightPath : right[0] ≠ 0)
      (agree : SameName left right) : ShownAlike (unix left) (unix right)
  | pathAbstract {path name : Block unixPathSize} (isPath : path[0] ≠ 0) (isAbstract : name[0] = 0)
      (agree : Text.untilNul path.toList =
        '@'.toUInt8 :: Text.dropPadding (name.toList.drop 1)) :
      ShownAlike (unix path) (unix name)
  | abstractPath {name path : Block unixPathSize} (isAbstract : name[0] = 0) (isPath : path[0] ≠ 0)
      (agree : Text.untilNul path.toList =
        '@'.toUInt8 :: Text.dropPadding (name.toList.drop 1)) :
      ShownAlike (unix name) (unix path)

theorem eq_of_abstract {left right : Block unixPathSize} (hleft : left[0] = 0)
    (hright : right[0] = 0)
    (h : Text.dropPadding (left.toList.drop 1) = Text.dropPadding (right.toList.drop 1)) :
    left = right := by
  have hlength : (left.toList.drop 1).length = (right.toList.drop 1).length := by simp
  have hbehind := Text.dropPadding_inj hlength h
  rw [← Vector.toList_inj, toList_of_abstract hleft, toList_of_abstract hright, hbehind]

theorem shownAlike_of_shownBytes_eq {left right : Block unixPathSize}
    (h : shownBytes left = shownBytes right) : ShownAlike (unix left) (unix right) := by
  by_cases hleft : left[0] = 0
  · rw [shownBytes_of_abstract hleft] at h
    by_cases hright : right[0] = 0
    · rw [shownBytes_of_abstract hright] at h
      rw [eq_of_abstract hleft hright (List.tail_eq_of_cons_eq h)]
      exact .same _
    · rw [shownBytes_of_path hright] at h
      exact .abstractPath hleft hright h.symm
  · rw [shownBytes_of_path hleft] at h
    by_cases hright : right[0] = 0
    · rw [shownBytes_of_abstract hright] at h
      exact .pathAbstract hleft hright h
    · rw [shownBytes_of_path hright] at h
      exact .paths hleft hright h

theorem text_unix_congr {left right : Block unixPathSize} (h : shownBytes left = shownBytes right) :
    (unix left).shown.text = (unix right).shown.text := by
  rw [shown, shown, unixName_eq_text, unixName_eq_text, h]

theorem ShownAlike.text_eq {left right : SocketAddress} (alike : ShownAlike left right) :
    left.shown.text = right.shown.text := by
  cases alike with
  | same => rfl
  | paths leftPath rightPath agree =>
      apply text_unix_congr
      rw [shownBytes_of_path leftPath, shownBytes_of_path rightPath]
      exact agree
  | pathAbstract isPath isAbstract agree =>
      apply text_unix_congr
      rw [shownBytes_of_path isPath, shownBytes_of_abstract isAbstract]
      exact agree
  | abstractPath isAbstract isPath agree =>
      apply text_unix_congr
      rw [shownBytes_of_path isPath, shownBytes_of_abstract isAbstract]
      exact agree.symm

/-- Only socket names that differ can be shown alike. -/
theorem eq_or_unix_of_text_eq {left right : SocketAddress}
    (h : left.shown.text = right.shown.text) :
    left = right ∨ ∃ path other, left = unix path ∧ right = unix other := by
  have hshape := shape_eq_of_text_eq h
  cases left with
  | ipv4 v4 port =>
      cases right with
      | ipv4 => exact .inl (ipv4_eq_of_text_eq h)
      | _ => cases hshape
  | ipv6 v6 port =>
      cases right with
      | ipv6 => exact .inl (ipv6_eq_of_text_eq h)
      | _ => cases hshape
  | unix path =>
      cases right with
      | unix other => exact .inr ⟨path, other, rfl, rfl⟩
      | _ => cases hshape
  | familyOnly number =>
      cases right with
      | familyOnly => exact .inl (familyOnly_eq_of_text_eq h)
      | _ => cases hshape

theorem family_eq_of_text_eq {left right : SocketAddress}
    (h : left.shown.text = right.shown.text) : left.family = right.family := by
  rcases eq_or_unix_of_text_eq h with rfl | ⟨path, other, rfl, rfl⟩
  · rfl
  · rfl

theorem shownAlike_of_text_eq {left right : SocketAddress} (hleft : left.Legible)
    (hright : right.Legible) (h : left.shown.text = right.shown.text) :
    ShownAlike left right := by
  rcases eq_or_unix_of_text_eq h with rfl | ⟨path, other, rfl, rfl⟩
  · exact .same _
  · have hname := (String.append_right_inj _).mp h
    rw [unixName_eq_text, unixName_eq_text] at hname
    -- Names that are text are told by the bytes of what is shown.
    have hbytes : shownBytes path = shownBytes other := by
      rw [← Utf8.encode_text (valid_shownBytes hleft), hname,
        Utf8.encode_text (valid_shownBytes hright)]
    exact shownAlike_of_shownBytes_eq hbytes

/-- A path without a NUL is shown to the end of its block. -/
theorem shownBytes_of_unterminated {path : Block unixPathSize} (h : 0 ∉ path.toList) :
    shownBytes path = path.toList := by
  have hpath : path[0] ≠ 0 := by
    intro hzero
    rw [toList_of_abstract hzero] at h
    exact h List.mem_cons_self
  rw [shownBytes_of_path hpath, Text.untilNul_eq_self h]

/--
Addresses whose names are text are shown alike only where a path ends at its first NUL or reads like
an abstract name.
-/
theorem shown_text_tells :
    (∀ left right : SocketAddress, left.Legible → right.Legible →
      (left.shown.text = right.shown.text ↔ ShownAlike left right)) ∧
    (∀ left right : Block unixPathSize, left[0] = 0 → right[0] = 0 →
      (unix left).Legible → (unix right).Legible → left ≠ right →
      (unix left).shown.text ≠ (unix right).shown.text) ∧
    (unix (Block.zero unixPathSize)).shown.text = "unix:@" ∧
    (∀ path : Block unixPathSize, 0 ∉ path.toList →
      (unix path).shown.text = "unix:" ++ Utf8.text path.toList ∧
      ((unix path).Legible → Utf8.encode (Utf8.text path.toList).toList = path.toList)) ∧
    ∀ left right : SocketAddress, left.shape ≠ right.shape ∨ left.family ≠ right.family →
      left.shown.text ≠ right.shown.text := by
  have htells : ∀ left right : SocketAddress, left.Legible → right.Legible →
      (left.shown.text = right.shown.text ↔ ShownAlike left right) :=
    fun _ _ hleft hright => ⟨shownAlike_of_text_eq hleft hright, ShownAlike.text_eq⟩
  refine ⟨htells, ?_, ?_, ?_, ?_⟩
  · intro left right hleft hright legible legible' hne h
    cases (htells _ _ legible legible').mp h with
    | same => exact hne rfl
    | paths leftPath => exact leftPath hleft
    | pathAbstract isPath => exact isPath hleft
    | abstractPath _ isPath => exact isPath hright
  · rfl
  · intro path hpath
    have hbytes := shownBytes_of_unterminated hpath
    refine ⟨?_, fun legible => ?_⟩
    · rw [← hbytes, ← unixName_eq_text]
      rfl
    · have valid := valid_shownBytes legible
      rw [hbytes] at valid
      exact Utf8.encode_text valid
  · intro left right hapart h
    rcases hapart with hshape | hfamily
    · exact hshape (shape_eq_of_text_eq h)
    · exact hfamily (family_eq_of_text_eq h)

/-- A path that reads like an abstract name. -/
def atPath : Block unixPathSize :=
  Block.ofPadded unixPathSize ['@'.toUInt8, 'x'.toUInt8]

def abstractName : Block unixPathSize :=
  Block.ofPadded unixPathSize [0, 'x'.toUInt8]

/-- An abstract name with a NUL in it. -/
def splitName : Block unixPathSize :=
  Block.ofPadded unixPathSize [0, 'x'.toUInt8, 0, 'y'.toUInt8]

def fullPath : Block unixPathSize :=
  Block.fill unixPathSize 'x'.toUInt8

/-- The path and the abstract name are shown alike, and the other names apart. -/
theorem atPath_shown :
    (unix atPath).shown.text = (unix abstractName).shown.text ∧
      (unix abstractName).shown.text ≠ (unix splitName).shown.text ∧
      (unix (Block.zero unixPathSize)).shown.text = "unix:@" ∧
      Utf8.encode (Utf8.text fullPath.toList).toList = fullPath.toList ∧
      (unix abstractName).shown.text ≠ (familyOnly 3).shown.text := by
  obtain ⟨htells, habstract, hzero, hwhole, hfamily⟩ := shown_text_tells
  have legible : ∀ {path : Block unixPathSize} (chars : List Char),
      nameBytes path = Utf8.encode chars → (unix path).Legible :=
    fun chars hbytes => Utf8.valid_iff.mpr ⟨chars, hbytes⟩
  have hatPath : (unix atPath).Legible := legible ['@', 'x'] (by decide)
  have hname : (unix abstractName).Legible := legible ['x'] (by decide)
  have hsplit : (unix splitName).Legible := legible ['x', '\x00', 'y'] (by decide)
  have hfull : (unix fullPath).Legible := legible (List.replicate 108 'x') (by decide +kernel)
  have hapart : abstractName ≠ splitName := fun h =>
    absurd (congrArg (fun name => name[3]) h) (by decide)
  refine ⟨?_, ?_, hzero, ?_, ?_⟩
  · exact (htells _ _ hatPath hname).mpr (.pathAbstract (by decide) (by decide) (by decide))
  · exact habstract _ _ (by decide) (by decide) hname hsplit hapart
  · exact (hwhole fullPath (by decide)).2 hfull
  · exact hfamily _ _ (.inr (by decide))

end SocketAddress

end BindTrace
