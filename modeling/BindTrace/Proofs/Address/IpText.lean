import BindTrace.Address.Text
import BindTrace.Proofs.Bytes.Slices
import BindTrace.Proofs.Text.Pieces

/-! # IP addresses told by their texts

The decimal form of an IPv4 address is joined by dots, and each form of an IPv6
address is joined by colons. The pieces tell which form it is: only a form that
leaves out zeros has an empty piece, and only one that ends in decimals a dot.
The groups that are left out are as many as are missing of eight.
-/

namespace BindTrace

namespace Ipv4

def decimals (address : Block 4) : List String :=
  address.toList.map fun byte => toString byte.toNat

theorem decimals_eq (address : Block 4) :
    decimals address = [toString address[0].toNat, toString address[1].toNat,
      toString address[2].toNat, toString address[3].toNat] := by
  apply List.ext_getElem
  · rw [decimals, List.length_map, Vector.length_toList]
    rfl
  · intro i hi _
    have hlt : i < 4 := by simpa [decimals] using hi
    match i, hlt with
    | 0, _ | 1, _ | 2, _ | 3, _ => simp [decimals]

theorem not_mem_decimals {sign : Char} (hsign : ∀ digit, Nat.digitChar digit ≠ sign)
    {address : Block 4} : ∀ piece ∈ decimals address, sign ∉ piece.toList := by
  intro piece hpiece
  obtain ⟨byte, -, rfl⟩ := List.mem_map.mp hpiece
  exact Text.not_mem_toString hsign byte.toNat

theorem not_mem_text {sign : Char} (hsign : ∀ digit, Nat.digitChar digit ≠ sign)
    (hdot : sign ≠ '.') (address : Block 4) : sign ∉ (text address).toList :=
  Text.not_mem_intercalate (by simpa using hdot) (not_mem_decimals hsign)

theorem dot_mem_text (address : Block 4) : '.' ∈ (text address).toList := by
  change '.' ∈ (".".intercalate (decimals address)).toList
  rw [decimals_eq]
  exact Text.mem_intercalate_cons_cons '.' _ _ _

theorem text_inj {left right : Block 4} (h : text left = text right) : left = right := by
  have hdot : ∀ digit, Nat.digitChar digit ≠ '.' := fun _ => Nat.digitChar_ne '.' rfl
  have hne : ∀ address, decimals address ≠ [] := by
    intro address
    rw [decimals_eq]
    exact List.cons_ne_nil _ _
  have hbytes : decimals left = decimals right :=
    Text.intercalate_inj (not_mem_decimals hdot) (not_mem_decimals hdot) (hne left) (hne right) h
  unfold decimals at hbytes
  rw [List.map_inj_right fun _ _ heq => UInt8.toNat_inj.mp (Text.toString_inj heq)] at hbytes
  exact Vector.toList_inj.mp hbytes

end Ipv4

namespace Ipv6

/-! ## Forms -/

inductive Form
  | mapped (v4 : Block 4)
  | full (groups : List Nat)
  | short (left right : List Nat)

/-- The pieces on one side of the zeros that are left out. -/
def side (groups : List Nat) : List String :=
  if groups = [] then [""] else groups.map hex

namespace Form

def pieces : Form → List String
  | mapped v4 => ["", "", "ffff", Ipv4.text v4]
  | full groups => groups.map hex
  | short left right => side left ++ "" :: side right

def groups : Form → List Nat
  | mapped v4 =>
      [0, 0, 0, 0, 0, 0xFFFF, 256 * v4[0].toNat + v4[1].toNat, 256 * v4[2].toNat + v4[3].toNat]
  | full groups => groups
  | short left right => left ++ List.replicate (8 - (left.length + right.length)) 0 ++ right

end Form

theorem v4_fits : 12 + 4 ≤ 16 := by
  decide

def form (address : Block 16) : Form :=
  if (groups address).take 6 = [0, 0, 0, 0, 0, 0xFFFF] then
    .mapped (address.slice 12 4 v4_fits)
  else
    let run := longestZeroRun (groups address)
    if run.2 ≤ 1 then .full (groups address)
    else .short ((groups address).take run.1) ((groups address).drop (run.1 + run.2))

theorem intercalate_side (groups : List Nat) : ":".intercalate (side groups) = joined groups := by
  unfold side
  split
  · next h =>
      rw [h]
      rfl
  · rfl

theorem side_of_ne_nil {groups : List Nat} (h : groups ≠ []) : side groups = groups.map hex :=
  if_neg h

theorem side_ne_nil (groups : List Nat) : side groups ≠ [] := by
  unfold side
  split
  · exact List.cons_ne_nil _ _
  · next h => exact fun hmap => h (List.map_eq_nil_iff.mp hmap)

/-- A text is joined from the pieces of its form. -/
theorem text_eq_pieces (address : Block 16) :
    text address = ":".intercalate (form address).pieces := by
  unfold text form
  dsimp only
  split
  · have hfront : "::ffff:" = "" ++ (":" ++ ("" ++ (":" ++ ("ffff" ++ ":")))) := by decide
    rw [Form.pieces, String.intercalate_cons_cons, String.intercalate_cons_cons,
      String.intercalate_cons_cons, String.intercalate_singleton, hfront]
    simp only [String.append_assoc]
  · split
    · rfl
    · have hcolons : "::" = ":" ++ ("" ++ ":") := by decide
      rw [Form.pieces, String.intercalate_append_of_ne_nil (side_ne_nil _) (List.cons_ne_nil _ _),
        String.intercalate_cons_of_ne_nil (side_ne_nil _), intercalate_side, intercalate_side,
        hcolons]
      simp only [String.append_assoc]

/-! ## Runs of zeros -/

theorem eq_zeroRun_append (groups : List Nat) :
    groups = List.replicate (zeroRun groups) 0 ++ groups.drop (zeroRun groups) := by
  induction groups with
  | nil => rfl
  | cons group rest ih =>
      by_cases hzero : group = 0
      · have hrun : zeroRun (group :: rest) = zeroRun rest + 1 := by simp [zeroRun, hzero]
        rw [hrun, List.replicate_succ, List.drop_succ_cons, List.cons_append, ← ih, hzero]
      · have hrun : zeroRun (group :: rest) = 0 := by simp [zeroRun, hzero]
        rw [hrun]
        rfl

/-- The longest run is a run of zeros where it says. -/
theorem eq_longestZeroRun_append (groups : List Nat) :
    groups = groups.take (longestZeroRun groups).1 ++
      List.replicate (longestZeroRun groups).2 0 ++
      groups.drop ((longestZeroRun groups).1 + (longestZeroRun groups).2) := by
  induction groups with
  | nil => rfl
  | cons group rest ih =>
      rw [longestZeroRun]
      split
      · rw [List.take_zero, List.nil_append, Nat.zero_add]
        exact eq_zeroRun_append (group :: rest)
      · rw [List.take_succ_cons, Nat.add_right_comm, List.drop_succ_cons, List.cons_append,
          List.cons_append, ← ih]

theorem groups_eq (address : Block 16) :
    groups address = [
      256 * address[0].toNat + address[1].toNat, 256 * address[2].toNat + address[3].toNat,
      256 * address[4].toNat + address[5].toNat, 256 * address[6].toNat + address[7].toNat,
      256 * address[8].toNat + address[9].toNat, 256 * address[10].toNat + address[11].toNat,
      256 * address[12].toNat + address[13].toNat,
      256 * address[14].toNat + address[15].toNat] := by
  simp [groups, List.range_succ]

theorem length_groups (address : Block 16) : (groups address).length = 8 := by
  rw [groups, List.length_map, List.length_range]

/-- An address has the groups that its form writes. -/
theorem groups_form (address : Block 16) : (form address).groups = groups address := by
  unfold form
  split
  · next hmapped =>
      rw [groups_eq] at hmapped ⊢
      simp only [List.take_succ_cons, List.take_zero, List.cons.injEq] at hmapped
      obtain ⟨h0, h1, h2, h3, h4, h5, -⟩ := hmapped
      rw [Form.groups, h0, h1, h2, h3, h4, h5]
      simp
  · dsimp only
    split
    · rfl
    · have hsplit := eq_longestZeroRun_append (groups address)
      have hlength := congrArg List.length hsplit
      rw [List.length_append, List.length_append, List.length_replicate, length_groups] at hlength
      rw [Form.groups, show 8 - _ = (longestZeroRun (groups address)).2 by omega]
      exact hsplit.symm

theorem word_inj {high low high' low' : UInt8}
    (h : 256 * high.toNat + low.toNat = 256 * high'.toNat + low'.toNat) :
    high = high' ∧ low = low' := by
  have hlow := low.toNat_lt
  have hlow' := low'.toNat_lt
  exact ⟨UInt8.toNat_inj.mp (by omega), UInt8.toNat_inj.mp (by omega)⟩

theorem groups_inj {left right : Block 16} (h : groups left = groups right) : left = right := by
  have hbytes : ∀ k (hk : k < 8),
      left[2 * k] = right[2 * k] ∧ left[2 * k + 1] = right[2 * k + 1] := by
    intro k hk
    have hgroup := List.map_inj_left.mp h k (List.mem_range.mpr hk)
    rw [Vector.getElem?_eq_getElem (by omega), Vector.getElem?_eq_getElem (by omega),
      Vector.getElem?_eq_getElem (by omega), Vector.getElem?_eq_getElem (by omega)] at hgroup
    exact word_inj hgroup
  refine Vector.ext fun i hi => ?_
  obtain ⟨heven, hodd⟩ := hbytes (i / 2) (by omega)
  rcases Nat.mod_two_eq_zero_or_one i with hmod | hmod
  · have hi : 2 * (i / 2) = i := by omega
    simpa only [hi] using heven
  · have hi : 2 * (i / 2) + 1 = i := by omega
    simpa only [hi] using hodd

/-! ## Pieces -/

theorem hex_ne_empty (group : Nat) : hex group ≠ "" := by
  intro h
  have hchars := congrArg String.toList h
  rw [hex, String.toList_ofList] at hchars
  exact Nat.toDigits_ne_nil hchars

theorem not_mem_hex {sign : Char} (hsign : ∀ digit, Nat.digitChar digit ≠ sign) (group : Nat) :
    sign ∉ (hex group).toList := by
  rw [hex, String.toList_ofList]
  exact Text.not_mem_toDigits (by decide) hsign group

theorem map_hex_inj {left right : List Nat} (h : left.map hex = right.map hex) : left = right := by
  refine (List.map_inj_right fun m n heq => ?_).mp h
  exact Text.toDigits_inj (by decide) (by decide) (String.ofList_injective heq)

theorem empty_not_mem_map_hex (groups : List Nat) : "" ∉ groups.map hex := by
  intro hmem
  obtain ⟨group, -, hempty⟩ := List.mem_map.mp hmem
  exact hex_ne_empty group hempty

theorem side_inj {left right : List Nat} (h : side left = side right) : left = right := by
  unfold side at h
  split at h
  · next hleft =>
      split at h
      · next hright => rw [hleft, hright]
      · exact absurd (h ▸ List.mem_singleton_self "") (empty_not_mem_map_hex right)
  · split at h
    · exact absurd (h.symm ▸ List.mem_singleton_self "") (empty_not_mem_map_hex left)
    · exact map_hex_inj h

theorem not_mem_side {sign : Char} (hsign : ∀ digit, Nat.digitChar digit ≠ sign)
    {groups : List Nat} : ∀ piece ∈ side groups, sign ∉ piece.toList := by
  intro piece hpiece
  unfold side at hpiece
  split at hpiece
  · rw [List.mem_singleton.mp hpiece]
    exact List.not_mem_nil
  · obtain ⟨group, -, rfl⟩ := List.mem_map.mp hpiece
    exact not_mem_hex hsign group

namespace Form

/-- The pieces of a form that ends in no decimals are made of digits only. -/
theorem not_mem_pieces_of_ne_mapped {sign : Char} (hsign : ∀ digit, Nat.digitChar digit ≠ sign)
    {form : Form} (hmapped : ∀ v4, form ≠ mapped v4) :
    ∀ piece ∈ form.pieces, sign ∉ piece.toList := by
  intro piece hpiece
  cases form with
  | mapped v4 => exact absurd rfl (hmapped v4)
  | full groups =>
      obtain ⟨group, -, rfl⟩ := List.mem_map.mp hpiece
      exact not_mem_hex hsign group
  | short left right =>
      rcases List.mem_append.mp hpiece with hleft | hright
      · exact not_mem_side hsign piece hleft
      · rcases List.mem_cons.mp hright with rfl | hright
        · exact List.not_mem_nil
        · exact not_mem_side hsign piece hright

/-- The pieces of all forms are made of digits and dots. -/
theorem not_mem_pieces {sign : Char} (hsign : ∀ digit, Nat.digitChar digit ≠ sign)
    (hdot : sign ≠ '.') (form : Form) : ∀ piece ∈ form.pieces, sign ∉ piece.toList := by
  cases form with
  | mapped v4 =>
      intro piece hpiece
      simp only [pieces, List.mem_cons, List.not_mem_nil, or_false] at hpiece
      rcases hpiece with rfl | rfl | rfl | rfl
      · exact List.not_mem_nil
      · exact List.not_mem_nil
      · have hsame : sign ≠ 'f' := fun h => hsign 15 h.symm
        simpa using hsame
      · exact Ipv4.not_mem_text hsign hdot v4
  | full groups => exact not_mem_pieces_of_ne_mapped hsign nofun
  | short left right => exact not_mem_pieces_of_ne_mapped hsign nofun

/-- Only a form that ends in decimals has a dot. -/
theorem mapped_of_pieces_eq {v4 : Block 4} {form : Form} (h : (mapped v4).pieces = form.pieces) :
    ∃ other, form = mapped other := by
  by_cases hmapped : ∃ other, form = mapped other
  · exact hmapped
  · have hdot : ∀ piece ∈ form.pieces, '.' ∉ piece.toList :=
      not_mem_pieces_of_ne_mapped (fun _ => Nat.digitChar_ne '.' rfl)
        fun other heq => hmapped ⟨other, heq⟩
    have hmem : Ipv4.text v4 ∈ form.pieces := by
      rw [← h]
      simp [pieces]
    exact absurd (Ipv4.dot_mem_text v4) (hdot _ hmem)

/-- Only a form that leaves out zeros has an empty piece. -/
theorem full_ne_short {groups left right : List Nat} :
    (full groups).pieces ≠ (short left right).pieces := by
  intro h
  have hempty : "" ∈ (short left right).pieces := List.mem_append_right _ List.mem_cons_self
  rw [← h] at hempty
  exact empty_not_mem_map_hex groups hempty

/-- It begins with an empty piece exactly when nothing stands before the zeros. -/
theorem head?_pieces_short {left right : List Nat} :
    (short left right).pieces.head? = some "" ↔ left = [] := by
  cases left with
  | nil => simp [pieces, side]
  | cons group rest => simp [pieces, side, hex_ne_empty]

theorem short_inj {left left' right right' : List Nat}
    (h : (short left right).pieces = (short left' right').pieces) :
    left = left' ∧ right = right' := by
  have hsame : left = [] ↔ left' = [] := by
    rw [← @head?_pieces_short left right, h, head?_pieces_short]
  -- Behind written groups, the first empty piece is where the zeros are left out.
  by_cases hnil : left = []
  · rw [hnil, hsame.mp hnil] at h ⊢
    exact ⟨rfl, side_inj (List.tail_eq_of_cons_eq (List.tail_eq_of_cons_eq h))⟩
  · rw [pieces, pieces, side_of_ne_nil hnil,
      side_of_ne_nil fun hnil' => hnil (hsame.mpr hnil')] at h
    obtain ⟨hleft, hright⟩ :=
      Text.cut_inj (empty_not_mem_map_hex left) (empty_not_mem_map_hex left') h
    exact ⟨map_hex_inj hleft, side_inj hright⟩

/-- The pieces tell the form. -/
theorem pieces_inj {left right : Form} (h : left.pieces = right.pieces) : left = right := by
  cases left with
  | mapped v4 =>
      obtain ⟨other, rfl⟩ := mapped_of_pieces_eq h
      have htext : Ipv4.text v4 = Ipv4.text other := by simpa [pieces] using h
      rw [Ipv4.text_inj htext]
  | full groups =>
      cases right with
      | mapped v4 =>
          obtain ⟨other, hother⟩ := mapped_of_pieces_eq h.symm
          cases hother
      | full groups' => rw [map_hex_inj h]
      | short => exact absurd h full_ne_short
  | short before behind =>
      cases right with
      | mapped v4 =>
          obtain ⟨other, hother⟩ := mapped_of_pieces_eq h.symm
          cases hother
      | full => exact absurd h.symm full_ne_short
      | short before' behind' =>
          obtain ⟨hbefore, hbehind⟩ := short_inj h
          rw [hbefore, hbehind]

end Form

theorem pieces_form_ne_nil (address : Block 16) : (form address).pieces ≠ [] := by
  have hgroups : groups address ≠ [] := by
    rw [groups_eq]
    exact List.cons_ne_nil _ _
  unfold form
  split
  · exact List.cons_ne_nil _ _
  · dsimp only
    split
    · exact fun hnil => hgroups (List.map_eq_nil_iff.mp hnil)
    · exact List.append_ne_nil_of_right_ne_nil _ (List.cons_ne_nil _ _)

theorem not_mem_text {sign : Char} (hsign : ∀ digit, Nat.digitChar digit ≠ sign)
    (hdot : sign ≠ '.') (hcolon : sign ≠ ':') (address : Block 16) :
    sign ∉ (text address).toList := by
  rw [text_eq_pieces]
  exact Text.not_mem_intercalate (by simpa using hcolon) (Form.not_mem_pieces hsign hdot _)

/-- An address is told by its text. -/
theorem text_inj {left right : Block 16} (h : text left = text right) : left = right := by
  have hcolon : ∀ form : Form, ∀ piece ∈ form.pieces, ':' ∉ piece.toList :=
    Form.not_mem_pieces (fun _ => Nat.digitChar_ne ':' rfl) (by decide)
  rw [text_eq_pieces, text_eq_pieces] at h
  have hpieces := Text.intercalate_inj (hcolon _) (hcolon _)
    (pieces_form_ne_nil left) (pieces_form_ne_nil right) h
  have hgroups := congrArg Form.groups (Form.pieces_inj hpieces)
  rw [groups_form, groups_form] at hgroups
  exact groups_inj hgroups

end Ipv6

end BindTrace
