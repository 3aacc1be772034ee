/-! # Texts put together from pieces

A text that is joined from pieces by a sign which none of them contains tells
the pieces, and the digits of a number tell the number.
-/

namespace BindTrace

namespace Text

/-! ## Pieces -/

/-- Lists that are cut at the first of an element are equal only part by part. -/
theorem cut_inj {α : Type} {sign : α} {left left' right right' : List α} (hleft : sign ∉ left)
    (hleft' : sign ∉ left') (h : left ++ sign :: right = left' ++ sign :: right') :
    left = left' ∧ right = right' := by
  induction left generalizing left' with
  | nil =>
      cases left' with
      | nil => exact ⟨rfl, List.tail_eq_of_cons_eq h⟩
      | cons head' tail' =>
          have hhead : sign = head' := List.head_eq_of_cons_eq h
          exact absurd (hhead ▸ List.mem_cons_self) hleft'
  | cons head tail ih =>
      cases left' with
      | nil =>
          have hhead : head = sign := List.head_eq_of_cons_eq h
          exact absurd (hhead ▸ List.mem_cons_self) hleft
      | cons head' tail' =>
          obtain ⟨htail, hright⟩ := ih (fun hmem => hleft (List.mem_cons_of_mem _ hmem))
            (fun hmem => hleft' (List.mem_cons_of_mem _ hmem)) (List.tail_eq_of_cons_eq h)
          exact ⟨by rw [List.head_eq_of_cons_eq h, htail], hright⟩

/-- Texts that are cut at the first of a sign are equal only part by part. -/
theorem append_sign_inj {sign : Char} {left left' right right' : String}
    (hleft : sign ∉ left.toList) (hleft' : sign ∉ left'.toList)
    (h : left ++ String.singleton sign ++ right = left' ++ String.singleton sign ++ right') :
    left = left' ∧ right = right' := by
  have hchars := congrArg String.toList h
  simp only [String.toList_append, String.toList_singleton, List.append_assoc,
    List.singleton_append] at hchars
  obtain ⟨hl, hr⟩ := cut_inj hleft hleft' hchars
  exact ⟨String.toList_inj.mp hl, String.toList_inj.mp hr⟩

/-- What is joined by a sign that no piece contains tells its pieces. -/
theorem intercalate_inj {sign : Char} {left right : List String}
    (hleft : ∀ piece ∈ left, sign ∉ piece.toList) (hright : ∀ piece ∈ right, sign ∉ piece.toList)
    (left_ne_nil : left ≠ []) (right_ne_nil : right ≠ [])
    (h : (String.singleton sign).intercalate left = (String.singleton sign).intercalate right) :
    left = right := by
  have hchars := congrArg String.toList h
  rw [String.toList_intercalate, String.toList_intercalate, String.toList_singleton] at hchars
  have hpieces := congrArg (List.splitOn sign) hchars
  rw [List.splitOn_intercalate _ (by simpa using hleft) (by simpa using left_ne_nil),
    List.splitOn_intercalate _ (by simpa using hright) (by simpa using right_ne_nil)] at hpieces
  exact (List.map_inj_right fun _ _ => String.toList_inj.mp).mp hpieces

theorem not_mem_intercalate {sign : Char} {separator : String} {pieces : List String}
    (hseparator : sign ∉ separator.toList) (hpieces : ∀ piece ∈ pieces, sign ∉ piece.toList) :
    sign ∉ (separator.intercalate pieces).toList := by
  induction pieces with
  | nil => simp
  | cons piece rest ih =>
      have hrest := ih fun other hother => hpieces other (List.mem_cons_of_mem _ hother)
      have hpiece := hpieces piece List.mem_cons_self
      cases rest with
      | nil => rwa [String.intercalate_singleton]
      | cons next others =>
          rw [String.intercalate_cons_cons, String.toList_append, String.toList_append]
          simp only [List.mem_append, not_or]
          exact ⟨⟨hpiece, hseparator⟩, hrest⟩

/-- A sign that joins two pieces or more occurs in what is joined. -/
theorem mem_intercalate_cons_cons (sign : Char) (first second : String) (rest : List String) :
    sign ∈ ((String.singleton sign).intercalate (first :: second :: rest)).toList := by
  rw [String.intercalate_cons_cons, String.toList_append, String.toList_append,
    String.toList_singleton]
  exact List.mem_append_left _ (List.mem_append_right _ (List.mem_singleton_self sign))

/-! ## Digits -/

theorem digitChar_inj {m n : Nat} (hm : m < 16) (hn : n < 16)
    (h : Nat.digitChar m = Nat.digitChar n) : m = n := by
  have hall : ∀ a b : Fin 16, Nat.digitChar a = Nat.digitChar b → a = b := by decide
  exact congrArg Fin.val (hall ⟨m, hm⟩ ⟨n, hn⟩ h)

/-- A number past the digits has more than one of them. -/
theorem toDigits_ne_singleton {base n : Nat} (hbase : 1 < base) (hn : base ≤ n) (digit : Char) :
    Nat.toDigits base n ≠ [digit] := by
  intro h
  rw [Nat.toDigits_of_base_le hbase hn, List.append_eq_singleton_iff] at h
  rcases h with ⟨hinit, -⟩ | ⟨-, hlast⟩
  · exact Nat.toDigits_ne_nil hinit
  · exact List.cons_ne_nil _ _ hlast

/-- Numbers with the same digits are equal, also of a base past ten. -/
theorem toDigits_inj {base m n : Nat} (hbase : 1 < base) (hsmall : base ≤ 16)
    (h : Nat.toDigits base m = Nat.toDigits base n) : m = n := by
  have hdigit : ∀ k, k % base < 16 := fun k =>
    Nat.lt_of_lt_of_le (Nat.mod_lt k (by omega)) hsmall
  -- The last digit is the remainder, and those before it are the digits of the quotient.
  induction m using Nat.strongRecOn generalizing n with
  | ind m ih =>
      by_cases hm : m < base
      · rw [Nat.toDigits_of_lt_base hm] at h
        by_cases hn : n < base
        · rw [Nat.toDigits_of_lt_base hn] at h
          exact digitChar_inj (by omega) (by omega) (List.head_eq_of_cons_eq h)
        · exact absurd h.symm (toDigits_ne_singleton hbase (Nat.le_of_not_lt hn) _)
      · by_cases hn : n < base
        · rw [Nat.toDigits_of_lt_base hn] at h
          exact absurd h (toDigits_ne_singleton hbase (Nat.le_of_not_lt hm) _)
        · rw [Nat.toDigits_of_base_le hbase (Nat.le_of_not_lt hm),
            Nat.toDigits_of_base_le hbase (Nat.le_of_not_lt hn)] at h
          obtain ⟨hinit, hlast⟩ := List.append_inj' h rfl
          have hdiv := ih (m / base) (Nat.div_lt_self (by omega) hbase) hinit
          have hmod := digitChar_inj (hdigit m) (hdigit n) (List.head_eq_of_cons_eq hlast)
          rw [← Nat.div_add_mod m base, ← Nat.div_add_mod n base, hdiv, hmod]

/-- A sign that is no digit does not occur among the digits of a number. -/
theorem not_mem_toDigits {base : Nat} {sign : Char} (hbase : 1 < base)
    (hsign : ∀ digit, Nat.digitChar digit ≠ sign) (n : Nat) : sign ∉ Nat.toDigits base n := by
  induction n using Nat.strongRecOn with
  | ind n ih =>
      by_cases hn : n < base
      · rw [Nat.toDigits_of_lt_base hn, List.mem_singleton]
        exact fun h => hsign n h.symm
      · rw [Nat.toDigits_of_base_le hbase (Nat.le_of_not_lt hn), List.mem_append,
          List.mem_singleton]
        rintro (hinit | hlast)
        · exact ih (n / base) (Nat.div_lt_self (by omega) hbase) hinit
        · exact hsign _ hlast.symm

theorem toString_inj {m n : Nat} (h : toString m = toString n) : m = n := by
  rw [Nat.toString_eq_ofList_toDigits, Nat.toString_eq_ofList_toDigits] at h
  exact toDigits_inj (by decide) (by decide) (String.ofList_injective h)

theorem not_mem_toString {sign : Char} (hsign : ∀ digit, Nat.digitChar digit ≠ sign) (n : Nat) :
    sign ∉ (toString n).toList := by
  rw [Nat.toString_eq_ofList_toDigits, String.toList_ofList]
  exact not_mem_toDigits (by decide) hsign n

/-- A number begins with a digit. -/
theorem exists_digit_cons_toString (n : Nat) :
    ∃ digit rest, (toString n).toList = digit :: rest ∧ digit.isDigit := by
  rw [Nat.toString_eq_ofList_toDigits, String.toList_ofList]
  obtain ⟨digit, rest, hdigits⟩ := List.exists_cons_of_ne_nil (@Nat.toDigits_ne_nil n 10)
  have hmem : digit ∈ Nat.toDigits 10 n := by
    rw [hdigits]
    exact List.mem_cons_self
  exact ⟨digit, rest, hdigits, Nat.isDigit_of_mem_toDigits (by decide) (by decide) hmem⟩

end Text

end BindTrace
