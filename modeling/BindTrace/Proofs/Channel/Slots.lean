import BindTrace.Channel.Session

/-! # Slots by name

Names are distinct, so a name stands for one slot at most: closing it takes one
slot away, and keeping a slot under it takes the place of what was there.
-/

namespace BindTrace

namespace Session

def Distinct (session : Session) : Prop :=
  (session.slots.map Prod.fst).Nodup

section Slots

variable {session : Session} {name other : String} {slot old : OpenSlot}

theorem slot?_close_self : (session.close name).slot? name = none := by
  rw [slot?, close, List.lookup_eq_none_iff]
  intro entry hentry
  rw [bne_comm]
  exact (List.mem_filter.mp hentry).2

theorem slot?_close_of_ne (h : other ≠ name) :
    (session.close name).slot? other = session.slot? other := by
  change (session.slots.filter _).lookup other = session.slots.lookup other
  induction session.slots with
  | nil => rfl
  | cons entry rest ih =>
      obtain ⟨key, slot⟩ := entry
      by_cases hkey : key = name
      · subst hkey
        rw [List.filter_cons_of_neg (by simp), ih, List.lookup_cons,
          beq_eq_false_iff_ne.mpr h]
      · rw [List.filter_cons_of_pos (by simpa using hkey), List.lookup_cons, List.lookup_cons, ih]

theorem slot?_keep_self : (session.keep name slot).slot? name = some slot := by
  rw [slot?, keep, List.lookup_cons_self]

theorem slot?_keep_of_ne (h : other ≠ name) :
    (session.keep name slot).slot? other = session.slot? other := by
  have hclosed : (session.close name).slots.lookup other = session.slot? other :=
    slot?_close_of_ne h
  rw [slot?, keep, List.lookup_cons, beq_eq_false_iff_ne.mpr h]
  exact hclosed

/-- It makes no difference if a name is closed before a slot is kept under it. -/
theorem keep_close (ring : ByteRing) :
    keep { session.close name with ring := ring } name slot =
      keep { session with ring := ring } name slot := by
  simp [keep, close]

theorem not_mem_close : name ∉ (session.close name).slots.map Prod.fst := by
  intro h
  obtain ⟨entry, hentry, hname⟩ := List.mem_map.mp h
  have hother := (List.mem_filter.mp hentry).2
  simp [hname] at hother

theorem Distinct.close (distinct : session.Distinct) (name : String) :
    (session.close name).Distinct :=
  distinct.sublist (List.filter_sublist.map _)

theorem Distinct.keep (distinct : session.Distinct) (name : String) (slot : OpenSlot) :
    (session.keep name slot).Distinct :=
  List.nodup_cons.mpr ⟨not_mem_close, distinct.close name⟩

theorem length_keep :
    (session.keep name slot).slots.length = (session.close name).slots.length + 1 := rfl

/-- Names are distinct, so a name stands for one slot. -/
theorem length_close_of_some (distinct : session.Distinct) (hslot : session.slot? name = some old) :
    (session.close name).slots.length + 1 = session.slots.length := by
  obtain ⟨ring, slots⟩ := session
  change (slots.filter _).length + 1 = slots.length
  change (slots.map Prod.fst).Nodup at distinct
  change slots.lookup name = some old at hslot
  induction slots with
  | nil => cases hslot
  | cons entry rest ih =>
      obtain ⟨key, slot⟩ := entry
      obtain ⟨hfresh, hrest⟩ := List.nodup_cons.mp distinct
      by_cases hkey : key = name
      · subst hkey
        have hkept : rest.filter (fun entry => entry.1 != key) = rest := by
          rw [List.filter_eq_self]
          intro entry hentry
          rw [bne_iff_ne]
          intro hsame
          exact hfresh (List.mem_map.mpr ⟨entry, hentry, hsame⟩)
        rw [List.filter_cons_of_neg (by simp), hkept, List.length_cons]
      · rw [List.lookup_cons, beq_eq_false_iff_ne.mpr (Ne.symm hkey)] at hslot
        rw [List.filter_cons_of_pos (by simpa using hkey), List.length_cons, List.length_cons,
          ih hrest hslot]

theorem length_close_of_none (hslot : session.slot? name = none) :
    (session.close name).slots.length = session.slots.length := by
  have hkept : (session.close name).slots = session.slots := by
    rw [close, List.filter_eq_self]
    intro entry hentry
    rw [bne_comm]
    exact List.lookup_eq_none_iff.mp hslot entry hentry
  rw [hkept]

end Slots

end Session

end BindTrace
