import AccountGrants.Proofs.Text.Scan
import Mathlib.Data.List.Chain

/-!
Where a word can stand in a text that is put together from parts. A word that lacks the character
between two parts stands in one of the parts. In a list with a comma and a space between its items
no blank follows anything but a comma, save inside ALL PRIVILEGES. A text that is taken apart at
a character has one part more than it has of that character, and no part has it.
-/

namespace AccountGrants.Text

section Parts

variable {c : Char} {a b w : List Char}

/-- A word without the character between two parts lies in front of it or behind it. -/
theorem append_cons_eq {x y : List Char} (hc : c ∉ w) (h : a ++ c :: b = x ++ (w ++ y)) :
    (∃ y', a = x ++ (w ++ y')) ∨ ∃ x', x = a ++ c :: x' ∧ b = x' ++ (w ++ y) := by
  rcases List.append_eq_append_iff.mp h with ⟨u, rfl, hu⟩ | ⟨u, rfl, hu⟩
  · cases u with
    | nil =>
      cases w with
      | nil => exact Or.inl ⟨[], by simp⟩
      | cons d w =>
        cases hu
        exact absurd List.mem_cons_self hc
    | cons d u =>
      cases hu
      exact Or.inr ⟨u, rfl, rfl⟩
  · rcases List.append_eq_append_iff.mp hu with ⟨v, rfl, -⟩ | ⟨v, rfl, hv⟩
    · exact Or.inl ⟨v, rfl⟩
    · cases v with
      | nil => exact Or.inl ⟨[], by simp⟩
      | cons d v =>
        cases hv
        exact absurd (by simp) hc

/-- A word that a text begins with ends in front of a character that it lacks. -/
theorem append_cons_eq_of_start {x : List Char} (hc : c ∉ w) (h : w ++ x = a ++ c :: b) :
    ∃ a', a = w ++ a' ∧ x = a' ++ c :: b := by
  have hcut : a ++ c :: b = [] ++ (w ++ x) := h.symm
  rcases append_cons_eq hc hcut with ⟨a', rfl⟩ | ⟨x', hx, -⟩
  · refine ⟨a', rfl, ?_⟩
    rw [List.nil_append, List.append_assoc] at h
    exact List.append_cancel_left h
  · simp at hx

theorem infix_append_cons (hc : c ∉ w) : w <:+: a ++ c :: b ↔ w <:+: a ∨ w <:+: b := by
  constructor
  · rintro ⟨x, y, h⟩
    rw [List.append_assoc] at h
    rcases append_cons_eq hc h.symm with ⟨y', rfl⟩ | ⟨x', -, rfl⟩
    · exact Or.inl (List.infix_append' x w y')
    · exact Or.inr (List.infix_append' x' w y)
  · rintro (h | h)
    · exact h.trans List.infix_append_left
    · exact h.trans ((List.suffix_cons c b).isInfix.trans List.infix_append_right)

theorem infix_cons (hc : c ∉ w) (hne : w ≠ []) : w <:+: c :: b ↔ w <:+: b := by
  have hcons := infix_append_cons (a := []) (b := b) hc
  rw [List.nil_append, List.infix_nil] at hcons
  rw [hcons, or_iff_right hne]

theorem prefix_append_cons (hc : c ∉ w) (h : w <+: a ++ c :: b) : w <+: a := by
  obtain ⟨y, hy⟩ := h
  rcases List.append_eq_append_iff.mp hy with ⟨u, rfl, -⟩ | ⟨u, rfl, hu⟩
  · exact List.prefix_append w u
  · cases u with
    | nil => simp
    | cons d u =>
      cases hu
      exact absurd (by simp) hc

theorem not_prefix_cons (hc : c ∉ w) (hne : w ≠ []) : ¬w <+: c :: b :=
  fun h => hne (List.prefix_nil.mp (prefix_append_cons (a := []) hc h))

theorem suffix_append_cons (hc : c ∉ w) (h : w <:+ a ++ c :: b) : w <:+ b := by
  obtain ⟨x, hx⟩ := h
  rcases List.append_eq_append_iff.mp hx with ⟨u, -, rfl⟩ | ⟨u, -, hu⟩
  · cases u with
    | nil => exact absurd List.mem_cons_self hc
    | cons d u => exact ⟨u, by simp_all⟩
  · cases u with
    | nil => exact absurd (by rw [show w = c :: b from hu.symm]; simp) hc
    | cons d u =>
      cases hu
      exact List.suffix_append u w

/-- Two words with one character between them lie on one side of that character, or at it. -/
theorem phrase_infix_append_cons {u v : List Char} (hu : c ∉ u) (hv : c ∉ v)
    (h : u ++ c :: v <:+: a ++ c :: b) :
    u ++ c :: v <:+: a ∨ u ++ c :: v <:+: b ∨ (u <:+ a ∧ v <+: b) := by
  obtain ⟨x, y, h⟩ := h
  have hwhole : a ++ c :: b = x ++ (u ++ (c :: v ++ y)) := by
    rw [← h]
    simp only [List.append_assoc, List.cons_append]
  rcases append_cons_eq hu hwhole with ⟨y', rfl⟩ | ⟨x', -, rfl⟩
  · simp only [List.append_assoc, List.append_cancel_left_eq, List.cons_append] at hwhole
    cases y' with
    | nil =>
      cases hwhole
      exact Or.inr (Or.inr ⟨by simp, List.prefix_append v y⟩)
    | cons d y' =>
      obtain ⟨rfl, hrest⟩ := List.cons.inj hwhole
      obtain ⟨z, hz⟩ := prefix_append_cons hv ⟨y, hrest.symm⟩
      refine Or.inl ⟨x, z, ?_⟩
      rw [← hz]
      simp only [List.append_assoc, List.cons_append]
  · refine Or.inr (Or.inl ⟨x', y, ?_⟩)
    simp only [List.append_assoc]

end Parts

/-- A list of items with a comma and a space between them. -/
def commaList (items : List (List Char)) : List Char :=
  ", ".toList.intercalate items

@[simp]
theorem commaList_singleton (item : List Char) : commaList [item] = item := by
  simp [commaList]

theorem commaList_cons {item : List Char} {items : List (List Char)} (hne : items ≠ []) :
    commaList (item :: items) = item ++ ',' :: ' ' :: commaList items := by
  rw [commaList, List.intercalate_cons_of_ne_nil hne]
  simp [commaList]

theorem commaList_ne_nil {items : List (List Char)} (hne : items ≠ [])
    (h : ∀ item ∈ items, item ≠ []) : commaList items ≠ [] := by
  cases items with
  | nil => exact absurd rfl hne
  | cons item items =>
    by_cases hnil : items = []
    · rw [hnil, commaList_singleton]
      exact h item List.mem_cons_self
    · simp [commaList_cons hnil]

/-- No blank follows a character other than a comma or the L of ALL. -/
def Packed (s : List Char) : Prop :=
  s.IsChain fun c d => isBlank d = true → c = ',' ∨ c = 'L'

theorem packed_of_ink {s : List Char} (h : ∀ c ∈ s, isBlank c = false) : Packed s := by
  induction s with
  | nil => exact List.isChain_nil
  | cons c s ih =>
    refine List.isChain_cons.mpr ⟨?_, ih fun d hd => h d (List.mem_cons_of_mem c hd)⟩
    intro d hd hblank
    rw [h d (List.mem_cons_of_mem c (List.mem_of_mem_head? hd))] at hblank
    cases hblank

theorem Packed.append {s t : List Char} (hs : Packed s) (ht : Packed t) (hink : StartsInk t) :
    Packed (s ++ t) := by
  refine List.isChain_append.mpr ⟨hs, ht, ?_⟩
  intro c _ d hd hblank
  rw [hink d hd] at hblank
  cases hblank

theorem Packed.cons {c : Char} {s : List Char} (hs : Packed s) (hink : StartsInk s) :
    Packed (c :: s) :=
  Packed.append (s := [c]) (List.isChain_singleton c) hs hink

theorem Packed.no_blank {s p q : List Char} {c d : Char} (hs : Packed s)
    (h : s = p ++ c :: d :: q) (hc : c ≠ ',' ∧ c ≠ 'L') : isBlank d = false := by
  rw [h] at hs
  have hpair := (List.isChain_append_cons_cons.mp hs).2.1
  by_contra hblank
  rcases hpair (by simpa using hblank) with rfl | rfl
  · exact hc.1 rfl
  · exact hc.2 rfl

theorem startsInk_commaList {items : List (List Char)} (h : ∀ item ∈ items, StartsInk item) :
    StartsInk (commaList items) := by
  cases items with
  | nil => simp [commaList, StartsInk]
  | cons item items =>
    have hink := h item List.mem_cons_self
    by_cases hrest : items = []
    · rwa [hrest, commaList_singleton]
    · rw [commaList_cons hrest]
      cases item with
      | nil => exact startsInk_of_head rfl rfl
      | cons c item => exact startsInk_append hink (List.cons_ne_nil c item)

theorem packed_commaList {items : List (List Char)}
    (h : ∀ item ∈ items, StartsInk item ∧ Packed item) : Packed (commaList items) := by
  induction items with
  | nil => exact List.isChain_nil
  | cons item items ih =>
    obtain ⟨-, hitem⟩ := h item List.mem_cons_self
    have hrest : ∀ other ∈ items, StartsInk other ∧ Packed other :=
      fun other hother => h other (List.mem_cons_of_mem item hother)
    by_cases hne : items = []
    · rwa [hne, commaList_singleton]
    · have hink : StartsInk (commaList items) :=
        startsInk_commaList fun other hother => (hrest other hother).1
      have htail : Packed (',' :: ' ' :: commaList items) := by
        refine List.isChain_cons.mpr ⟨?_, (ih hrest).cons hink⟩
        exact fun _ _ _ => Or.inl rfl
      rw [commaList_cons hne]
      exact hitem.append htail (startsInk_of_head rfl rfl)

theorem mem_intercalate {sep : List Char} {items : List (List Char)} {c : Char}
    (h : c ∈ sep.intercalate items) : c ∈ sep ∨ ∃ item ∈ items, c ∈ item := by
  induction items with
  | nil => simp at h
  | cons item items ih =>
    by_cases hne : items = []
    · rw [hne, List.intercalate_singleton] at h
      exact Or.inr ⟨item, List.mem_cons_self, h⟩
    · rw [List.intercalate_cons_of_ne_nil hne, List.mem_append, List.mem_append] at h
      rcases h with (h | h) | h
      · exact Or.inr ⟨item, List.mem_cons_self, h⟩
      · exact Or.inl h
      · exact (ih h).imp_right fun ⟨other, hother, h⟩ =>
          ⟨other, List.mem_cons_of_mem item hother, h⟩

theorem mem_commaList {items : List (List Char)} {c : Char} (h : c ∈ commaList items) :
    c = ',' ∨ c = ' ' ∨ ∃ item ∈ items, c ∈ item := by
  rcases mem_intercalate h with h | h
  · have hsep : ", ".toList = [',', ' '] := rfl
    rw [hsep, List.mem_cons, List.mem_singleton] at h
    exact h.imp_right Or.inl
  · exact Or.inr (Or.inr h)

/-! Texts taken apart at a character. -/

theorem length_splitOn (a : Char) (s : List Char) :
    (s.splitOn a).length = s.count a + 1 := by
  induction s with
  | nil => simp
  | cons c s ih =>
    rw [List.splitOn_cons_eq_if_modifyHead, List.count_cons]
    split <;> simp [*]

theorem not_mem_of_mem_splitOn {a : Char} {s part : List Char} (h : part ∈ s.splitOn a) :
    a ∉ part ∧ ∀ c ∈ part, c ∈ s := by
  induction s generalizing part with
  | nil =>
    rw [List.splitOn_nil, List.mem_singleton] at h
    simp [h]
  | cons c s ih =>
    rw [List.splitOn_cons_eq_if_modifyHead] at h
    split at h
    next =>
      rcases List.mem_cons.mp h with rfl | h
      · simp
      · exact ⟨(ih h).1, fun d hd => List.mem_cons_of_mem c ((ih h).2 d hd)⟩
    next hne =>
      cases hrest : s.splitOn a with
      | nil => exact absurd hrest (List.splitOn_ne_nil a s)
      | cons first rest =>
        rw [hrest, List.modifyHead_cons] at h
        rw [hrest] at ih
        rcases List.mem_cons.mp h with rfl | h
        · obtain ⟨ha, hmem⟩ := ih List.mem_cons_self
          refine ⟨?_, fun d hd => ?_⟩
          · rw [List.mem_cons, not_or]
            exact ⟨fun heq => hne (by simp [heq]), ha⟩
          · rcases List.mem_cons.mp hd with rfl | hd
            · exact List.mem_cons_self
            · exact List.mem_cons_of_mem c (hmem d hd)
        · obtain ⟨ha, hmem⟩ := ih (List.mem_cons_of_mem first h)
          exact ⟨ha, fun d hd => List.mem_cons_of_mem c (hmem d hd)⟩

end AccountGrants.Text
