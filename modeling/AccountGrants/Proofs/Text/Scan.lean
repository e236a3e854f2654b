import AccountGrants.Text.Scan
import Mathlib.Data.List.Infix
import Mathlib.Data.List.TakeWhile

/-!
How scanning undoes writing: a fixed word, a gap of blanks, and marks around a name are passed over
exactly, whatever stands behind them.
-/

namespace AccountGrants.Text

/-- A text that does not begin with a blank. -/
def StartsInk (s : List Char) : Prop :=
  ∀ c ∈ s.head?, isBlank c = false

/-- A text that does not end with a blank. -/
def EndsInk (s : List Char) : Prop :=
  ∀ c ∈ s.getLast?, isBlank c = false

/-- At least one blank, and nothing but blanks. -/
def IsGap (s : List Char) : Prop :=
  s ≠ [] ∧ ∀ c ∈ s, isBlank c = true

/-- A text that begins with a blank, as it follows a word. -/
def StartsBlank (s : List Char) : Prop :=
  ∃ c rest, s = c :: rest ∧ isBlank c = true

theorem ne_of_isBlank {c d : Char} (hc : isBlank c = true) (hd : isBlank d = false) : c ≠ d := by
  rintro rfl
  rw [hc] at hd
  cases hd

/-- A text that lacks a character, as a scan up to that character tests it. -/
theorem forall_bne {a : Char} {s : List Char} (h : a ∉ s) : ∀ c ∈ s, (c != a) = true := by
  intro c hc
  exact bne_iff_ne.mpr fun heq => h (heq ▸ hc)

/-- A class that no character of a text belongs to, as it is computed. -/
theorem forall_eq_false {p : Char → Bool} {s : List Char} (h : (s.all fun c => !p c) = true) :
    ∀ c ∈ s, p c = false := by
  simpa using h

theorem isGap_space : IsGap [' '] := by
  refine ⟨by simp, ?_⟩
  simp only [List.mem_singleton, forall_eq]
  decide

theorem startsInk_of_head {s : List Char} {c : Char} (hhead : s.head? = some c)
    (hink : isBlank c = false) : StartsInk s := by
  intro d hd
  rw [hhead] at hd
  cases hd
  exact hink

theorem endsInk_of_last {s : List Char} {c : Char} (hlast : s.getLast? = some c)
    (hink : isBlank c = false) : EndsInk s := by
  intro d hd
  rw [hlast] at hd
  cases hd
  exact hink

theorem startsInk_append {s t : List Char} (h : StartsInk s) (hne : s ≠ []) :
    StartsInk (s ++ t) := by
  intro c hc
  rw [List.head?_append_of_ne_nil _ hne] at hc
  exact h c hc

theorem startsInk_of_append {s t : List Char} (h : StartsInk (s ++ t)) (hne : s ≠ []) :
    StartsInk s := by
  intro c hc
  exact h c (by rwa [List.head?_append_of_ne_nil _ hne])

theorem endsInk_append {s t : List Char} (h : EndsInk t) (hne : t ≠ []) : EndsInk (s ++ t) := by
  intro c hc
  rw [List.getLast?_append_of_ne_nil _ hne] at hc
  exact h c hc

theorem endsInk_of_append {s t : List Char} (h : EndsInk (s ++ t)) : EndsInk t := by
  intro c hc
  have hne : t ≠ [] := by rintro rfl; simp at hc
  exact h c (by rwa [List.getLast?_append_of_ne_nil _ hne])

theorem dropWhile_of_head {p : Char → Bool} {s : List Char} (h : ∀ c ∈ s.head?, p c = false) :
    s.dropWhile p = s := by
  cases s with
  | nil => rfl
  | cons c s => simp [h c rfl]

theorem head_dropWhile {p : Char → Bool} (s : List Char) :
    ∀ c ∈ (s.dropWhile p).head?, p c = false := by
  intro c hc
  have h := List.head?_dropWhile_not p s
  rw [Option.mem_def.mp hc] at h
  simpa using h

theorem dropWhile_append_all {p : Char → Bool} {s t : List Char} (hs : ∀ c ∈ s, p c = true)
    (ht : ∀ c ∈ t.head?, p c = false) : (s ++ t).dropWhile p = t := by
  rw [List.dropWhile_append_of_pos hs, dropWhile_of_head ht]

theorem takeWhile_append_all {p : Char → Bool} {s t : List Char} (hs : ∀ c ∈ s, p c = true)
    (ht : ∀ c ∈ t.head?, p c = false) : (s ++ t).takeWhile p = s := by
  rw [List.takeWhile_append_of_pos hs]
  cases t with
  | nil => simp
  | cons c t => simp [ht c rfl]

/-- What is taken off the ends of a text is also taken off what stands around it. -/
theorem strip_append_all {p : Char → Bool} {a s b : List Char} (ha : ∀ c ∈ a, p c = true)
    (hb : ∀ c ∈ b, p c = true) : strip p (a ++ s ++ b) = strip p s := by
  unfold strip
  rw [List.append_assoc, List.dropWhile_append_of_pos ha, List.dropWhile_append]
  split
  next hall =>
    rw [List.isEmpty_iff.mp hall, List.dropWhile_eq_nil_iff.mpr hb]
  next =>
    rw [List.reverse_append, List.dropWhile_append_of_pos (by simpa using hb)]

theorem strip_split (p : Char → Bool) (s : List Char) : ∃ a b, s = a ++ (strip p s ++ b) ∧
    (∀ c ∈ a, p c = true) ∧ ∀ c ∈ b, p c = true := by
  refine ⟨s.takeWhile p, ((s.dropWhile p).reverse.takeWhile p).reverse, ?_, ?_, ?_⟩
  · rw [strip, ← List.reverse_append, List.takeWhile_append_dropWhile, List.reverse_reverse,
      List.takeWhile_append_dropWhile]
  · exact fun c hc => List.mem_takeWhile_imp hc
  · exact fun c hc => List.mem_takeWhile_imp (List.mem_reverse.mp hc)

theorem strip_of_ink {p : Char → Bool} {s : List Char} (hhead : ∀ c ∈ s.head?, p c = false)
    (hlast : ∀ c ∈ s.getLast?, p c = false) : strip p s = s := by
  rw [strip, dropWhile_of_head hhead, dropWhile_of_head (by rwa [List.head?_reverse]),
    List.reverse_reverse]

theorem trim_of_ink {s : List Char} (hhead : StartsInk s) (hlast : EndsInk s) : trim s = s :=
  strip_of_ink hhead hlast

theorem last_strip (p : Char → Bool) (s : List Char) :
    ∀ c ∈ (strip p s).getLast?, p c = false := by
  intro c hc
  rw [strip, List.getLast?_reverse] at hc
  exact head_dropWhile _ c hc

theorem head_strip (p : Char → Bool) (s : List Char) :
    ∀ c ∈ (strip p s).head?, p c = false := by
  intro c hc
  obtain ⟨t, ht⟩ := List.dropWhile_suffix (l := (s.dropWhile p).reverse) p
  refine head_dropWhile s c ?_
  have hwhole : s.dropWhile p = strip p s ++ t.reverse := by
    rw [strip, ← List.reverse_append, ht, List.reverse_reverse]
  rw [hwhole, List.head?_append, Option.mem_def.mp hc]
  rfl

theorem strip_strip (p : Char → Bool) (s : List Char) : strip p (strip p s) = strip p s :=
  strip_of_ink (head_strip p s) (last_strip p s)

theorem startsInk_trim (s : List Char) : StartsInk (trim s) :=
  head_strip isBlank s

theorem endsInk_trim (s : List Char) : EndsInk (trim s) :=
  last_strip isBlank s

theorem after?_eq_some {word : String} {s rest : List Char} :
    after? word s = some rest ↔ s = word.toList ++ rest := by
  constructor
  · exact fun h => (List.append_eq_of_isPrefixOf?_eq_some h).symm
  · rintro rfl
    unfold after?
    induction word.toList with
    | nil => cases rest <;> rfl
    | cons c word ih => simp [List.isPrefixOf?, ih]

/-- No word begins in one text and ends in the blank that the next text begins with. -/
theorem after?_append {word : String} {s t : List Char}
    (hword : ∀ c ∈ word.toList, isBlank c = false) (ht : StartsBlank t) :
    after? word (s ++ t) = (after? word s).map (· ++ t) := by
  cases h : after? word s with
  | some rest =>
    obtain rfl := after?_eq_some.mp h
    exact after?_eq_some.mpr (by simp)
  | none =>
    rw [Option.map_none, Option.eq_none_iff_forall_ne_some]
    intro rest hrest
    rcases List.append_eq_append_iff.mp (after?_eq_some.mp hrest) with ⟨u, hs, hu⟩ | ⟨u, hs, -⟩
    · cases u with
      | nil =>
        rw [List.append_nil] at hs
        have hsome : after? word s = some [] := after?_eq_some.mpr (by rw [hs, List.append_nil])
        rw [h] at hsome
        cases hsome
      | cons c u =>
        obtain ⟨d, t', rfl, hd⟩ := ht
        cases hu
        have hink := hword c (by rw [hs]; simp)
        rw [hd] at hink
        cases hink
    · have hsome : after? word s = some u := after?_eq_some.mpr hs
      rw [h] at hsome
      cases hsome

theorem afterGap?_append {gap rest : List Char} (hgap : IsGap gap) (hrest : StartsInk rest) :
    afterGap? (gap ++ rest) = some rest := by
  obtain ⟨hne, hall⟩ := hgap
  cases gap with
  | nil => exact absurd rfl hne
  | cons c gap =>
    have hgap : ∀ d ∈ gap, isBlank d = true := fun d hd => hall d (List.mem_cons_of_mem _ hd)
    simp [afterGap?, hall c List.mem_cons_self, dropWhile_append_all hgap hrest]

theorem afterGap?_eq_some {s rest : List Char} :
    afterGap? s = some rest ↔ ∃ gap, s = gap ++ rest ∧ IsGap gap ∧ StartsInk rest := by
  constructor
  · intro h
    cases s with
    | nil => cases h
    | cons c s =>
      rw [afterGap?] at h
      split at h
      next hc =>
        cases Option.some.inj h
        refine ⟨c :: s.takeWhile isBlank, by simp, ⟨by simp, ?_⟩, head_dropWhile s⟩
        intro d hd
        rcases List.mem_cons.mp hd with rfl | hd
        · exact hc
        · exact List.mem_takeWhile_imp hd
      next => cases h
  · rintro ⟨gap, rfl, hgap, hrest⟩
    exact afterGap?_append hgap hrest

theorem dropWhile_ne_nil_of_endsInk {s : List Char} (hs : EndsInk s) (hne : s ≠ []) :
    s.dropWhile isBlank ≠ [] := by
  intro hall
  have hink := hs _ (List.getLast?_eq_some_getLast hne)
  rw [List.dropWhile_eq_nil_iff.mp hall _ (List.getLast_mem hne)] at hink
  cases hink

/-- A text that does not end with a blank keeps its gap whatever is written behind it. -/
theorem afterGap?_append_right {s : List Char} (hs : EndsInk s) (hne : s ≠ []) (t : List Char) :
    afterGap? (s ++ t) = (afterGap? s).map (· ++ t) := by
  cases s with
  | nil => exact absurd rfl hne
  | cons c s =>
    rw [List.cons_append, afterGap?, afterGap?]
    split
    next hc =>
      have hrest : s.dropWhile isBlank ≠ [] := by
        have hall := dropWhile_ne_nil_of_endsInk hs hne
        rwa [List.dropWhile_cons_of_pos hc] at hall
      rw [Option.map_some, List.dropWhile_append, if_neg (by simpa using hrest)]
    next => rfl

theorem takeWhile_append_right {s : List Char} (hs : EndsInk s) (hne : s ≠ []) (t : List Char) :
    (s ++ t).takeWhile isBlank = s.takeWhile isBlank := by
  rw [List.takeWhile_append, if_neg]
  intro hlen
  have hfull : s.takeWhile isBlank = s := (List.takeWhile_prefix _).eq_of_length hlen
  refine dropWhile_ne_nil_of_endsInk hs hne (List.dropWhile_eq_nil_iff.mpr ?_)
  exact List.takeWhile_eq_self_iff.mp hfull

theorem afterGap?_space {rest : List Char} (h : StartsInk rest) :
    afterGap? (' ' :: rest) = some rest :=
  afterGap?_append isGap_space h

end AccountGrants.Text
