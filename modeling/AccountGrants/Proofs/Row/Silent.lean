import AccountGrants.Proofs.Row.Divider
import AccountGrants.Proofs.Row.Quiet

/-!
Silent texts, which state neither a requirement nor an option. A row requires nothing exactly if no
blank follows REQUIRE in it (`requirement_eq_nil`), so a silent text stays silent with a divider or
a space and more silent text behind it.
-/

namespace AccountGrants.Row

open Text

/-! The requirement. -/

/-- No blank follows REQUIRE. -/
def LacksRequire (s : List Char) : Prop :=
  ∀ p d q, s = p ++ ("REQUIRE".toList ++ d :: q) → isBlank d = false

theorem LacksRequire.within {s t : List Char} (h : LacksRequire t) (hs : s <:+: t) :
    LacksRequire s := by
  obtain ⟨front, behind, rfl⟩ := hs
  rintro p d q rfl
  exact h (front ++ p) d (q ++ behind) (by simp only [List.append_assoc, List.cons_append])

theorem lacksRequire_cons {c : Char} {s : List Char} : LacksRequire (c :: s) ↔
    LacksRequire s ∧ ∀ d q, c :: s = "REQUIRE".toList ++ d :: q → isBlank d = false := by
  constructor
  · exact fun h => ⟨h.within (List.suffix_cons c s).isInfix, h []⟩
  · rintro ⟨hs, hhere⟩ p d q heq
    cases p with
    | nil => exact hhere d q heq
    | cons e p => exact hs p d q (List.cons.inj heq).2

theorem clauseHere?_eq_none {s : List Char} : clauseHere? s = none ↔
    ∀ d q, s = "REQUIRE".toList ++ d :: q → isBlank d = false := by
  constructor
  · rintro hnone d q rfl
    by_contra hblank
    have hsome : clauseHere? ("REQUIRE".toList ++ d :: q) = some (q.dropWhile isBlank) := by
      rw [clauseHere?, after?_eq_some.mpr rfl, Option.bind_some, afterGap?,
        if_pos (by simpa using hblank)]
    rw [hsome] at hnone
    cases hnone
  · intro h
    rw [Option.eq_none_iff_forall_ne_some]
    intro clause hsome
    obtain ⟨rest, hword, hgap⟩ := Option.bind_eq_some_iff.mp hsome
    obtain ⟨gap, rfl, ⟨hne, hblank⟩, -⟩ := afterGap?_eq_some.mp hgap
    cases gap with
    | nil => exact hne rfl
    | cons d gap =>
      have hink := h d (gap ++ clause) (after?_eq_some.mp hword)
      rw [hblank d List.mem_cons_self] at hink
      cases hink

/-- The clause of a text is that of the text behind its first character, or begins there. -/
theorem clause?_cons (c : Char) (s : List Char) : clause? (c :: s) =
    ((clauseOnLine? s).or (clauseHere? (c :: s))).or (clauseBelow? s) := by
  unfold clause?
  rw [clauseOnLine?, clauseBelow?]
  split
  next hbreak =>
    have hhere : clauseHere? ('\n' :: s) = none := rfl
    rw [hbreak, hhere, Option.or_none, Option.none_or]
  next => rfl

theorem clause?_eq_none {s : List Char} : clause? s = none ↔ LacksRequire s := by
  induction s with
  | nil =>
    refine iff_of_true rfl fun p d q h => ?_
    simp at h
  | cons c s ih =>
    rw [clause?_cons, lacksRequire_cons, ← ih, ← clauseHere?_eq_none, clause?,
      Option.or_eq_none_iff, Option.or_eq_none_iff, Option.or_eq_none_iff]
    exact and_right_comm

/-- A clause stands behind a gap. -/
theorem clause?_behind_gap {s clause : List Char} (h : clause? s = some clause) :
    ∃ gap, gap ++ clause <:+ s ∧ IsGap gap ∧ StartsInk clause := by
  induction s with
  | nil => cases h
  | cons c s ih =>
    have hlater : clause? s = some clause →
        ∃ gap, gap ++ clause <:+ c :: s ∧ IsGap gap ∧ StartsInk clause := by
      intro hs
      obtain ⟨gap, hsuffix, hgap, hink⟩ := ih hs
      exact ⟨gap, hsuffix.trans (List.suffix_cons c s), hgap, hink⟩
    rw [clause?_cons] at h
    rcases Option.or_eq_some_iff.mp h with hline | ⟨hnone, hbelow⟩
    · rcases Option.or_eq_some_iff.mp hline with hline | ⟨-, hhere⟩
      · exact hlater (by rw [clause?, hline]; rfl)
      · obtain ⟨rest, hword, hgap⟩ := Option.bind_eq_some_iff.mp hhere
        obtain ⟨gap, rfl, hgap, hink⟩ := afterGap?_eq_some.mp hgap
        exact ⟨gap, by rw [after?_eq_some.mp hword]; exact List.suffix_append _ _, hgap, hink⟩
    · refine hlater ?_
      rw [clause?, (Option.or_eq_none_iff.mp hnone).1, hbelow]
      rfl

/-- A row requires nothing exactly if no blank follows REQUIRE in it. -/
theorem requirement_eq_nil {s : List Char} (hs : EndsInk s) :
    requirement s = [] ↔ LacksRequire s := by
  rw [← clause?_eq_none, requirement_eq]
  cases hclause : clause? s with
  | none => exact iff_of_true rfl rfl
  | some clause =>
    refine iff_of_false ?_ (by simp)
    obtain ⟨gap, hsuffix, hgap, hink⟩ := clause?_behind_gap hclause
    cases clause with
    | nil =>
      rw [List.append_nil] at hsuffix
      obtain ⟨front, rfl⟩ := hsuffix
      have hends : EndsInk gap := endsInk_of_append hs
      exact absurd (List.dropWhile_eq_nil_iff.mpr hgap.2) (dropWhile_ne_nil_of_endsInk hends hgap.1)
    | cons c clause =>
      have hbreak : c ≠ '\n' := by
        rintro rfl
        cases hink _ rfl
      simp [hbreak]

section Append

variable {a b : List Char}

theorem LacksRequire.append_cons {c : Char} (ha : LacksRequire a) (hb : LacksRequire b)
    (hc : IsDivider c) : LacksRequire (a ++ c :: b) := by
  intro p d q h
  rcases append_cons_eq hc.require h with ⟨y, rfl⟩ | ⟨x, -, rfl⟩
  · rw [List.append_assoc, List.append_assoc, List.append_cancel_left_eq,
      List.append_cancel_left_eq] at h
    cases y with
    | nil =>
      cases h
      exact hc.ink
    | cons e y =>
      cases h
      exact ha p d y (by simp)
  · exact hb x d q rfl

/-- A space begins no requirement unless REQUIRE comes before it. -/
theorem LacksRequire.append_space (ha : LacksRequire a) (hb : LacksRequire b)
    (hends : ¬"REQUIRE".toList <:+ a) : LacksRequire (a ++ ' ' :: b) := by
  intro p d q h
  rcases append_cons_eq (by decide) h with ⟨y, rfl⟩ | ⟨x, -, rfl⟩
  · rw [List.append_assoc, List.append_assoc, List.append_cancel_left_eq,
      List.append_cancel_left_eq] at h
    cases y with
    | nil => exact absurd ⟨p, by simp⟩ hends
    | cons e y =>
      cases h
      exact ha p d y (by simp)
  · exact hb x d q rfl

end Append

/-! The option. -/

/-- A phrase that stands at the end of a text, or in front of what no word goes on with, still does
so with more text behind. -/
theorem optionHere_append {s : List Char} {d : Char} (h : optionHere s = true)
    (hd : isWordChar d = false) (q : List Char) : optionHere (s ++ d :: q) = true := by
  obtain ⟨phrase, hphrase, hafter⟩ := List.any_eq_true.mp h
  refine List.any_eq_true.mpr ⟨phrase, hphrase, ?_⟩
  cases hrest : after? phrase s with
  | none => simp [hrest] at hafter
  | some rest =>
    rw [hrest] at hafter
    obtain rfl := after?_eq_some.mp hrest
    rw [List.append_assoc, after?_eq_some.mpr rfl]
    cases rest with
    | nil => simp [hd]
    | cons e rest => exact hafter

theorem optionWithin_append_of_notWord {inWord : Bool} {s : List Char} {d : Char}
    (h : optionWithin inWord s = true) (hd : isWordChar d = false) (q : List Char) :
    optionWithin inWord (s ++ d :: q) = true := by
  induction s generalizing inWord with
  | nil => cases h
  | cons c s ih =>
    rw [optionWithin, Bool.or_eq_true, Bool.and_eq_true] at h
    rw [List.cons_append, optionWithin, Bool.or_eq_true, Bool.and_eq_true]
    rcases h with ⟨hword, hhere⟩ | hlater
    · exact Or.inl ⟨hword, optionHere_append hhere hd q⟩
    · exact Or.inr (ih hlater)

theorem after?_option_append_space {word : String} {a b : List Char} (hword : ' ' ∉ word.toList)
    (hb : ¬"OPTION".toList <+: b) :
    after? (word ++ " OPTION") (a ++ ' ' :: b) =
      (after? (word ++ " OPTION") a).map (· ++ ' ' :: b) := by
  have hchars : (word ++ " OPTION").toList = word.toList ++ ' ' :: "OPTION".toList := by simp
  cases hread : after? (word ++ " OPTION") a with
  | some rest =>
    obtain rfl := after?_eq_some.mp hread
    exact after?_eq_some.mpr (by simp)
  | none =>
    rw [Option.map_none, Option.eq_none_iff_forall_ne_some]
    intro rest hrest
    have hopens : word.toList ++ ' ' :: ("OPTION".toList ++ rest) = a ++ ' ' :: b := by
      rw [after?_eq_some.mp hrest, hchars, List.append_assoc, List.cons_append]
    obtain ⟨a, rfl, hbehind⟩ := append_cons_eq_of_start hword hopens
    cases a with
    | nil => exact hb ⟨rest, (List.cons.inj hbehind).2⟩
    | cons c a =>
      obtain ⟨rfl, hoption⟩ := List.cons.inj hbehind
      obtain ⟨a, rfl, -⟩ := append_cons_eq_of_start (by decide) hoption
      have hsome : after? (word ++ " OPTION") (word.toList ++ ' ' :: ("OPTION".toList ++ a)) =
          some a := after?_eq_some.mpr (by rw [hchars, List.append_assoc, List.cons_append])
      rw [hread] at hsome
      cases hsome

/-- No phrase reaches over a space that OPTION does not follow. -/
theorem optionHere_append_space {a b : List Char} (hb : ¬"OPTION".toList <+: b) :
    optionHere (a ++ ' ' :: b) = optionHere a := by
  have hphrase : ∀ word : String, ' ' ∉ word.toList →
      ((after? (word ++ " OPTION") (a ++ ' ' :: b)).any fun rest => !rest.head?.any isWordChar) =
        (after? (word ++ " OPTION") a).any fun rest => !rest.head?.any isWordChar := by
    intro word hword
    rw [after?_option_append_space hword hb]
    rcases after? (word ++ " OPTION") a with _ | _ | _ <;> rfl
  have hgrant := hphrase "GRANT" (by decide)
  have hadmin := hphrase "ADMIN" (by decide)
  simp only [optionHere, optionPhrases, List.any_cons, List.any_nil]
  exact congrArg₂ or hgrant (congrArg₂ or hadmin rfl)

theorem optionWithin_append_space {a b : List Char} (hb : ¬"OPTION".toList <+: b) (inWord : Bool) :
    optionWithin inWord (a ++ ' ' :: b) = (optionWithin inWord a || optionWithin false b) := by
  induction a generalizing inWord with
  | nil =>
    have hhere : optionHere (' ' :: b) = false := optionHere_append_space (a := []) hb
    have hspace : isWordChar ' ' = false := rfl
    simp [optionWithin, hhere, hspace]
  | cons d a ih =>
    have hhere : optionHere (d :: (a ++ ' ' :: b)) = optionHere (d :: a) :=
      optionHere_append_space (a := d :: a) hb
    rw [List.cons_append, optionWithin, optionWithin, hhere, ih, Bool.or_assoc]

theorem hasOption_append_space {a b : List Char} (hb : ¬"OPTION".toList <+: b) :
    hasOption (a ++ ' ' :: b) = (hasOption a || hasOption b) :=
  optionWithin_append_space hb false

/-! Both. -/

/-- A text that states neither a requirement nor an option. -/
structure IsSilent (s : List Char) : Prop where
  lacksRequire : LacksRequire s
  noOption : hasOption s = false

section Silent

variable {a b s : List Char} {c : Char}

theorem isSilent_of_lacks (hrequire : ¬"REQUIRE".toList <:+: s)
    (hoption : ¬"OPTION".toList <:+: s) : IsSilent s where
  lacksRequire := by
    rintro p d q rfl
    exact absurd ⟨p, d :: q, by simp only [List.append_assoc]⟩ hrequire
  noOption := optionWithin_eq_false false fun phrase hphrase hword =>
    (noOption_of_lacks hoption).phrases phrase hphrase hword

theorem IsSilent.append_cons (ha : IsSilent a) (hb : IsSilent b) (hc : IsDivider c) :
    IsSilent (a ++ c :: b) where
  lacksRequire := ha.lacksRequire.append_cons hb.lacksRequire hc
  noOption := by rw [hasOption_append_cons hc, ha.noOption, hb.noOption]; rfl

theorem IsSilent.append_space (ha : IsSilent a) (hb : IsSilent b)
    (hends : ¬"REQUIRE".toList <:+ a) (hopens : ¬"OPTION".toList <+: b) :
    IsSilent (a ++ ' ' :: b) where
  lacksRequire := ha.lacksRequire.append_space hb.lacksRequire hends
  noOption := by rw [hasOption_append_space hopens, ha.noOption, hb.noOption]; rfl

/-- A name between two marks is as silent as the name. -/
theorem IsSilent.marked (h : IsSilent s) (hc : IsDivider c) : IsSilent (c :: (s ++ [c])) := by
  have hempty : IsSilent [] := isSilent_of_lacks (by decide) (by decide)
  exact hempty.append_cons (h.append_cons hempty hc) hc

end Silent

end AccountGrants.Row
