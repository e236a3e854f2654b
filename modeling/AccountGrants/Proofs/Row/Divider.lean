import AccountGrants.Proofs.Row.Clause
import AccountGrants.Proofs.Row.Reading
import AccountGrants.Proofs.Text.Words

/-!
Marks that divide a row. No word that a row is searched for holds such a mark, so what the row
states is stated on one side of it: the option on either side, the requirement on the last side that
has one. A back-tick divides references too, since these hold an even number of back-ticks.
-/

namespace AccountGrants.Row

open Text

/-- A mark that no clause of a row begins, ends or goes on with. -/
structure IsDivider (c : Char) : Prop where
  ink : isBlank c = false
  notWord : isWordChar c = false
  phrase : ∀ phrase ∈ optionPhrases, c ∉ phrase.toList
  require : c ∉ "REQUIRE".toList

theorem isDivider_backTick : IsDivider backTick :=
  ⟨by decide, by decide, by decide, by decide⟩

theorem isDivider_asterisk : IsDivider '*' :=
  ⟨by decide, by decide, by decide, by decide⟩

section Divider

variable {c : Char} {a b : List Char}

theorem after?_append_cons {word : String} (hc : c ∉ word.toList) :
    after? word (a ++ c :: b) = (after? word a).map (· ++ c :: b) := by
  cases h : after? word a with
  | some rest =>
    obtain rfl := after?_eq_some.mp h
    exact after?_eq_some.mpr (by simp)
  | none =>
    rw [Option.map_none, Option.eq_none_iff_forall_ne_some]
    intro rest hrest
    have hopens : word.toList <+: a ++ c :: b := ⟨rest, (after?_eq_some.mp hrest).symm⟩
    obtain ⟨rest', hrest'⟩ := prefix_append_cons hc hopens
    have hsome : after? word a = some rest' := after?_eq_some.mpr hrest'.symm
    rw [h] at hsome
    cases hsome

theorem optionHere_append_cons (hc : IsDivider c) :
    optionHere (a ++ c :: b) = optionHere a := by
  have hphrase : ∀ phrase ∈ optionPhrases,
      ((after? phrase (a ++ c :: b)).any fun rest => !rest.head?.any isWordChar) =
        (after? phrase a).any fun rest => !rest.head?.any isWordChar := by
    intro phrase hphrase
    rw [after?_append_cons (hc.phrase phrase hphrase)]
    cases after? phrase a with
    | none => rfl
    | some rest =>
      cases rest with
      | nil => simp [hc.notWord]
      | cons d rest => rfl
  have hgrant := hphrase "GRANT OPTION" (by decide)
  have hadmin := hphrase "ADMIN OPTION" (by decide)
  simp only [optionHere, optionPhrases, List.any_cons, List.any_nil, hgrant, hadmin]

/-- An option is stated in front of a divider or behind it. -/
theorem optionWithin_append_cons (hc : IsDivider c) (inWord : Bool) :
    optionWithin inWord (a ++ c :: b) = (optionWithin inWord a || optionWithin false b) := by
  induction a generalizing inWord with
  | nil =>
    have hhere : optionHere (c :: b) = false := optionHere_append_cons (a := []) hc
    simp [optionWithin, hhere, hc.notWord]
  | cons d a ih =>
    have hhere : optionHere (d :: (a ++ c :: b)) = optionHere (d :: a) :=
      optionHere_append_cons (a := d :: a) hc
    rw [List.cons_append, optionWithin, optionWithin, hhere, ih, Bool.or_assoc]

theorem hasOption_append_cons (hc : IsDivider c) :
    hasOption (a ++ c :: b) = (hasOption a || hasOption b) :=
  optionWithin_append_cons hc false

theorem clauseHere?_append_cons (hc : IsDivider c) :
    clauseHere? (a ++ c :: b) = (clauseHere? a).map (· ++ c :: b) := by
  rw [clauseHere?, clauseHere?, after?_append_cons hc.require]
  cases after? "REQUIRE" a with
  | none => rfl
  | some rest =>
    rw [Option.map_some, Option.bind_some, Option.bind_some]
    cases rest with
    | nil => simp [afterGap?, hc.ink]
    | cons d rest =>
      rw [List.cons_append, afterGap?, afterGap?]
      split
      next =>
        rw [Option.map_some, List.dropWhile_append]
        cases rest.dropWhile isBlank with
        | nil => simp [hc.ink]
        | cons e rest => rfl
      next => rfl

/-- A line requires what it says behind a divider, or else what it says in front of it, with all
that stands behind that. -/
theorem clauseOnLine?_append_cons (hc : IsDivider c) (hline : '\n' ∉ a) :
    clauseOnLine? (a ++ c :: b) =
      (clauseOnLine? b).or ((clauseOnLine? a).map (· ++ c :: b)) := by
  induction a with
  | nil =>
    have hhere : clauseHere? (c :: b) = none := clauseHere?_append_cons (a := []) hc
    have hbreak : c ≠ '\n' := by
      rintro rfl
      cases hc.ink
    have hcons : clauseOnLine? (c :: b) = (clauseOnLine? b).or (clauseHere? (c :: b)) := by
      rw [clauseOnLine?, if_neg hbreak]
    rw [List.nil_append, hcons, hhere]
    rfl
  | cons d a ih =>
    simp only [List.mem_cons, not_or] at hline
    have hhere : clauseHere? (d :: (a ++ c :: b)) = (clauseHere? (d :: a)).map (· ++ c :: b) :=
      clauseHere?_append_cons (a := d :: a) hc
    rw [List.cons_append, clauseOnLine?, clauseOnLine?, if_neg (Ne.symm hline.1),
      if_neg (Ne.symm hline.1), hhere, ih hline.2, Option.or_assoc, ← Option.map_or]

end Divider

/-- The back-ticks of a reference that is read to its end come in pairs. -/
theorem even_backTicks_of_reference? {quoted : Bool} {s reference rest : List Char}
    (h : reference? quoted s = some (reference, rest)) :
    reference.count backTick % 2 = if quoted then 1 else 0 := by
  induction s generalizing quoted reference with
  | nil =>
    cases quoted with
    | true => cases h
    | false =>
      cases h
      rfl
  | cons c s ih =>
    rw [reference?] at h
    split at h
    next htick =>
      obtain ⟨⟨taken, left⟩, hread, hgrow⟩ := Option.map_eq_some_iff.mp h
      cases hgrow
      have hcount := ih hread
      rw [htick, List.count_cons_self]
      cases quoted <;> simp at hcount ⊢ <;> omega
    next htick =>
      split at h
      next hblank =>
        cases h
        simp only [Bool.and_eq_true, Bool.not_eq_true'] at hblank
        rw [hblank.2]
        rfl
      next =>
        obtain ⟨⟨taken, left⟩, hread, hgrow⟩ := Option.map_eq_some_iff.mp h
        cases hgrow
        rw [List.count_cons_of_ne htick]
        exact ih hread

/-- A reference that begins in front of a single back-tick ends there. -/
theorem IsReference.before_backTick {reference behind a b : List Char}
    (href : IsReference reference) (ha : backTick ∉ a) (hb : backTick ∉ b)
    (h : reference ++ behind = a ++ backTick :: b) :
    ∃ a', a = reference ++ a' ∧ behind = a' ++ backTick :: b := by
  have hnone : backTick ∉ reference := by
    have heven := even_backTicks_of_reference? href.2
    have hcount := congrArg (List.count backTick) h
    rw [List.count_append, List.count_append, List.count_cons_self, List.count_eq_zero.mpr ha,
      List.count_eq_zero.mpr hb] at hcount
    rw [if_neg Bool.false_ne_true] at heven
    exact List.count_eq_zero.mp (by omega)
  exact append_cons_eq_of_start hnone h

end AccountGrants.Row
