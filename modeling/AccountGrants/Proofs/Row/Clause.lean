import AccountGrants.Row.Clause
import AccountGrants.Proofs.Text.Scan

/-!
The clause that a row's requirement is read from. `clause?` is all of the text behind the deciding
REQUIRE, of which the requirement is the first line.
-/

namespace AccountGrants.Row

open Text

/-- What follows REQUIRE and a gap. -/
def clauseHere? (s : List Char) : Option (List Char) :=
  (after? "REQUIRE" s).bind afterGap?

/-- The text behind the last REQUIRE on this line. -/
def clauseOnLine? : List Char → Option (List Char)
  | [] => none
  | c :: s => if c = '\n' then none else (clauseOnLine? s).or (clauseHere? (c :: s))

/-- The text behind the last REQUIRE on the first later line that has one. -/
def clauseBelow? : List Char → Option (List Char)
  | [] => none
  | c :: s => if c = '\n' then (clauseOnLine? s).or (clauseBelow? s) else clauseBelow? s

/-- The text behind the REQUIRE that decides what a row requires. -/
def clause? (row : List Char) : Option (List Char) :=
  (clauseOnLine? row).or (clauseBelow? row)

theorem requirementOnLine?_eq (s : List Char) :
    requirementOnLine? s = (clauseOnLine? s).map (·.takeWhile (· != '\n')) := by
  induction s with
  | nil => rfl
  | cons c s ih =>
    rw [requirementOnLine?, clauseOnLine?]
    split
    next => rfl
    next => rw [ih, Option.map_or]; rfl

theorem requirementBelow?_eq (s : List Char) :
    requirementBelow? s = (clauseBelow? s).map (·.takeWhile (· != '\n')) := by
  induction s with
  | nil => rfl
  | cons c s ih =>
    rw [requirementBelow?, clauseBelow?]
    split
    next => rw [ih, requirementOnLine?_eq, Option.map_or]
    next => exact ih

theorem requirement_eq (row : List Char) :
    requirement row = ((clause? row).getD []).takeWhile (· != '\n') := by
  rw [requirement, requirementOnLine?_eq, requirementBelow?_eq, ← Option.map_or]
  change ((clause? row).map (·.takeWhile (· != '\n'))).getD [] = _
  cases clause? row <;> rfl

/-- The requirement of a row runs to the end of the row. -/
def requirementIsOpen (row : List Char) : Bool :=
  (clause? row).any fun clause => !clause.contains '\n'

/-- No clause begins in a text where no blank follows REQUIRE. -/
theorem clauseOnLine?_eq_none {s : List Char}
    (h : ∀ p d q, s = p ++ ("REQUIRE".toList ++ d :: q) → isBlank d = false) :
    clauseOnLine? s = none := by
  induction s with
  | nil => rfl
  | cons c s ih =>
    have hhere : clauseHere? (c :: s) = none := by
      cases hword : after? "REQUIRE" (c :: s) with
      | none => rw [clauseHere?, hword]; rfl
      | some rest =>
        rw [clauseHere?, hword, Option.bind_some]
        cases rest with
        | nil => rfl
        | cons d rest =>
          rw [afterGap?, h [] d rest (after?_eq_some.mp hword)]
          rfl
    have hrest : clauseOnLine? s = none := by
      refine ih fun p d q hs => h (c :: p) d q ?_
      rw [hs]
      rfl
    rw [clauseOnLine?, hrest, hhere]
    split <;> rfl

theorem clauseOnLine?_eq_none_of_lacks {s : List Char} (h : ¬"REQUIRE".toList <:+: s) :
    clauseOnLine? s = none :=
  clauseOnLine?_eq_none fun p _ _ hs =>
    absurd ⟨p, _, by rw [hs, List.append_assoc]⟩ h

theorem clauseOnLine?_suffix {s clause : List Char} (h : clauseOnLine? s = some clause) :
    clause <:+ s := by
  induction s with
  | nil => cases h
  | cons c s ih =>
    rw [clauseOnLine?] at h
    split at h
    next => cases h
    next =>
      rcases Option.or_eq_some_iff.mp h with hlater | ⟨-, hhere⟩
      · exact (ih hlater).trans (List.suffix_cons c s)
      · obtain ⟨rest, hword, hgap⟩ := Option.bind_eq_some_iff.mp hhere
        obtain ⟨gap, rfl, -, -⟩ := afterGap?_eq_some.mp hgap
        rw [after?_eq_some.mp hword, ← List.append_assoc]
        exact List.suffix_append _ clause

/-- The last clause of a line is the one that counts. -/
theorem clauseOnLine?_append_of_some {s t clause : List Char} (hline : '\n' ∉ s)
    (h : clauseOnLine? t = some clause) : clauseOnLine? (s ++ t) = some clause := by
  induction s with
  | nil => exact h
  | cons c s ih =>
    simp only [List.mem_cons, not_or] at hline
    rw [List.cons_append, clauseOnLine?, if_neg (Ne.symm hline.1), ih hline.2]
    rfl

theorem clauseHere?_append {s t : List Char} (hs : EndsInk s) (ht : StartsBlank t) :
    clauseHere? (s ++ t) = (clauseHere? s).map (· ++ t) ∨ s = "REQUIRE".toList := by
  unfold clauseHere?
  rw [after?_append (forall_eq_false rfl) ht]
  cases h : after? "REQUIRE" s with
  | none => exact Or.inl rfl
  | some rest =>
    obtain rfl := after?_eq_some.mp h
    cases rest with
    | nil => exact Or.inr (List.append_nil _)
    | cons c rest =>
      exact Or.inl (afterGap?_append_right (endsInk_of_append hs) (List.cons_ne_nil c rest) t)

/-- Behind a REQUIRE that ends a text, the clause is what is written next. -/
theorem clauseHere?_require {t : List Char} (ht : StartsBlank t) :
    clauseHere? ("REQUIRE".toList ++ t) = some (t.dropWhile isBlank) := by
  obtain ⟨c, t, rfl, hc⟩ := ht
  rw [clauseHere?, after?_eq_some.mpr rfl]
  simp [afterGap?, hc]

theorem clauseOnLine?_append {s t : List Char} (hs : EndsInk s) (ht : StartsBlank t)
    (hnone : clauseOnLine? t = none) :
    clauseOnLine? (s ++ t) = (clauseOnLine? s).map (· ++ t) ∨
      ("REQUIRE".toList <:+ s ∧ clauseOnLine? (s ++ t) = some (t.dropWhile isBlank)) := by
  induction s with
  | nil => exact Or.inl hnone
  | cons c s ih =>
    have hrest : EndsInk s := endsInk_of_append (s := [c]) hs
    rw [List.cons_append, clauseOnLine?, clauseOnLine?]
    by_cases hc : c = '\n'
    · rw [if_pos hc, if_pos hc]
      exact Or.inl rfl
    rw [if_neg hc, if_neg hc]
    rcases ih hrest with ih | ⟨hword, ih⟩
    · rcases clauseHere?_append hs ht with hhere | hhere
      · rw [ih, ← List.cons_append, hhere, Option.map_or]
        exact Or.inl rfl
      · have hlate : clauseOnLine? s = none := by
          cases hhere
          rfl
        refine Or.inr ⟨by rw [hhere], ?_⟩
        rw [ih, hlate, ← List.cons_append, hhere, clauseHere?_require ht]
        rfl
    · exact Or.inr ⟨hword.trans (List.suffix_cons c s), by rw [ih]; rfl⟩

theorem clauseBelow?_of_line {s : List Char} (hline : '\n' ∉ s) : clauseBelow? s = none := by
  induction s with
  | nil => rfl
  | cons c s ih =>
    simp only [List.mem_cons, not_or] at hline
    rw [clauseBelow?, if_neg (Ne.symm hline.1)]
    exact ih hline.2

theorem clauseBelow?_append {s t : List Char} (hs : EndsInk s) (ht : StartsBlank t)
    (hline : '\n' ∉ t) (hnone : clauseOnLine? t = none) :
    clauseBelow? (s ++ t) = (clauseBelow? s).map (· ++ t) ∨
      ("REQUIRE".toList <:+ s ∧ clauseBelow? (s ++ t) = some (t.dropWhile isBlank)) := by
  induction s with
  | nil => exact Or.inl (clauseBelow?_of_line hline)
  | cons c s ih =>
    have hrest : EndsInk s := endsInk_of_append (s := [c]) hs
    rw [List.cons_append, clauseBelow?, clauseBelow?]
    by_cases hc : c = '\n'
    · rw [if_pos hc, if_pos hc]
      rcases clauseOnLine?_append hrest ht hnone with hhere | ⟨hword, hhere⟩
      · rcases ih hrest with ih | ⟨hword, ih⟩
        · rw [hhere, ih, Option.map_or]
          exact Or.inl rfl
        · rw [hhere, ih]
          cases hcase : clauseOnLine? s with
          | none => exact Or.inr ⟨hword.trans (List.suffix_cons c s), rfl⟩
          | some clause => exact Or.inl rfl
      · exact Or.inr ⟨hword.trans (List.suffix_cons c s), by rw [hhere]; rfl⟩
    · rw [if_neg hc, if_neg hc]
      rcases ih hrest with ih | ⟨hword, ih⟩
      · exact Or.inl ih
      · exact Or.inr ⟨hword.trans (List.suffix_cons c s), ih⟩

/-- A text without a clause of its own goes to the clause of the row that it is written behind. -/
theorem clause?_append {s t : List Char} (hs : EndsInk s) (ht : StartsBlank t)
    (hline : '\n' ∉ t) (hnone : clauseOnLine? t = none) :
    clause? (s ++ t) = (clause? s).map (· ++ t) ∨
      ("REQUIRE".toList <:+ s ∧ clause? (s ++ t) = some (t.dropWhile isBlank)) := by
  unfold clause?
  rcases clauseOnLine?_append hs ht hnone with hhere | ⟨hword, hhere⟩
  · rcases clauseBelow?_append hs ht hline hnone with hbelow | ⟨hword, hbelow⟩
    · rw [hhere, hbelow, Option.map_or]
      exact Or.inl rfl
    · rw [hhere, hbelow]
      cases clauseOnLine? s with
      | none => exact Or.inr ⟨hword, rfl⟩
      | some clause => exact Or.inl rfl
  · exact Or.inr ⟨hword, by rw [hhere]; rfl⟩

/-- The requirement of a row grows by what is written behind it exactly if it is open. -/
theorem requirement_append {s t : List Char} (hs : EndsInk s) (ht : StartsBlank t)
    (hline : '\n' ∉ t) (hnone : clauseOnLine? t = none) :
    requirement (s ++ t) = (if requirementIsOpen s then requirement s ++ t else requirement s) ∨
      ("REQUIRE".toList <:+ s ∧ requirement (s ++ t) = t.dropWhile isBlank) := by
  have hall : ∀ {u : List Char}, '\n' ∉ u → ∀ c ∈ u, (c != '\n') = true := by
    intro u hu c hc
    simpa using fun he : c = '\n' => hu (he ▸ hc)
  rcases clause?_append hs ht hline hnone with hclause | ⟨hword, hclause⟩
  · refine Or.inl ?_
    rw [requirement_eq, requirement_eq, requirementIsOpen, hclause]
    cases clause? s with
    | none => rfl
    | some clause =>
      simp only [Option.map_some, Option.getD_some, Option.any_some, Bool.not_eq_true',
        List.contains_eq_mem, decide_eq_false_iff_not]
      by_cases hopen : '\n' ∈ clause
      · rw [if_neg (not_not.mpr hopen), List.takeWhile_append]
        rw [if_neg]
        intro hlen
        have hfull : clause.takeWhile (· != '\n') = clause :=
          (List.takeWhile_prefix _).eq_of_length hlen
        have hink := List.takeWhile_eq_self_iff.mp hfull '\n' hopen
        simp at hink
      · rw [if_pos hopen, List.takeWhile_append_of_pos (hall hopen),
          List.takeWhile_eq_self_iff.mpr (hall hopen), List.takeWhile_eq_self_iff.mpr (hall hline)]
  · refine Or.inr ⟨hword, ?_⟩
    rw [requirement_eq, hclause]
    refine List.takeWhile_eq_self_iff.mpr fun c hc => hall hline c ?_
    exact (List.dropWhile_sublist _).subset hc

/-! The option. -/

theorem optionWithin_append (inWord : Bool) {s t : List Char}
    (h : ∀ b : Bool, optionWithin b t = true) : optionWithin inWord (s ++ t) = true := by
  induction s generalizing inWord with
  | nil => exact h inWord
  | cons c s ih => rw [List.cons_append, optionWithin, ih, Bool.or_true]

theorem optionWithin_eq_false (inWord : Bool) {s : List Char}
    (h : ∀ phrase ∈ optionPhrases, ¬phrase.toList <:+: s) : optionWithin inWord s = false := by
  induction s generalizing inWord with
  | nil => rfl
  | cons c s ih =>
    have hhere : optionHere (c :: s) = false := by
      rw [optionHere, List.any_eq_false]
      intro phrase hphrase
      cases hafter : after? phrase (c :: s) with
      | none => simp
      | some rest =>
        refine absurd ?_ (h phrase hphrase)
        rw [after?_eq_some.mp hafter]
        exact List.infix_append_left
    rw [optionWithin, hhere, ih]
    · simp
    · exact fun phrase hphrase hs => h phrase hphrase (hs.trans (List.suffix_cons c s).isInfix)

theorem hasOption_append_grantOption (s : List Char) :
    hasOption (s ++ " WITH GRANT OPTION".toList) = true :=
  optionWithin_append false fun b => by cases b <;> rfl

theorem hasOption_append_adminOption (s : List Char) :
    hasOption (s ++ " WITH ADMIN OPTION".toList) = true :=
  optionWithin_append false fun b => by cases b <;> rfl

end AccountGrants.Row
