import AccountGrants.Proofs.Grant.Layout

/-!
The clauses of the statement of an ordinary grant, as its row is read: the requirement with all that
stands behind it, and the option.
-/

namespace AccountGrants

open Text

theorem lacks_recipient {identity : Identity} (h : identity.IsOrdinary) {word : String}
    (hword : word ∈ searchedWords) (hto : ¬word.toList <:+: "TO".toList) :
    ¬word.toList <:+: identity.recipient := by
  obtain ⟨hblank, -⟩ := not_mem_searchedWord hword
  rw [Identity.recipient, infix_append_cons hblank, not_or]
  exact ⟨hto, h.lacks hword⟩

theorem lacks_clauseWord_of_kind {word : String} (hword : word ∈ ["REQUIRE", "OPTION"])
    (kind : RoutineKind) : ¬word.toList <:+: kind.sql.toList := by
  revert word
  cases kind <;> decide

theorem Object.IsOrdinary.line {object : Object} (h : object.IsOrdinary) :
    '\n' ∉ object.sql.toList := by
  cases object with
  | table database name =>
    have hdatabase := (isPart_quoteDatabase h.1).line
    have hname := (isPart_quoteTable h.2).line
    simp [Object.sql, hdatabase, hname]
  | routine kind database name =>
    have hdatabase := (isPart_quoteDatabase h.1).line
    have hname := h.2.1.line
    have hkind : '\n' ∉ kind.sql.toList := by cases kind <;> decide
    simp [Object.sql, hdatabase, hname, hkind]

theorem Identity.IsOrdinary.line {identity : Identity} (h : identity.IsOrdinary) :
    '\n' ∉ identity.sql.toList := by
  cases identity with
  | user name host =>
    have hname := h.1.line
    have hhost := h.2.line
    simp [Identity.sql, toList_singleQuoted, singleQuote, hname, hhost]
  | role name =>
    have hname := h.1.line
    simp [Identity.sql, toList_singleQuoted, singleQuote, hname]

theorem Identity.endsInk_sql (identity : Identity) :
    EndsInk identity.sql.toList ∧ identity.sql.toList ≠ [] := by
  have hquote : EndsInk [singleQuote] := endsInk_of_last rfl rfl
  cases identity with
  | user name host =>
    refine ⟨?_, by simp [Identity.sql, toList_singleQuoted]⟩
    simp only [Identity.sql, String.toList_append, toList_singleQuoted, ← List.cons_append,
      ← List.append_assoc]
    exact endsInk_append hquote (List.cons_ne_nil _ _)
  | role name =>
    refine ⟨?_, by simp [Identity.sql, toList_singleQuoted]⟩
    simp only [Identity.sql, toList_singleQuoted, ← List.cons_append]
    exact endsInk_append hquote (List.cons_ne_nil _ _)

/-- No requirement begins in a list or at its ends. -/
theorem clauseOnLine?_list {list holder : List Char} (hlist : IsEntry list)
    (hholder : ∀ p d q, holder = p ++ ("REQUIRE".toList ++ d :: q) → isBlank d = false) :
    Row.clauseOnLine? ("GRANT".toList ++ ' ' :: (list ++ ' ' :: holder)) = none := by
  refine Row.clauseOnLine?_eq_none fun p d q hbody => ?_
  rcases append_cons_eq (by decide) hbody with ⟨y, hy⟩ | ⟨p₁, -, hrest⟩
  · have hword : "REQUIRE".toList <:+: "GRANT".toList := ⟨p, y, by rw [hy, List.append_assoc]⟩
    exact absurd hword (by decide)
  rcases append_cons_eq (by decide) hrest with ⟨y, hy⟩ | ⟨p₂, -, hbehind⟩
  · rw [hy, List.append_assoc, List.append_assoc, List.append_cancel_left_eq,
      List.append_cancel_left_eq] at hrest
    cases y with
    | nil => exact absurd ⟨p₁, by rw [hy, List.append_nil]⟩ hlist.notRequire
    | cons c y =>
      obtain ⟨rfl, -⟩ := List.cons.inj hrest
      refine hlist.packed.no_blank (p := p₁ ++ "REQUIR".toList) (c := 'E') (q := y) ?_ (by decide)
      rw [hy, List.append_assoc]
      rfl
  · exact hholder p₂ d q hbehind

/-- No option is stated in a list or at its ends. -/
theorem phrase_list {word list holder : List Char}
    (hword : word = "GRANT".toList ∨ word = "ADMIN".toList) (hlist : IsEntry list)
    (hinside : ¬word ++ ' ' :: "OPTION".toList <:+: holder)
    (hopens : ¬"OPTION".toList <+: holder) :
    ¬word ++ ' ' :: "OPTION".toList <:+: "GRANT".toList ++ ' ' :: (list ++ ' ' :: holder) := by
  have hblank : ' ' ∉ word := by rcases hword with rfl | rfl <;> decide
  intro hphrase
  rcases phrase_infix_append_cons hblank (by decide) hphrase with hgrant | hrest | ⟨-, hlistWord⟩
  · revert hgrant
    rcases hword with rfl | rfl <;> decide
  · rcases phrase_infix_append_cons hblank (by decide) hrest with hleft | hright | ⟨-, hnext⟩
    · obtain ⟨p, q, hp⟩ := hleft
      obtain ⟨start, last, hsplit, hlast⟩ :
          ∃ start last, word = start ++ [last] ∧ last ≠ ',' ∧ last ≠ 'L' := by
        rcases hword with rfl | rfl
        · exact ⟨"GRAN".toList, 'T', rfl, by decide⟩
        · exact ⟨"ADMI".toList, 'N', rfl, by decide⟩
      have hink := hlist.packed.no_blank (p := p ++ start) (c := last) (d := ' ')
        (q := "OPTION".toList ++ q) (by rw [← hp, hsplit]; simp) hlast
      cases hink
    · exact hinside hright
    · exact hopens hnext
  · exact hlist.notOption (prefix_append_cons (by decide) hlistWord)

namespace Grant

variable {g : Grant}

theorem IsOrdinary.holder_lacks (h : g.IsOrdinary) {word : String}
    (hword : word ∈ ["REQUIRE", "OPTION"]) : ¬word.toList <:+: g.holder := by
  obtain ⟨hsearched, hto, hon⟩ : word ∈ searchedWords ∧ ¬word.toList <:+: "TO".toList ∧
      ¬word.toList <:+: "ON".toList := by
    revert word
    decide
  have hrecipient := lacks_recipient h.identity hsearched hto
  obtain ⟨hblank, -⟩ := not_mem_searchedWord hsearched
  have hentitlement := h.entitlement
  unfold holder
  cases he : g.entitlement with
  | privileges tokens object =>
    rw [he] at hentitlement
    obtain ⟨-, -, -, hobject⟩ := hentitlement
    dsimp only
    rw [infix_append_cons hblank, infix_append_cons hblank, not_or, not_or]
    refine ⟨hon, hobject.lacks hsearched ?_, hrecipient⟩
    exact fun kind _ _ _ => lacks_clauseWord_of_kind hword kind
  | membership roles => exact hrecipient

theorem IsOrdinary.holder_line (h : g.IsOrdinary) : '\n' ∉ g.holder := by
  have hidentity := h.identity.line
  have hentitlement := h.entitlement
  unfold holder Identity.recipient
  cases he : g.entitlement with
  | privileges tokens object =>
    rw [he] at hentitlement
    have hobject := hentitlement.2.2.2.line
    simp [hobject, hidentity]
  | membership roles => simp [hidentity]

theorem holder_endsInk (g : Grant) : EndsInk g.holder := by
  obtain ⟨hends, hne⟩ := g.identity.endsInk_sql
  have hrecipient : EndsInk g.identity.recipient :=
    endsInk_append (endsInk_append (s := [' ']) hends hne) (List.cons_ne_nil _ _)
  unfold holder
  cases g.entitlement with
  | privileges tokens object =>
    refine endsInk_append ?_ (List.cons_ne_nil _ _)
    refine endsInk_append (s := [' ']) ?_ (by simp)
    exact endsInk_append (endsInk_append (s := [' ']) hrecipient (by simp))
      (List.cons_ne_nil _ _)
  | membership roles => exact hrecipient

theorem holder_ne_nil (g : Grant) : g.holder ≠ [] := by
  unfold holder
  cases g.entitlement <;> simp [Identity.recipient]

theorem body_endsInk (g : Grant) : EndsInk g.body := by
  refine endsInk_append ?_ (List.cons_ne_nil _ _)
  refine endsInk_append (s := [' ']) ?_ (by simp)
  exact endsInk_append (endsInk_append (s := [' ']) g.holder_endsInk g.holder_ne_nil)
    (List.cons_ne_nil _ _)

theorem IsOrdinary.body_line (h : g.IsOrdinary) : '\n' ∉ g.body := by
  have hlist := h.entitlement.isEntry.line
  have hholder := h.holder_line
  simp [body, hlist, hholder]

/-- No name looks like the clause on connections, wherever it stands in the statement. -/
theorem IsOrdinary.clauseOnLine?_body (h : g.IsOrdinary) : Row.clauseOnLine? g.body = none := by
  refine clauseOnLine?_list h.entitlement.isEntry fun p d q hholder => ?_
  have hword : "REQUIRE".toList <:+: g.holder := ⟨p, d :: q, by rw [hholder, List.append_assoc]⟩
  exact absurd hword (h.holder_lacks (by decide))

theorem IsOrdinary.body_notRequire (h : g.IsOrdinary) : ¬"REQUIRE".toList <:+ g.body := by
  intro hword
  have hlist := suffix_append_cons (by decide) (suffix_append_cons (by decide) hword)
  exact h.holder_lacks (by decide) hlist.isInfix

theorem IsOrdinary.phrase_body (h : g.IsOrdinary) {word : List Char}
    (hword : word = "GRANT".toList ∨ word = "ADMIN".toList) :
    ¬word ++ ' ' :: "OPTION".toList <:+: g.body := by
  have hholder : ¬"OPTION".toList <:+: g.holder := h.holder_lacks (by decide)
  refine phrase_list hword h.entitlement.isEntry (fun hphrase => hholder ?_) fun hopens =>
    hholder hopens.isInfix
  exact (List.suffix_append (word ++ [' ']) "OPTION".toList).isInfix.trans (by simpa using hphrase)

theorem toList_requireClause {tls : String} (h : requireClause tls ≠ "") :
    (requireClause tls).toList = ' ' :: ("REQUIRE".toList ++ ' ' :: tls.toList) ∧ tls ≠ "" := by
  unfold requireClause at h ⊢
  split at h
  next => exact absurd rfl h
  next hnone =>
    rw [if_neg hnone]
    exact ⟨by simp, fun hempty => hnone (Or.inl hempty)⟩

/-- The statement up to the option. -/
def required (g : Grant) : List Char :=
  g.body ++ (requireClause g.tlsOption).toList

theorem IsOrdinary.required_endsInk (h : g.IsOrdinary) : EndsInk g.required := by
  unfold required
  by_cases hclause : requireClause g.tlsOption = ""
  · rw [hclause]
    simpa using g.body_endsInk
  · obtain ⟨hchars, hne⟩ := toList_requireClause hclause
    rw [hchars]
    have htls : EndsInk (' ' :: g.tlsOption.toList) :=
      endsInk_append (s := [' ']) (h.requirement hclause).endsInk
        fun hnil => hne (String.toList_eq_nil_iff.mp hnil)
    refine endsInk_append ?_ (List.cons_ne_nil _ _)
    exact endsInk_append (s := ' ' :: "REQUIRE".toList) htls (List.cons_ne_nil _ _)

theorem IsOrdinary.required_line (h : g.IsOrdinary) : '\n' ∉ g.required := by
  have hbody := h.body_line
  unfold required
  by_cases hclause : requireClause g.tlsOption = ""
  · rw [hclause]
    simpa using hbody
  · have htls := (h.requirement hclause).line
    rw [(toList_requireClause hclause).1]
    simp [hbody, htls]

theorem IsOrdinary.required_notRequire (h : g.IsOrdinary) : ¬"REQUIRE".toList <:+ g.required := by
  unfold required
  by_cases hclause : requireClause g.tlsOption = ""
  · rw [hclause]
    simpa using h.body_notRequire
  · rw [(toList_requireClause hclause).1]
    intro hword
    have htls := suffix_append_cons (by decide) (suffix_append_cons (by decide) hword)
    exact (h.requirement hclause).noRequire htls.isInfix

theorem IsOrdinary.clause?_required (h : g.IsOrdinary) : Row.clause? g.required =
    if requireClause g.tlsOption = "" then none else some g.tlsOption.toList := by
  have hbelow : Row.clauseBelow? g.required = none := Row.clauseBelow?_of_line h.required_line
  unfold Row.clause?
  rw [hbelow, Option.or_none]
  unfold required
  split
  next hclause =>
    rw [hclause]
    simpa using h.clauseOnLine?_body
  next hclause =>
    have htls := h.requirement hclause
    rw [(toList_requireClause hclause).1]
    refine Row.clauseOnLine?_append_of_some h.body_line ?_
    have hlate : Row.clauseOnLine? ("EQUIRE".toList ++ ' ' :: g.tlsOption.toList) = none := by
      refine Row.clauseOnLine?_eq_none_of_lacks ?_
      rw [infix_append_cons (by decide), not_or]
      exact ⟨by decide, htls.noRequire⟩
    have hhere : Row.clauseHere? ("REQUIRE".toList ++ ' ' :: g.tlsOption.toList) =
        some g.tlsOption.toList := by
      rw [Row.clauseHere?, after?_eq_some.mpr rfl, Option.bind_some]
      exact afterGap?_space htls.startsInk
    have hword : Row.clauseOnLine? ("REQUIRE".toList ++ ' ' :: g.tlsOption.toList) =
        some g.tlsOption.toList := by
      have hsplit : "REQUIRE".toList ++ ' ' :: g.tlsOption.toList =
          'R' :: ("EQUIRE".toList ++ ' ' :: g.tlsOption.toList) := rfl
      rw [hsplit, Row.clauseOnLine?, hlate, ← hsplit, hhere]
      rfl
    exact Row.clauseOnLine?_append_of_some (s := [' ']) (by decide) hword

theorem IsOrdinary.requirement_required (h : g.IsOrdinary) : Row.requirement g.required =
    if requireClause g.tlsOption = "" then [] else g.tlsOption.toList := by
  rw [Row.requirement_eq, h.clause?_required]
  split
  next => rfl
  next hclause =>
    refine List.takeWhile_eq_self_iff.mpr fun c hc => ?_
    have hline := (h.requirement hclause).line
    simpa using fun he : c = '\n' => hline (he ▸ hc)

theorem IsOrdinary.requirementIsOpen_required (h : g.IsOrdinary) :
    Row.requirementIsOpen g.required = decide (requireClause g.tlsOption ≠ "") := by
  rw [Row.requirementIsOpen, h.clause?_required]
  split
  next hclause => simp [hclause]
  next hclause =>
    have hline := (h.requirement hclause).line
    simp [hclause, hline]

theorem optionClause_eq (g : Grant) : g.optionClause = "" ∧ g.grantOption = false ∨
    (g.optionClause = " WITH GRANT OPTION" ∨ g.optionClause = " WITH ADMIN OPTION") ∧
      g.grantOption = true := by
  unfold optionClause grantOptionClause adminOptionClause
  cases g.entitlement <;> cases g.grantOption <;> simp

/-- The requirement that the row of a statement states. -/
theorem IsOrdinary.requirement_statement (h : g.IsOrdinary) :
    Row.requirement g.statement.toList = g.listedRequirement.toList := by
  rw [toList_statement, clauses, ← List.append_assoc, listedRequirement]
  change Row.requirement (g.required ++ _) = _
  rcases g.optionClause_eq with ⟨hoption, -⟩ | ⟨hoption, -⟩
  · rw [hoption, String.toList_empty, List.append_nil, h.requirement_required]
    split <;> simp
  · have hgrow : ∀ clause : String, StartsBlank clause.toList → '\n' ∉ clause.toList →
        Row.clauseOnLine? clause.toList = none →
        Row.requirement (g.required ++ clause.toList) =
          (if requireClause g.tlsOption = "" then "" else g.tlsOption ++ clause).toList := by
      intro clause hblank hline hnone
      rcases Row.requirement_append h.required_endsInk hblank hline hnone with hgrown | ⟨hword, -⟩
      · rw [hgrown, h.requirementIsOpen_required, h.requirement_required]
        by_cases hclause : requireClause g.tlsOption = "" <;> simp [hclause]
      · exact absurd hword h.required_notRequire
    rcases hoption with hoption | hoption <;> rw [hoption] <;>
      exact hgrow _ ⟨' ', _, rfl, rfl⟩ (by decide) rfl

theorem IsOrdinary.phrase_required (h : g.IsOrdinary) :
    ∀ phrase ∈ Row.optionPhrases, ¬phrase.toList <:+: g.required := by
  intro phrase hphrase
  obtain ⟨word, hword, hsplit⟩ : ∃ word : List Char, (word = "GRANT".toList ∨
      word = "ADMIN".toList) ∧ phrase.toList = word ++ ' ' :: "OPTION".toList := by
    simp only [Row.optionPhrases, List.mem_cons, List.not_mem_nil, or_false] at hphrase
    rcases hphrase with rfl | rfl
    · exact ⟨_, Or.inl rfl, rfl⟩
    · exact ⟨_, Or.inr rfl, rfl⟩
  have hbody := h.phrase_body hword
  unfold required
  by_cases hclause : requireClause g.tlsOption = ""
  · rw [hclause, hsplit]
    simpa using hbody
  have hblank : ' ' ∉ word := by rcases hword with rfl | rfl <;> decide
  have htls := (h.requirement hclause).noOption phrase hphrase
  rw [(toList_requireClause hclause).1]
  rw [hsplit] at htls ⊢
  intro hphrase
  rcases phrase_infix_append_cons hblank (by decide) hphrase with hleft | hright | ⟨-, hnext⟩
  · exact hbody hleft
  · rcases phrase_infix_append_cons hblank (by decide) hright with hleft | hright | ⟨hend, -⟩
    · revert hleft
      rcases hword with rfl | rfl <;> decide
    · exact htls hright
    · revert hend
      rcases hword with rfl | rfl <;> decide
  · exact absurd (prefix_append_cons (by decide) hnext) (by decide)

/-- Behind a text that states no option, the clause of a grant says what the grant says. -/
theorem hasOption_append_optionClause {s : List Char}
    (h : ∀ phrase ∈ Row.optionPhrases, ¬phrase.toList <:+: s) :
    Row.hasOption (s ++ g.optionClause.toList) = g.grantOption := by
  rcases g.optionClause_eq with ⟨hoption, hgrant⟩ | ⟨hoption | hoption, hgrant⟩
  · rw [hoption, hgrant, String.toList_empty, List.append_nil]
    exact Row.optionWithin_eq_false false h
  · rw [hoption, hgrant]
    exact Row.hasOption_append_grantOption _
  · rw [hoption, hgrant]
    exact Row.hasOption_append_adminOption _

/-- The row of a statement says that the grant may be passed on exactly if the grant says so. -/
theorem IsOrdinary.hasOption_statement (h : g.IsOrdinary) :
    Row.hasOption g.statement.toList = g.grantOption := by
  rw [toList_statement, clauses, ← List.append_assoc]
  exact hasOption_append_optionClause h.phrase_required

end Grant

end AccountGrants
