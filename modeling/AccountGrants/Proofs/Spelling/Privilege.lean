import AccountGrants.Proofs.Grant.Holder
import AccountGrants.Proofs.Grant.Roles
import AccountGrants.Proofs.Row.Quiet

/-!
How servers spell what they list. Privileges are words such as SELECT or CREATE ROUTINE, some with
columns in parentheses; names stand between back-ticks, and an asterisk for any name. The lists of
such a row are runs, which the readers of rows take apart at their commas only.
-/

namespace AccountGrants.Spelling

open Text

/-- A word of a privilege. -/
structure IsWord (word : List Char) : Prop extends IsItem word where
  char : ∀ c ∈ word, Row.isRoleChar c = true
  not_on : word ≠ "ON".toList
  not_to : word ≠ "TO".toList

/-- What stands between two items of a list. -/
def IsComma (sep : List Char) : Prop :=
  sep = [','] ∨ sep = [',', ' ']

theorem IsComma.eq_cons {sep : List Char} (h : IsComma sep) :
    ∃ gap, sep = ',' :: gap ∧ ∀ c ∈ gap, c = ' ' := by
  rcases h with rfl | rfl
  · exact ⟨[], rfl, by simp⟩
  · exact ⟨[' '], rfl, by simp⟩

/-- A text between back-ticks. -/
def ticked (s : List Char) : List Char :=
  backTick :: (s ++ [backTick])

/-- A privilege: words with one space between each two, then columns, where there are any. -/
inductive IsPrivilege : List Char → Prop
  | words {words : List (List Char)} (hne : words ≠ []) (h : ∀ word ∈ words, IsWord word) :
      IsPrivilege ([' '].intercalate words)
  | columns {words columns : List (List Char)} {gap sep : List Char} (hne : words ≠ [])
      (h : ∀ word ∈ words, IsWord word) (hgap : gap = [] ∨ gap = [' ']) (hsep : IsComma sep)
      (hcolumns : ∀ column ∈ columns, ∀ c ∈ column, Row.isRoleChar c = true) :
      IsPrivilege ([' '].intercalate words ++
        (gap ++ '(' :: (sep.intercalate (columns.map ticked) ++ [')'])))

/-! Lists are runs. -/

section Runs

variable {s : List Char} {sep : List Char} {items words : List (List Char)}

theorem isStop_backTick : Row.IsStop backTick := by decide

theorem isStop_comma : Row.IsStop ',' := by decide

theorem isStop_open : Row.IsStop '(' := by decide

theorem isStop_close : Row.IsStop ')' := by decide

theorem IsWord.isSegment (h : IsWord s) : Row.IsSegment s where
  toIsItem := h.toIsItem
  ink := ink_of_roleChar h.char
  not_on := h.not_on

theorem isRun_words (hne : words ≠ []) (h : ∀ word ∈ words, IsWord word) :
    Row.IsRun ([' '].intercalate words) := by
  induction words with
  | nil => exact absurd rfl hne
  | cons word words ih =>
    have hword := (h word List.mem_cons_self).isSegment
    by_cases hnil : words = []
    · rw [hnil, List.intercalate_singleton]
      exact .one hword
    · rw [List.intercalate_cons_of_ne_nil hnil, List.append_assoc]
      exact .cons hword (ih hnil fun other hother => h other (List.mem_cons_of_mem word hother))

/-- A run that begins with a back-tick may stand behind a comma without a space. -/
theorem isRun_intercalate (hsep : IsComma sep) (hne : items ≠ [])
    (h : ∀ item ∈ items, Row.IsRun item ∧ item.head? = some backTick) :
    Row.IsRun (sep.intercalate items) ∧ (sep.intercalate items).head? = some backTick := by
  induction items with
  | nil => exact absurd rfl hne
  | cons item items ih =>
    obtain ⟨hitem, hhead⟩ := h item List.mem_cons_self
    by_cases hnil : items = []
    · rw [hnil, List.intercalate_singleton]
      exact ⟨hitem, hhead⟩
    · obtain ⟨hrest, hrestHead⟩ :=
        ih hnil fun other hother => h other (List.mem_cons_of_mem item hother)
      have hcomma : Row.IsRun (item ++ [',']) :=
        hitem.glue isStop_comma (Row.isRun_stop isStop_comma)
      rw [List.intercalate_cons_of_ne_nil hnil, List.append_assoc]
      refine ⟨?_, by rw [List.head?_append, hhead]; rfl⟩
      obtain ⟨rest, hsplit⟩ : ∃ rest, sep.intercalate items = backTick :: rest :=
        List.head?_eq_some_iff.mp hrestHead
      rcases hsep with rfl | rfl
      · rw [← List.append_assoc, hsplit]
        rw [hsplit] at hrest
        exact hcomma.glue isStop_backTick hrest
      · have hspace := hcomma.append_space hrest
        rwa [List.append_assoc] at hspace

theorem isRun_ticked (h : ∀ c ∈ s, isBlank c = false) : Row.IsRun (ticked s) := by
  refine .one (Row.isSegment_of_stop isStop_backTick ?_ ?_)
  · intro c hc
    rcases List.mem_append.mp hc with hc | hc
    · exact h c hc
    · rw [List.mem_singleton.mp hc]
      rfl
  · intro hword
    cases List.suffix_nil.mp (suffix_append_cons (by decide) hword)

theorem IsPrivilege.isRun (h : IsPrivilege s) : Row.IsRun s := by
  cases h with
  | words hne h => exact isRun_words hne h
  | @columns words columns gap sep hne h hgap hsep hcolumns =>
    have hitem : ∀ item ∈ columns.map ticked, Row.IsRun item ∧ item.head? = some backTick := by
      intro item hitem
      obtain ⟨column, hcolumn, rfl⟩ := List.mem_map.mp hitem
      exact ⟨isRun_ticked (ink_of_roleChar (hcolumns column hcolumn)), rfl⟩
    have hopen : Row.IsRun ('(' :: sep.intercalate (columns.map ticked)) := by
      by_cases hnil : columns.map ticked = []
      · rw [hnil, List.intercalate_nil]
        exact Row.isRun_stop isStop_open
      · obtain ⟨hlist, hhead⟩ := isRun_intercalate hsep hnil hitem
        obtain ⟨rest, hsplit⟩ := List.head?_eq_some_iff.mp hhead
        rw [hsplit] at hlist ⊢
        exact (Row.isRun_stop isStop_open).glue isStop_backTick hlist
    have hparens : Row.IsRun ('(' :: (sep.intercalate (columns.map ticked) ++ [')'])) :=
      hopen.glue isStop_close (Row.isRun_stop isStop_close)
    rcases hgap with rfl | rfl
    · exact (isRun_words hne h).glue isStop_open hparens
    · exact (isRun_words hne h).append_space hparens

/-- The commas of a privilege stand between its parentheses. -/
theorem IsPrivilege.isPiece (h : IsPrivilege s) : Privilege.IsPiece s := by
  have hplain : ∀ {words : List (List Char)}, (∀ word ∈ words, IsWord word) →
      ∀ c ∈ [' '].intercalate words, Privilege.IsPlainChar c := by
    intro words hwords c hc
    rcases mem_intercalate hc with hc | ⟨word, hword, hc⟩
    · rw [List.mem_singleton.mp hc]
      exact ⟨by decide, by decide, by decide⟩
    · exact (isRoleChar_iff.mp ((hwords word hword).char c hc)).2
  refine ⟨h.isRun.ne_nil, h.isRun.startsInk, ?_⟩
  cases h with
  | words hne h =>
    rw [← List.append_nil ([' '].intercalate _), Privilege.closes_append_of_plain (hplain h)]
    rfl
  | @columns words columns gap sep hne h hgap hsep hcolumns =>
    rw [← List.append_assoc]
    refine Privilege.closes_columns ?_ ?_
    · intro c hc
      rcases List.mem_append.mp hc with hc | hc
      · exact hplain h c hc
      · rcases hgap with rfl | rfl
        · cases hc
        · rw [List.mem_singleton.mp hc]
          exact ⟨by decide, by decide, by decide⟩
    · intro c hc
      rcases mem_intercalate hc with hc | ⟨item, hitem, hc⟩
      · obtain ⟨gap, rfl, hspace⟩ := hsep.eq_cons
        rcases List.mem_cons.mp hc with rfl | hc
        · decide
        · rw [hspace c hc]
          decide
      · obtain ⟨column, hcolumn, rfl⟩ := List.mem_map.mp hitem
        rcases List.mem_cons.mp hc with rfl | hc
        · decide
        rcases List.mem_append.mp hc with hc | hc
        · exact (isRoleChar_iff.mp (hcolumns column hcolumn c hc)).2.2
        · rw [List.mem_singleton.mp hc]
          decide

theorem isRun_commaList (hne : items ≠ []) (h : ∀ item ∈ items, Row.IsRun item) :
    Row.IsRun (commaList items) := by
  induction items with
  | nil => exact absurd rfl hne
  | cons item items ih =>
    have hitem := h item List.mem_cons_self
    by_cases hnil : items = []
    · rwa [hnil, commaList_singleton]
    · have hcomma : Row.IsRun (item ++ [',']) :=
        hitem.glue isStop_comma (Row.isRun_stop isStop_comma)
      have hspace := hcomma.append_space
        (ih hnil fun other hother => h other (List.mem_cons_of_mem item hother))
      rw [commaList_cons hnil]
      rwa [List.append_assoc] at hspace

end Runs

/-! What ends the reading of a list of roles where privileges are listed. -/

/-- A word other than TO does not begin the identity. -/
theorem recipient?_word {word t : List Char} (h : IsWord word)
    (ht : ∀ c ∈ t.head?, Row.isRoleChar c = false) :
    Row.recipient? (' ' :: (word ++ t)) = none := by
  have hink : StartsInk (word ++ t) := startsInk_append h.isSegment.startsInk h.ne_nil
  simp only [Row.recipient?, Option.bind_eq_bind, afterGap?_space hink, Option.bind_some]
  cases hto : after? "TO" (word ++ t) with
  | none => rfl
  | some rest =>
    have hsplit : word ++ t = 'T' :: 'O' :: rest := after?_eq_some.mp hto
    rcases word with _ | ⟨c, _ | ⟨c', _ | ⟨d, word⟩⟩⟩
    · exact absurd rfl h.ne_nil
    · cases hsplit
      exact absurd (ht 'O' rfl) (by decide)
    · cases hsplit
      exact absurd rfl h.not_to
    · cases hsplit
      have hd : isBlank d = false := h.isSegment.ink d (by simp)
      simp [afterGap?, hd]

/-- A list of roles ends in front of a word without a comma. -/
theorem stops_at_word {word t : List Char} (h : IsWord word)
    (ht : ∀ c ∈ t.head?, Row.isRoleChar c = false) :
    Row.roleList? .afterRole (' ' :: (word ++ t)) = some ([], ' ' :: (word ++ t)) ∧
      Row.recipient? (' ' :: (word ++ t)) = none := by
  refine ⟨?_, recipient?_word h ht⟩
  cases word with
  | nil => exact absurd rfl h.ne_nil
  | cons c word =>
    obtain ⟨hink, hcomma, -⟩ := isRoleChar_iff.mp (h.char c List.mem_cons_self)
    exact Row.roleList?_afterRole_gap isGap_space hink hcomma

/-- The first word of several, and the second one if there is one. -/
theorem words_cases {words : List (List Char)} (hne : words ≠ [])
    (h : ∀ word ∈ words, IsWord word) : ∃ word rest, [' '].intercalate words = word ++ rest ∧
      IsWord word ∧ (rest = [] ∨ ∃ next after, rest = ' ' :: (next ++ after) ∧ IsWord next ∧
        ∀ c ∈ after.head?, Row.isRoleChar c = false) := by
  match words with
  | [] => exact absurd rfl hne
  | [word] => exact ⟨word, [], by simp, h word List.mem_cons_self, Or.inl rfl⟩
  | word :: next :: words =>
    have hword := h word List.mem_cons_self
    have hnext := h next (by simp)
    refine ⟨word, ' ' :: [' '].intercalate (next :: words), by simp, hword, Or.inr ?_⟩
    by_cases hnil : words = []
    · exact ⟨next, [], by simp [hnil], hnext, by simp⟩
    · refine ⟨next, ' ' :: [' '].intercalate words, ?_, hnext, by rintro c ⟨⟩; rfl⟩
      rw [List.intercalate_cons_of_ne_nil hnil]
      simp

/-- The first word of a privilege, and what stands behind it. -/
theorem IsPrivilege.first {s : List Char} (h : IsPrivilege s) : ∃ word rest, s = word ++ rest ∧
    IsWord word ∧ ∀ t, (∀ c ∈ t.head?, Row.isRoleChar c = false) → rest = [] ∨
      Row.roleList? .afterRole (rest ++ t) = some ([], rest ++ t) ∧
        Row.recipient? (rest ++ t) = none := by
  cases h with
  | words hne h =>
    obtain ⟨word, rest, hsplit, hword, rfl | ⟨next, after, rfl, hnext, hafter⟩⟩ := words_cases hne h
    · exact ⟨word, [], hsplit, hword, fun t _ => Or.inl rfl⟩
    · refine ⟨word, _, hsplit, hword, fun t ht => Or.inr ?_⟩
      rw [List.cons_append, List.append_assoc]
      refine stops_at_word hnext ?_
      cases after with
      | nil => exact ht
      | cons c after => exact hafter
  | @columns words columns gap sep hne h hgap hsep hcolumns =>
    obtain ⟨word, rest, hsplit, hword, hrest⟩ := words_cases hne h
    generalize sep.intercalate (columns.map ticked) ++ [')'] = body
    refine ⟨word, rest ++ (gap ++ '(' :: body), by rw [hsplit, List.append_assoc], hword,
      fun t _ => Or.inr ?_⟩
    have hopen : ∀ c ∈ (gap ++ '(' :: (body ++ t)).head?, Row.isRoleChar c = false := by
      rcases hgap with rfl | rfl <;> rintro c ⟨⟩ <;> rfl
    rcases hrest with rfl | ⟨next, after, rfl, hnext, hafter⟩
    · rw [List.nil_append, List.append_assoc, List.cons_append]
      rcases hgap with rfl | rfl
      · exact ⟨rfl, rfl⟩
      · exact ⟨Row.roleList?_afterRole_gap isGap_space rfl (by decide),
          recipient?_eq_none rfl (by decide)⟩
    · have hreassoc : ' ' :: (next ++ after) ++ (gap ++ '(' :: body) ++ t =
          ' ' :: (next ++ (after ++ (gap ++ '(' :: (body ++ t)))) := by simp
      rw [hreassoc]
      refine stops_at_word hnext ?_
      cases after with
      | nil => exact hopen
      | cons c after => exact hafter

/-- A list of privileges is no list of roles: what ends it is no TO. -/
theorem roleList?_privileges {items : List (List Char)} (hne : items ≠ [])
    (h : ∀ item ∈ items, IsPrivilege item) (rest : List Char) : ∃ list left,
      Row.roleList? .beforeRole (commaList items ++ ' ' :: 'O' :: rest) = some (list, left) ∧
        Row.recipient? left = none := by
  induction items with
  | nil => exact absurd rfl hne
  | cons item items ih =>
    obtain ⟨tail, htail, hstop, list, left, hread, hleft⟩ : ∃ tail : List Char,
        commaList (item :: items) ++ ' ' :: 'O' :: rest = item ++ tail ∧
          (∀ c ∈ tail.head?, Row.isRoleChar c = false) ∧
          ∃ list left, Row.roleList? .afterRole tail = some (list, left) ∧
            Row.recipient? left = none := by
      by_cases hnil : items = []
      · refine ⟨' ' :: 'O' :: rest, by rw [hnil, commaList_singleton],
          by rintro c ⟨⟩; rfl, [], _,
          Row.roleList?_afterRole_gap isGap_space rfl (by decide),
          recipient?_eq_none rfl (by decide)⟩
      · obtain ⟨list, left, hlist, hleft⟩ :=
          ih hnil fun other hother => h other (List.mem_cons_of_mem item hother)
        refine ⟨',' :: ' ' :: (commaList items ++ ' ' :: 'O' :: rest),
          by rw [commaList_cons hnil]; simp, by rintro c ⟨⟩; rfl, ',' :: ' ' :: list, left, ?_,
          hleft⟩
        rw [roleList?_comma, hlist]
        rfl
    obtain ⟨word, after, rfl, hword, hafter⟩ := (h item List.mem_cons_self).first
    rw [htail, List.append_assoc]
    rcases hafter tail hstop with rfl | ⟨hends, hnone⟩
    · refine ⟨word ++ list, left, ?_, hleft⟩
      rw [List.nil_append, roleList?_word (by decide) hword.ne_nil hword.char, hread]
      rfl
    · refine ⟨word ++ [], after ++ tail, ?_, hnone⟩
      rw [roleList?_word (by decide) hword.ne_nil hword.char, hends]
      rfl

end AccountGrants.Spelling
