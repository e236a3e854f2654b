import AccountGrants.Proofs.Privilege.Canonical
import Mathlib.Data.List.Perm.Basic

/-!
What canonical form tells apart. Two privileges have one canonical form exactly if both have a list
of columns, with the same name and the same columns in any order, or neither has one and their names
are the same or both are names of all privileges: `Privilege.canonical_eq_canonical_iff`.
-/

namespace AccountGrants.Privilege

open Text

variable {s t name columns : List Char}

/-- The text before the first parenthesis. -/
def nameOf (s : List Char) : List Char :=
  s.takeWhile (· != '(')

/-- The text between the first parenthesis and the last character. -/
def columnText (s : List Char) : List Char :=
  (s.dropWhile (· != '(')).tail.dropLast

/-- The columns between the commas of that text. -/
def columnsOf (s : List Char) : List (List Char) :=
  (columnText s).splitOn ','

/-- A text with a list of columns on one line at its end. -/
structure IsColumnToken (s : List Char) : Prop where
  opens : '(' ∈ s
  closes : s.getLast? = some ')'
  line : '\n' ∉ columnText s

/-- The two spellings of every privilege, as they are without the padding. -/
def IsAll (name : List Char) : Prop :=
  name = "ALL".toList ∨ name = "ALLPRIVILEGES".toList

/-- Texts that mean one privilege. Names are compared in upper case, columns as they are. -/
inductive SamePrivilege (s t : List Char) : Prop
  | columns (left : IsColumnToken s) (right : IsColumnToken t)
      (name : upper (nameOf s) = upper (nameOf t)) (perm : (columnsOf s).Perm (columnsOf t))
  | plain (left : ¬IsColumnToken s) (right : ¬IsColumnToken t) (name : upper s = upper t)
  | all (left : ¬IsColumnToken s) (right : ¬IsColumnToken t) (first : IsAll (upper s))
      (second : IsAll (upper t))

theorem nameOf_append (hname : '(' ∉ name) (body : List Char) :
    nameOf (name ++ '(' :: body) = name := by
  rw [nameOf, List.takeWhile_append_of_pos (forall_bne hname)]
  simp

theorem columnText_append (hname : '(' ∉ name) (body : List Char) :
    columnText (name ++ '(' :: body) = body.dropLast := by
  rw [columnText, List.dropWhile_append_of_pos (forall_bne hname)]
  rfl

theorem columnList?_eq_parts : columnList? s = some (name, columns) ↔
    IsColumnToken s ∧ name = nameOf s ∧ columns = columnText s := by
  rw [columnList?_eq_some]
  constructor
  · rintro ⟨hname, hline, rfl⟩
    have hcolumns : columnText (name ++ '(' :: (columns ++ [')'])) = columns := by
      rw [columnText_append hname, List.dropLast_concat]
    have hcloses : (name ++ '(' :: (columns ++ [')'])).getLast? = some ')' := by
      rw [← List.cons_append, ← List.append_assoc, List.getLast?_concat]
    exact ⟨⟨by simp, hcloses, by rwa [hcolumns]⟩, (nameOf_append hname _).symm, hcolumns.symm⟩
  · rintro ⟨h, rfl, rfl⟩
    obtain ⟨front, body, hfront, rfl⟩ := cut_at_open h.opens
    have hline := h.line
    rw [columnText_append hfront] at hline ⊢
    rw [nameOf_append hfront]
    have hlast : body.getLast? = some ')' := by
      have hcloses := h.closes
      rw [List.getLast?_append_of_ne_nil _ (by simp)] at hcloses
      cases body with
      | nil => cases hcloses
      | cons c body => exact hcloses
    exact ⟨hfront, hline, by rw [List.dropLast_append_getLast? ')' hlast]⟩

theorem columnList?_of_isColumnToken (h : IsColumnToken s) :
    columnList? s = some (nameOf s, columnText s) :=
  columnList?_eq_parts.mpr ⟨h, rfl, rfl⟩

theorem columnList?_of_not_isColumnToken (h : ¬IsColumnToken s) : columnList? s = none := by
  apply Option.eq_none_iff_forall_not_mem.mpr
  intro found hfound
  exact h (columnList?_eq_parts.mp hfound).1

/-- The spelling of a text has columns exactly where the text has them, and they are read back. -/
theorem columnList?_spelling (s : List Char) : columnList? (spelling s).toList =
    (columnList? s).map fun (name, columns) => (upper name, (sortColumns columns).toList) := by
  cases hcolumns : columnList? s with
  | some found =>
    obtain ⟨name, columns⟩ := found
    obtain ⟨hname, hline, -⟩ := columnList?_eq_some.mp hcolumns
    rw [toList_spelling_of_columns hcolumns]
    exact columnList?_eq_some.mpr
      ⟨mt isMark_open.mem_upper.mp hname, not_newline_sortColumns hline, rfl⟩
  | none =>
    rw [spelling_of_plain hcolumns, expandAll]
    split
    next => decide
    next =>
      -- Upper case opens no list of columns: a mark comes from the same mark only.
      rw [String.toList_ofList, columnList?_upper, hcolumns]
      rfl

theorem isBare_columnText (h : IsBare s) : IsBare (columnText s) := by
  have hmem : ∀ c ∈ columnText s, c ∈ s := by
    intro c hc
    exact (List.dropWhile_sublist _).mem (List.mem_of_mem_tail (List.mem_of_mem_dropLast hc))
  exact ⟨fun hc => h.1 (hmem _ hc), fun hc => h.2 (hmem _ hc)⟩

/-- Sorting forgets the order of columns and nothing else. -/
theorem sortedColumns_eq_iff {others : List Char} : sortedColumns columns = sortedColumns others ↔
    (columns.splitOn ',').Perm (others.splitOn ',') := by
  have hinjective : Function.Injective String.ofList := fun _ _ => String.ofList_injective
  rw [← List.map_perm_map_iff hinjective]
  have hsorted := fun text : List Char =>
    List.mergeSort_perm ((text.splitOn ',').map String.ofList) fun a b => decide (a ≤ b)
  constructor
  · intro h
    have hboth : (sortedColumns columns).Perm ((others.splitOn ',').map String.ofList) := by
      rw [h]
      exact hsorted others
    exact (hsorted columns).symm.trans hboth
  · intro h
    -- Both are sorted, so it is enough that one is a permutation of the other.
    apply List.Perm.eq_of_pairwise ?_ (sortedColumns_pairwise columns)
      (sortedColumns_pairwise others)
    · exact ((hsorted columns).trans h).trans (hsorted others).symm
    · intro a b _ _ hab hba
      exact String.le_antisymm (of_decide_eq_true hab) (of_decide_eq_true hba)

theorem sortColumns_eq_iff {others : List Char} (h : IsBare columns) (hothers : IsBare others) :
    sortColumns columns = sortColumns others ↔
      (columns.splitOn ',').Perm (others.splitOn ',') := by
  rw [← sortedColumns_eq_iff]
  constructor
  · intro heq
    rw [← sortedColumns_bare h, heq, sortedColumns_bare hothers]
  · intro heq
    rw [sortColumns_eq, heq, ← sortColumns_eq]

theorem isAll_iff : IsAll s ↔ String.ofList s = "ALL" ∨ String.ofList s = "ALLPRIVILEGES" := by
  rw [IsAll, ← String.ofList_inj, ← String.ofList_inj, String.ofList_toList, String.ofList_toList]

theorem expandAll_of_isAll (h : IsAll s) : expandAll (String.ofList s) = allPrivileges :=
  if_pos (isAll_iff.mp h)

theorem expandAll_of_not_isAll (h : ¬IsAll s) : expandAll (String.ofList s) = String.ofList s :=
  if_neg (mt isAll_iff.mpr h)

/-- All privileges at once are written with a space, which no bare name has. -/
theorem ne_allPrivileges (h : IsBare s) : String.ofList s ≠ allPrivileges := by
  intro heq
  apply h.1
  rw [← String.toList_ofList (l := s), heq]
  decide

theorem expandAll_eq_iff (hs : IsBare s) (ht : IsBare t) :
    expandAll (String.ofList s) = expandAll (String.ofList t) ↔ s = t ∨ IsAll s ∧ IsAll t := by
  by_cases first : IsAll s <;> by_cases second : IsAll t
  · rw [expandAll_of_isAll first, expandAll_of_isAll second]
    exact iff_of_true rfl (Or.inr ⟨first, second⟩)
  · rw [expandAll_of_isAll first, expandAll_of_not_isAll second]
    refine iff_of_false (ne_allPrivileges ht).symm ?_
    rintro (rfl | ⟨-, h⟩)
    · exact second first
    · exact second h
  · rw [expandAll_of_not_isAll first, expandAll_of_isAll second]
    refine iff_of_false (ne_allPrivileges hs) ?_
    rintro (rfl | ⟨h, -⟩)
    · exact first second
    · exact first h
  · rw [expandAll_of_not_isAll first, expandAll_of_not_isAll second, String.ofList_inj]
    exact (or_iff_left fun h => first h.1).symm

theorem spelling_eq_iff_of_columns (hs : IsBare s) (ht : IsBare t) (left : IsColumnToken s)
    (right : IsColumnToken t) : spelling s = spelling t ↔
      upper (nameOf s) = upper (nameOf t) ∧ (columnsOf s).Perm (columnsOf t) := by
  have hcolumns := columnList?_of_isColumnToken left
  have hothers := columnList?_of_isColumnToken right
  have hperm := sortColumns_eq_iff (isBare_columnText hs) (isBare_columnText ht)
  constructor
  · intro h
    have hread := columnList?_spelling s
    rw [h, columnList?_spelling t, hcolumns, hothers] at hread
    obtain ⟨hname, hlist⟩ := Prod.mk.inj (Option.some.inj hread)
    exact ⟨hname.symm, hperm.mp (String.toList_injective hlist.symm)⟩
  · rintro ⟨hname, hlist⟩
    rw [spelling_of_columns hcolumns, spelling_of_columns hothers, hname, hperm.mpr hlist]

theorem spelling_eq_iff_of_plain (hs : IsBare s) (ht : IsBare t) (left : ¬IsColumnToken s)
    (right : ¬IsColumnToken t) : spelling s = spelling t ↔
      upper s = upper t ∨ IsAll (upper s) ∧ IsAll (upper t) := by
  rw [spelling_of_plain (columnList?_of_not_isColumnToken left),
    spelling_of_plain (columnList?_of_not_isColumnToken right)]
  exact expandAll_eq_iff hs.upper ht.upper

/-- The spelling shows whether there are columns. -/
theorem isColumnToken_iff_of_spelling_eq (h : spelling s = spelling t) :
    IsColumnToken s ↔ IsColumnToken t := by
  have hread := columnList?_spelling s
  rw [h, columnList?_spelling t] at hread
  by_cases left : IsColumnToken s <;> by_cases right : IsColumnToken t
  · exact iff_of_true left right
  · rw [columnList?_of_isColumnToken left, columnList?_of_not_isColumnToken right] at hread
    cases hread
  · rw [columnList?_of_not_isColumnToken left, columnList?_of_isColumnToken right] at hread
    cases hread
  · exact iff_of_false left right

/-- Canonical form tells apart what means different privileges, and nothing else. -/
theorem canonical_eq_canonical_iff (p q : String) :
    canonical p = canonical q ↔ SamePrivilege (bare p.toList) (bare q.toList) := by
  rw [canonical_eq, canonical_eq]
  have hs := isBare_bare p.toList
  have ht := isBare_bare q.toList
  constructor
  · intro h
    have hboth := isColumnToken_iff_of_spelling_eq h
    by_cases left : IsColumnToken (bare p.toList)
    · have right := hboth.mp left
      obtain ⟨hname, hperm⟩ := (spelling_eq_iff_of_columns hs ht left right).mp h
      exact .columns left right hname hperm
    · have right := mt hboth.mpr left
      rcases (spelling_eq_iff_of_plain hs ht left right).mp h with hname | ⟨first, second⟩
      · exact .plain left right hname
      · exact .all left right first second
  · intro h
    cases h with
    | columns left right name perm =>
      exact (spelling_eq_iff_of_columns hs ht left right).mpr ⟨name, perm⟩
    | plain left right name => exact (spelling_eq_iff_of_plain hs ht left right).mpr (Or.inl name)
    | all left right first second =>
      exact (spelling_eq_iff_of_plain hs ht left right).mpr (Or.inr ⟨first, second⟩)

end AccountGrants.Privilege
