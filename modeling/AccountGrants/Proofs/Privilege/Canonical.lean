import AccountGrants.Privilege
import AccountGrants.Proofs.Text.Upper
import AccountGrants.Proofs.Text.Words

/-!
Canonical form. A privilege is spelled from its bare text, which is all of it but the padding; the
spelling of a bare text has a bare text that is spelled the same. So a canonical list is one that
`Privilege.canonicalize` leaves alone.
-/

namespace AccountGrants.Privilege

open Text

/-- A text without the padding. -/
def bare (s : List Char) : List Char :=
  s.filter fun c => !isPadding c

/-- The canonical spelling of a bare text. -/
def spelling (s : List Char) : String :=
  match columnList? s with
  | some (name, columns) => String.ofList (upper name) ++ "(" ++ sortColumns columns ++ ")"
  | none => expandAll (String.ofList (upper s))

theorem canonical_eq (privilege : String) :
    canonical privilege = spelling (bare privilege.toList) :=
  rfl

/-- A text with no padding in it. -/
def IsBare (s : List Char) : Prop :=
  ' ' ∉ s ∧ backTick ∉ s

section Marks

theorem isMark_space : IsMark ' ' := isMark_of_ascii (by decide) rfl

theorem isMark_backTick : IsMark backTick := isMark_of_ascii (by decide) rfl

theorem isMark_open : IsMark '(' := isMark_of_ascii (by decide) rfl

theorem isMark_close : IsMark ')' := isMark_of_ascii (by decide) rfl

theorem isMark_newline : IsMark '\n' := isMark_of_ascii (by decide) rfl

end Marks

variable {s name columns : List Char}

theorem spelling_of_columns (h : columnList? s = some (name, columns)) :
    spelling s = String.ofList (upper name) ++ "(" ++ sortColumns columns ++ ")" := by
  rw [spelling, h]

theorem toList_spelling_of_columns (h : columnList? s = some (name, columns)) :
    (spelling s).toList = upper name ++ '(' :: ((sortColumns columns).toList ++ [')']) := by
  rw [spelling_of_columns h]
  simp

theorem spelling_of_plain (h : columnList? s = none) :
    spelling s = expandAll (String.ofList (upper s)) := by
  rw [spelling, h]

theorem bare_append (s t : List Char) : bare (s ++ t) = bare s ++ bare t :=
  List.filter_append s t

theorem isBare_bare (s : List Char) : IsBare (bare s) := by
  constructor <;> simp [bare, isPadding]

theorem mem_of_mem_bare {c : Char} (h : c ∈ bare s) : c ∈ s :=
  (List.mem_filter.mp h).1

theorem IsBare.bare_eq (h : IsBare s) : bare s = s := by
  refine List.filter_eq_self.mpr fun c hc => ?_
  have hspace : c ≠ ' ' := fun heq => h.1 (heq ▸ hc)
  have htick : c ≠ backTick := fun heq => h.2 (heq ▸ hc)
  simp [isPadding, hspace, htick]

theorem IsBare.upper (h : IsBare s) : IsBare (upper s) :=
  ⟨mt isMark_space.mem_upper.mp h.1, mt isMark_backTick.mem_upper.mp h.2⟩

/-- The text before the first parenthesis, and the text behind it. -/
theorem cut_at_open (h : '(' ∈ s) : ∃ name body, '(' ∉ name ∧ s = name ++ '(' :: body := by
  obtain ⟨name, body, rfl, hname⟩ := List.eq_append_cons_of_mem h
  exact ⟨name, body, hname, rfl⟩

theorem columnList?_append (hname : '(' ∉ name) (body : List Char) :
    columnList? (name ++ '(' :: body) =
      if body.getLast? = some ')' ∧ '\n' ∉ body.dropLast then some (name, body.dropLast)
      else none := by
  have hdrop : (name ++ '(' :: body).dropWhile (· != '(') = '(' :: body := by
    rw [List.dropWhile_append_of_pos (forall_bne hname)]
    rfl
  have htake : (name ++ '(' :: body).takeWhile (· != '(') = name := by
    rw [List.takeWhile_append_of_pos (forall_bne hname)]
    simp
  simp only [columnList?, hdrop, htake, Bool.and_eq_true, decide_eq_true_eq, Bool.not_eq_true',
    List.contains_eq_mem, decide_eq_false_iff_not]

theorem columnList?_of_not_mem (h : '(' ∉ s) : columnList? s = none := by
  have hnone : s.dropWhile (· != '(') = [] :=
    List.dropWhile_eq_nil_iff.mpr (forall_bne h)
  simp [columnList?, hnone]

theorem columnList?_eq_some : columnList? s = some (name, columns) ↔
    '(' ∉ name ∧ '\n' ∉ columns ∧ s = name ++ '(' :: (columns ++ [')']) := by
  constructor
  · intro h
    by_cases hopen : '(' ∈ s
    · obtain ⟨front, body, hfront, rfl⟩ := cut_at_open hopen
      rw [columnList?_append hfront] at h
      split at h
      next hbody =>
        obtain ⟨hlast, hline⟩ := hbody
        cases h
        exact ⟨hfront, hline, by rw [List.dropLast_append_getLast? ')' hlast]⟩
      next => cases h
    · rw [columnList?_of_not_mem hopen] at h
      cases h
  · rintro ⟨hname, hline, rfl⟩
    rw [columnList?_append hname, if_pos (by simpa using hline), List.dropLast_concat]

/-- Upper case keeps a closing parenthesis at the end, and what is in front of it. -/
theorem getLast?_upper_close (s : List Char) :
    (upper s).getLast? = some ')' ↔ s.getLast? = some ')' := by
  rcases List.eq_nil_or_concat' s with rfl | ⟨front, last, rfl⟩
  · rfl
  · have hsplit : upper (front ++ [last]) = upper front ++ upperChar last := by
      rw [upper_append, upper, upper, List.flatMap_singleton]
    rw [hsplit, List.getLast?_concat, List.getLast?_append_of_ne_nil _ (upperChar_ne_nil last)]
    constructor
    · intro h
      exact congrArg some (isMark_close.mem_upperChar.mp (List.mem_of_getLast? h))
    · intro h
      cases h
      rw [isMark_close.fixed]
      rfl

theorem columnList?_upper (s : List Char) :
    columnList? (upper s) =
      (columnList? s).map fun (name, columns) => (upper name, upper columns) := by
  by_cases hopen : '(' ∈ s
  · obtain ⟨name, body, hname, rfl⟩ := cut_at_open hopen
    have hsplit : upper (name ++ '(' :: body) = upper name ++ '(' :: upper body := by
      rw [upper_append]
      exact congrArg (upper name ++ ·) (congrArg (· ++ upper body) isMark_open.fixed)
    rw [hsplit, columnList?_append (mt isMark_open.mem_upper.mp hname), columnList?_append hname]
    by_cases hlast : body.getLast? = some ')'
    · have hfront : (upper body).dropLast = upper body.dropLast := by
        conv_lhs => rw [← List.dropLast_append_getLast? ')' hlast, upper_append]
        exact List.dropLast_concat
      simp only [(getLast?_upper_close body).mpr hlast, hlast, hfront, isMark_newline.mem_upper]
      split <;> rfl
    · rw [if_neg fun h => hlast ((getLast?_upper_close body).mp h.1), if_neg fun h => hlast h.1]
      rfl
  · rw [columnList?_of_not_mem hopen, columnList?_of_not_mem (mt isMark_open.mem_upper.mp hopen)]
    rfl

/-- The columns of a list in the order in which they are written. -/
def sortedColumns (columns : List Char) : List String :=
  ((columns.splitOn ',').map String.ofList).mergeSort fun a b => decide (a ≤ b)

theorem sortColumns_eq (columns : List Char) :
    sortColumns columns = ", ".intercalate (sortedColumns columns) :=
  rfl

theorem sortedColumns_ne_nil (columns : List Char) : sortedColumns columns ≠ [] := by
  rw [← List.length_pos_iff, sortedColumns, List.length_mergeSort, List.length_map,
    List.length_pos_iff]
  exact List.splitOn_ne_nil ',' columns

theorem mem_sortedColumns {column : String} (h : column ∈ sortedColumns columns) :
    ',' ∉ column.toList ∧ ∀ c ∈ column.toList, c ∈ columns := by
  rw [sortedColumns, List.mem_mergeSort, List.mem_map] at h
  obtain ⟨part, hpart, rfl⟩ := h
  rw [String.toList_ofList]
  exact not_mem_of_mem_splitOn hpart

theorem sortedColumns_pairwise (columns : List Char) :
    (sortedColumns columns).Pairwise fun a b => decide (a ≤ b) = true := by
  apply List.pairwise_mergeSort
  · intro a b c hab hbc
    rw [decide_eq_true_eq] at hab hbc ⊢
    exact String.le_trans hab hbc
  · intro a b
    rw [Bool.or_eq_true, decide_eq_true_eq, decide_eq_true_eq]
    exact String.le_total a b

theorem sortedColumns_sorted (columns : List Char) :
    (sortedColumns columns).mergeSort (fun a b => decide (a ≤ b)) = sortedColumns columns :=
  List.mergeSort_of_pairwise (sortedColumns_pairwise columns)

/-- The bare text of a sorted list of columns: the columns with commas between them. -/
theorem bare_sortColumns (h : IsBare columns) : bare (sortColumns columns).toList =
    [','].intercalate ((sortedColumns columns).map String.toList) := by
  have hbare : ∀ column ∈ sortedColumns columns, bare column.toList = column.toList := by
    intro column hcolumn
    have hmem := (mem_sortedColumns hcolumn).2
    exact IsBare.bare_eq ⟨fun hc => h.1 (hmem _ hc), fun hc => h.2 (hmem _ hc)⟩
  rw [sortColumns_eq]
  generalize sortedColumns columns = sorted at hbare
  induction sorted with
  | nil => simp [bare]
  | cons column sorted ih =>
    have hcolumn := hbare column List.mem_cons_self
    have hrest := ih fun other hother => hbare other (List.mem_cons_of_mem column hother)
    by_cases hnil : sorted = []
    · simpa [hnil] using hcolumn
    · rw [String.intercalate_cons_of_ne_nil hnil, List.map_cons,
        List.intercalate_cons_of_ne_nil (by simpa using hnil), String.toList_append,
        String.toList_append, bare_append, bare_append, hcolumn, hrest]
      rfl

theorem sortedColumns_bare (h : IsBare columns) :
    sortedColumns (bare (sortColumns columns).toList) = sortedColumns columns := by
  have hcomma : ∀ part ∈ (sortedColumns columns).map String.toList, ',' ∉ part := by
    intro part hpart
    obtain ⟨column, hcolumn, rfl⟩ := List.mem_map.mp hpart
    exact (mem_sortedColumns hcolumn).1
  have hne : (sortedColumns columns).map String.toList ≠ [] := by
    simpa using sortedColumns_ne_nil columns
  rw [bare_sortColumns h, sortedColumns, List.splitOn_intercalate ',' hcomma hne, List.map_map]
  simpa using sortedColumns_sorted columns

theorem not_newline_sortColumns (h : '\n' ∉ columns) : '\n' ∉ (sortColumns columns).toList := by
  intro hmem
  rw [sortColumns_eq, String.toList_intercalate] at hmem
  rcases mem_commaList hmem with hmark | hmark | ⟨part, hpart, hnewline⟩
  · cases hmark
  · cases hmark
  · obtain ⟨column, hcolumn, rfl⟩ := List.mem_map.mp hpart
    exact h ((mem_sortedColumns hcolumn).2 _ hnewline)

/-- The spelling of a bare text is spelled as it is. -/
theorem spelling_spelling (h : IsBare s) : spelling (bare (spelling s).toList) = spelling s := by
  cases hcolumns : columnList? s with
  | some found =>
    obtain ⟨name, columns⟩ := found
    obtain ⟨hname, hline, rfl⟩ := columnList?_eq_some.mp hcolumns
    have hbareName : IsBare name :=
      ⟨fun hc => h.1 (List.mem_append_left _ hc), fun hc => h.2 (List.mem_append_left _ hc)⟩
    have hbareColumns : IsBare columns :=
      ⟨fun hc => h.1 (by simp [hc]), fun hc => h.2 (by simp [hc])⟩
    have hbare : bare (spelling (name ++ '(' :: (columns ++ [')']))).toList =
        upper name ++ '(' :: (bare (sortColumns columns).toList ++ [')']) := by
      rw [toList_spelling_of_columns hcolumns, bare_append, hbareName.upper.bare_eq]
      simp [bare, isPadding, backTick]
    have hagain : columnList? (upper name ++ '(' :: (bare (sortColumns columns).toList ++ [')'])) =
        some (upper name, bare (sortColumns columns).toList) :=
      columnList?_eq_some.mpr ⟨mt isMark_open.mem_upper.mp hname,
        fun hc => not_newline_sortColumns hline (mem_of_mem_bare hc), rfl⟩
    rw [hbare, spelling_of_columns hagain, spelling_of_columns hcolumns, upper_upper,
      sortColumns_eq, sortedColumns_bare hbareColumns, ← sortColumns_eq]
  | none =>
    rw [spelling_of_plain hcolumns]
    by_cases hall : String.ofList (upper s) = "ALL" ∨ String.ofList (upper s) = "ALLPRIVILEGES"
    · rw [expandAll, if_pos hall]
      decide +kernel
    · have hagain : columnList? (upper s) = none := by rw [columnList?_upper, hcolumns]; rfl
      rw [expandAll, if_neg hall, String.toList_ofList, h.upper.bare_eq, spelling_of_plain hagain,
        upper_upper]
      exact if_neg hall

theorem canonical_canonical (privilege : String) :
    canonical (canonical privilege) = canonical privilege := by
  rw [canonical_eq, canonical_eq]
  exact spelling_spelling (isBare_bare privilege.toList)

theorem canonical_of_mem_canonicalize {token : String} {privileges : List String}
    (h : token ∈ canonicalize privileges) : canonical token = token := by
  obtain ⟨privilege, -, rfl⟩ := List.mem_map.mp (List.mem_filter.mp h).1
  exact canonical_canonical privilege

theorem ne_usage_of_mem_canonicalize {token : String} {privileges : List String}
    (h : token ∈ canonicalize privileges) : token ≠ usage := by
  simpa using (List.mem_filter.mp h).2

theorem canonicalize_append (privileges others : List String) :
    canonicalize (privileges ++ others) = canonicalize privileges ++ canonicalize others := by
  simp [canonicalize]

theorem canonicalize_cons_of_ne {privilege : String} (h : canonical privilege ≠ usage)
    (others : List String) :
    canonicalize (privilege :: others) = canonical privilege :: canonicalize others := by
  simp [canonicalize, h]

/-- A list is left alone exactly if each of its tokens is in canonical form and is not USAGE. -/
theorem canonicalize_eq_self {tokens : List String} :
    canonicalize tokens = tokens ↔ ∀ token ∈ tokens, canonical token = token ∧ token ≠ usage := by
  constructor
  · intro h token htoken
    rw [← h] at htoken
    exact ⟨canonical_of_mem_canonicalize htoken, ne_usage_of_mem_canonicalize htoken⟩
  · intro h
    have hid : ∀ token ∈ tokens, canonical token = id token := fun token htoken =>
      (h token htoken).1
    rw [canonicalize, List.map_congr_left hid, List.map_id]
    exact List.filter_eq_self.mpr fun token htoken => bne_iff_ne.mpr (h token htoken).2

/-- Tokens of a canonical list are a canonical list. -/
theorem canonicalize_of_subset {tokens privileges : List String}
    (h : tokens ⊆ canonicalize privileges) : canonicalize tokens = tokens := by
  apply canonicalize_eq_self.mpr
  intro token htoken
  exact ⟨canonical_of_mem_canonicalize (h htoken), ne_usage_of_mem_canonicalize (h htoken)⟩

/-- Canonical form is reached in one step, whatever the texts. -/
theorem canonicalize_idempotent (privileges : List String) :
    canonicalize (canonicalize privileges) = canonicalize privileges :=
  canonicalize_of_subset (List.Subset.refl _)

/-! Spelling a privilege loses no letter that upper case keeps. -/

section Letters

variable {c : Char}

theorem count_le_upper (hc : c ∈ upperChar c) (s : List Char) :
    s.count c ≤ (upper s).count c := by
  induction s with
  | nil => rfl
  | cons d s ih =>
    have hcons : upper (d :: s) = upperChar d ++ upper s := rfl
    rw [hcons, List.count_append]
    by_cases hd : d = c
    · have hone : 0 < (upperChar d).count c := List.count_pos_iff.mpr (by rwa [hd])
      rw [hd] at hone ⊢
      rw [List.count_cons_self]
      omega
    · rw [List.count_cons_of_ne hd]
      omega

theorem count_intercalate {sep : List Char} (hc : c ∉ sep) (items : List (List Char)) :
    (sep.intercalate items).count c = items.flatten.count c := by
  induction items with
  | nil => simp
  | cons item items ih =>
    by_cases hnil : items = []
    · simp [hnil]
    · rw [List.intercalate_cons_of_ne_nil hnil, List.count_append, List.count_append,
        List.count_eq_zero.mpr hc, ih, List.flatten_cons, List.count_append, Nat.add_zero]

theorem count_sortColumns (hc : c ∉ ", ".toList) (columns : List Char) :
    (sortColumns columns).toList.count c = columns.count c := by
  have hcomma : c ∉ [','] := fun hmem => hc (by simp_all)
  have hperm : (sortedColumns columns).Perm ((columns.splitOn ',').map String.ofList) :=
    List.mergeSort_perm _ _
  have hparts : ((columns.splitOn ',').map String.ofList).map String.toList =
      columns.splitOn ',' := by
    rw [List.map_map]
    simp [Function.comp_def]
  have hcount := (hperm.map String.toList).flatten.count_eq c
  rw [hparts] at hcount
  rw [sortColumns_eq, String.toList_intercalate, count_intercalate hc, hcount,
    ← count_intercalate hcomma, List.intercalate_splitOn]

/-- A capital letter occurs in a privilege no more often than in its canonical spelling. -/
theorem count_le_canonical (hupper : c ∈ upperChar c) (hpadding : isPadding c = false)
    (hcomma : c ≠ ',') (privilege : String) :
    privilege.toList.count c ≤ (canonical privilege).toList.count c := by
  have hbare : (bare privilege.toList).count c = privilege.toList.count c :=
    List.count_filter (by simp [hpadding])
  rw [canonical_eq, ← hbare]
  generalize bare privilege.toList = s
  cases hcolumns : columnList? s with
  | some found =>
    obtain ⟨name, columns⟩ := found
    obtain ⟨-, -, rfl⟩ := columnList?_eq_some.mp hcolumns
    have hsep : c ∉ ", ".toList := by
      simp only [isPadding, Bool.or_eq_false_iff, beq_eq_false_iff_ne] at hpadding
      simp [hcomma, hpadding]
    have hname := count_le_upper hupper name
    rw [toList_spelling_of_columns hcolumns, List.count_append, List.count_append, List.count_cons,
      List.count_cons, List.count_append, List.count_append, count_sortColumns hsep]
    omega
  | none =>
    have hname := count_le_upper hupper s
    rw [spelling_of_plain hcolumns, expandAll]
    split
    next hall =>
      refine hname.trans (List.Sublist.count_le c ?_)
      rw [← String.toList_ofList (l := upper s)]
      rcases hall with hall | hall <;> rw [hall] <;> decide
    next => rwa [String.toList_ofList]

end Letters

end AccountGrants.Privilege
