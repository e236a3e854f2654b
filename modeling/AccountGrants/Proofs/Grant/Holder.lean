import AccountGrants.Proofs.Grant.Clauses
import AccountGrants.Proofs.Row.Reading

/-!
Reading back what stands behind the list of a statement: quoted names, objects and identities.
-/

namespace AccountGrants

open Text

/-! Identities. -/

theorem Identity.sql_head (identity : Identity) :
    identity.sql.toList.head? = some singleQuote := by
  cases identity <;> simp [Identity.sql, toList_singleQuoted]

theorem Identity.sql_last (identity : Identity) :
    ∃ s, identity.sql.toList = s ++ [singleQuote] := by
  cases identity with
  | user name host =>
    exact ⟨(singleQuoted name).toList ++ '@' :: singleQuote :: host.toList,
      by simp [Identity.sql, toList_singleQuoted]⟩
  | role name => exact ⟨singleQuote :: name.toList, by simp [Identity.sql, toList_singleQuoted]⟩

theorem markedName?_singleQuoted {name : String}
    (h : ∀ c ∈ name.toList, Row.isIdentityMark c = false) (rest : List Char) :
    Row.markedName? ((singleQuoted name).toList ++ rest) = some (name.toList, rest) := by
  rw [toList_singleQuoted, List.cons_append, List.append_assoc]
  exact Row.markedName?_eq_some.mpr ⟨_, _, rfl, rfl, rfl, h⟩

theorem IsName.unmarkedForIdentity {name : List Char} (h : IsName name) :
    ∀ c ∈ name, Row.isIdentityMark c = false := by
  intro c hc
  obtain ⟨htick, -, hquote⟩ := not_mark_of_isName h hc
  simp [Row.isIdentityMark, htick, hquote]

theorem markedName?_backTicked {name : String} (h : IsName name.toList) (rest : List Char) :
    Row.markedName? ((backTicked name).toList ++ rest) = some (name.toList, rest) := by
  rw [toList_backTicked, List.cons_append, List.append_assoc]
  exact Row.markedName?_eq_some.mpr ⟨_, _, rfl, rfl, rfl, h.unmarkedForIdentity⟩

/-- Names that cannot end the marks around them. -/
def Identity.IsUnmarked : Identity → Prop
  | .user name host =>
    (∀ c ∈ name.toList, Row.isIdentityMark c = false) ∧
      ∀ c ∈ host.toList, Row.isIdentityMark c = false
  | .role name => ∀ c ∈ name.toList, Row.isIdentityMark c = false

/-- An identity is read from its quoted form whatever stands behind it, save another host. A role
has to have a name. -/
theorem Identity.IsUnmarked.identity? {identity : Identity} (h : identity.IsUnmarked)
    {rest : List Char} (hrest : after? "@" rest = none) :
    Row.identity? (identity.sql.toList ++ rest) =
      if identity = .role "" then none else some identity := by
  cases identity with
  | user name host =>
    have hsplit : (Identity.user name host).sql.toList ++ rest =
        (singleQuoted name).toList ++ ("@".toList ++ ((singleQuoted host).toList ++ rest)) := by
      simp [Identity.sql]
    rw [hsplit, if_neg (by simp)]
    simp only [Row.identity?, Option.bind_eq_bind, markedName?_singleQuoted h.1, Option.bind_some,
      after?_eq_some.mpr rfl, markedName?_singleQuoted h.2, String.ofList_toList]
  | role name =>
    simp only [Identity.sql, Row.identity?, Option.bind_eq_bind, markedName?_singleQuoted h,
      Option.bind_some, hrest, Option.bind_none, List.isEmpty_iff, String.toList_eq_nil_iff,
      String.ofList_toList, Identity.role.injEq]

theorem Identity.IsOrdinary.identity? {identity : Identity} (h : identity.IsOrdinary)
    {rest : List Char} (hrest : after? "@" rest = none) :
    Row.identity? (identity.sql.toList ++ rest) = some identity := by
  cases identity with
  | user name host =>
    have hunmarked : (Identity.user name host).IsUnmarked :=
      ⟨h.1.unmarkedForIdentity, h.2.unmarkedForIdentity⟩
    rw [hunmarked.identity? hrest, if_neg (by simp)]
  | role name =>
    have hunmarked : (Identity.role name).IsUnmarked := h.1.unmarkedForIdentity
    rw [hunmarked.identity? hrest, if_neg (by simpa using h.2)]

/-! Objects. -/

/-- Nothing is left of an empty reference. -/
theorem reference?_nil : Row.reference? false [] = some ([], []) :=
  rfl

theorem reference?_cons {c : Char} {s reference rest : List Char} (hink : isBlank c = false)
    (htick : c ≠ backTick) (hread : Row.reference? false s = some (reference, rest)) :
    Row.reference? false (c :: s) = some (c :: reference, rest) := by
  rw [Row.reference?, if_neg htick, hink, hread]
  rfl

theorem reference?_of_ink {name s reference rest : List Char}
    (h : ∀ c ∈ name, isBlank c = false ∧ c ≠ backTick)
    (hread : Row.reference? false s = some (reference, rest)) :
    Row.reference? false (name ++ s) = some (name ++ reference, rest) := by
  induction name with
  | nil => exact hread
  | cons c name ih =>
    obtain ⟨hink, htick⟩ := h c List.mem_cons_self
    exact reference?_cons hink htick (ih fun d hd => h d (List.mem_cons_of_mem c hd))

theorem reference?_inQuotes {name s reference rest : List Char} (h : backTick ∉ name)
    (hread : Row.reference? false s = some (reference, rest)) :
    Row.reference? true (name ++ backTick :: s) = some (name ++ backTick :: reference, rest) := by
  induction name with
  | nil =>
    rw [List.nil_append, Row.reference?, if_pos rfl, Bool.not_true, hread]
    rfl
  | cons c name ih =>
    simp only [List.mem_cons, not_or] at h
    rw [List.cons_append, Row.reference?, if_neg (Ne.symm h.1), Bool.not_true, Bool.and_false,
      if_neg Bool.false_ne_true, ih h.2]
    rfl

/-- A name without marks in a reference: between back-ticks, or an asterisk for all names. -/
inductive IsQuoted : String → String → Prop
  | quoted {name : String} (h : ∀ c ∈ name.toList, isNameMark c = false) :
      IsQuoted name (backTicked name)
  | all : IsQuoted "*" "*"

theorem isQuoted_quoteDatabase {name : String} (h : ∀ c ∈ name.toList, isNameMark c = false) :
    IsQuoted name (quoteDatabase name) := by
  rw [quoteDatabase_of_unmarked h]
  split
  next hall =>
    rw [hall]
    exact .all
  next => exact .quoted h

theorem isQuoted_quoteTable {name : String} (h : ∀ c ∈ name.toList, isNameMark c = false) :
    IsQuoted (if name = "" then "*" else name) (quoteTable name) := by
  unfold quoteTable
  by_cases hall : name = "*" ∨ name = ""
  · rw [if_pos hall]
    rcases hall with rfl | rfl <;> exact .all
  · rw [if_neg hall, if_neg fun hempty => hall (Or.inr hempty)]
    exact .quoted h

theorem IsPart.isQuoted {name text : String} (h : IsPart name text) : IsQuoted name text := by
  cases h with
  | quoted h => exact .quoted h.unmarked
  | all => exact .all

theorem backTick_not_mem {name : List Char} (h : ∀ c ∈ name, isNameMark c = false) :
    backTick ∉ name := by
  intro hc
  have hmark := h backTick hc
  cases hmark

theorem IsQuoted.reference? {name text : String} (h : IsQuoted name text)
    {s reference rest : List Char} (hread : Row.reference? false s = some (reference, rest)) :
    Row.reference? false (text.toList ++ s) = some (text.toList ++ reference, rest) := by
  cases h with
  | quoted h =>
    simp only [toList_backTicked, List.cons_append, List.append_assoc, List.nil_append]
    rw [Row.reference?, if_pos rfl, Bool.not_false, reference?_inQuotes (backTick_not_mem h) hread]
    rfl
  | all => exact reference?_cons rfl (by decide) hread

/-- A part and, behind a dot, a name make a reference. -/
theorem IsQuoted.isReference {database text : String} {name : List Char}
    (h : IsQuoted database text) (hname : Row.reference? false name = some (name, [])) :
    Row.IsReference (text.toList ++ '.' :: name) :=
  ⟨by simp, h.reference? (reference?_cons rfl (by decide) hname)⟩

/-- A database, a dot and what stands in that database. -/
def reference (database : String) (name : List Char) : List Char :=
  (quoteDatabase database).toList ++ '.' :: name

theorem cutAtDot_inQuotes {name s : List Char} (h : backTick ∉ name) :
    cutAtDot true (name ++ backTick :: s) =
      (name ++ backTick :: (cutAtDot false s).1, (cutAtDot false s).2) := by
  induction name with
  | nil => rfl
  | cons c name ih =>
    simp only [List.mem_cons, not_or] at h
    rw [List.cons_append, cutAtDot, Bool.not_true, Bool.and_false, if_neg Bool.false_ne_true,
      if_neg (Ne.symm h.1), ih h.2]
    rfl

/-- Dots in a quoted database do not end it. -/
theorem IsQuoted.cutAtDot {database text : String} (h : IsQuoted database text)
    (name : List Char) :
    cutAtDot false (text.toList ++ '.' :: name) = (text.toList, some name) := by
  cases h with
  | quoted h =>
    have hquote : decide (backTick = '.') = false := rfl
    simp only [toList_backTicked, List.cons_append, List.append_assoc, List.nil_append]
    rw [AccountGrants.cutAtDot, hquote, Bool.false_and, if_neg Bool.false_ne_true, if_pos rfl,
      Bool.not_false, cutAtDot_inQuotes (backTick_not_mem h)]
    rfl
  | all => rfl

theorem strip_of_unmarked {name : List Char} (h : ∀ c ∈ name, isNameMark c = false) :
    strip isNameMark name = name :=
  strip_of_ink (fun c hc => h c (List.mem_of_mem_head? hc))
    (fun c hc => h c (List.mem_of_getLast? hc))

/-- Back-ticks around a name are stripped with the marks at its ends. -/
theorem strip_backTicked (name : String) :
    strip isNameMark (backTicked name).toList = strip isNameMark name.toList := by
  have htick : ∀ c ∈ [backTick], isNameMark c = true := List.all_eq_true.mp rfl
  have hsplit : (backTicked name).toList = [backTick] ++ name.toList ++ [backTick] := by
    simp [toList_backTicked]
  rw [hsplit, strip_append_all htick htick]

theorem IsQuoted.strip_eq {name text : String} (h : IsQuoted name text) :
    strip isNameMark text.toList = name.toList := by
  cases h with
  | quoted h => rw [strip_backTicked, strip_of_unmarked h]
  | all => rfl

theorem IsQuoted.splitReference {database text : String} (h : IsQuoted database text)
    (name : List Char) : splitReference (text.toList ++ '.' :: name) =
      (database, some (String.ofList (strip isNameMark name))) := by
  rw [AccountGrants.splitReference, h.cutAtDot]
  simp [h.strip_eq]

/-- A table is read from its quoted form. An asterisk stands for the empty name. -/
theorem table?_sql {database name : String}
    (hdatabase : ∀ c ∈ database.toList, isNameMark c = false)
    (hname : ∀ c ∈ name.toList, isNameMark c = false) {who : List Char}
    (hwho : Row.IsRecipient who) :
    Row.table? ("ON".toList ++ ' ' :: ((Object.table database name).sql.toList ++
      ' ' :: ("TO".toList ++ ' ' :: who))) =
      some (.table database (if name = "" then "*" else name), who) := by
  refine Row.table?_eq_some.mpr ⟨[' '], reference database (quoteTable name).toList, " TO ".toList,
    ?_, ?_, isGap_space, ?_, Row.isTo_space, hwho⟩
  · simp [Object.sql, reference]
  · rw [Row.tableOf, reference, (isQuoted_quoteDatabase hdatabase).splitReference,
      (isQuoted_quoteTable hname).strip_eq]
    simp
  · have hread := (isQuoted_quoteTable hname).reference? reference?_nil
    rw [List.append_nil] at hread
    exact (isQuoted_quoteDatabase hdatabase).isReference hread

/-- A routine is read from its kind, the quoted database and its bare name. -/
theorem routine?_sql (kind : RoutineKind) {database name : String}
    (hdatabase : IsName database.toList) (hname : IsName name.toList)
    (hink : ∀ c ∈ name.toList, isBlank c = false) {who : List Char} (hwho : Row.IsRecipient who) :
    Row.routine? ("ON".toList ++ ' ' :: ((Object.routine kind database name).sql.toList ++
      ' ' :: ("TO".toList ++ ' ' :: who))) = some (.routine kind database name, who) := by
  refine Row.routine?_eq_some.mpr ⟨[' '], kind, [' '], reference database name.toList,
    " TO ".toList, ?_, ?_, isGap_space, isGap_space, ?_, Row.isTo_space, hwho⟩
  · simp [Object.sql, reference]
  · rw [Row.routineOf, reference, (isQuoted_quoteDatabase hdatabase.unmarked).splitReference,
      strip_of_unmarked hname.unmarked]
    simp
  · have hread := reference?_of_ink
      (fun c hc => ⟨hink c hc, (not_mark_of_isName hname hc).1⟩) reference?_nil
    rw [List.append_nil] at hread
    exact (isQuoted_quoteDatabase hdatabase.unmarked).isReference hread

end AccountGrants
