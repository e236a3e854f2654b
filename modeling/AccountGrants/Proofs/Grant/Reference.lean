import AccountGrants.Proofs.Grant.Holder
import AccountGrants.Proofs.Row.Carried

/-!
References to what stands in a database. A reference is written from two names, with a dot between
them and only the database quoted, so it is the names that decide whether it is read to its end and
taken apart at that dot (`isLegible_iff`). Where it is not, nothing that is read instead has the
same two names (`reference_eq_of_names`).
-/

namespace AccountGrants

open Text

/-- The back-ticks of a text come in pairs, and each character outside of them passes. `quoted`
holds between two back-ticks. -/
def quotesClose (passes : Char → Bool) (quoted : Bool) : List Char → Bool
  | [] => !quoted
  | c :: s =>
    if c = backTick then quotesClose passes (!quoted) s
    else (quoted || passes c) && quotesClose passes quoted s

/-- A character that may stand in a reference outside back-ticks. -/
def isInk (c : Char) : Bool :=
  !isBlank c

/-- A character that may stand in front of the dot of a reference outside back-ticks. -/
def isNotDot (c : Char) : Bool :=
  c != '.'

section QuotesClose

variable {passes : Char → Bool} {s t : List Char}

/-- Between back-ticks everything passes. -/
theorem quotesClose_inQuotes (h : backTick ∉ s) :
    quotesClose passes true (s ++ backTick :: t) = quotesClose passes false t := by
  induction s with
  | nil => rfl
  | cons c s ih =>
    simp only [List.mem_cons, not_or] at h
    rw [List.cons_append, quotesClose, if_neg (Ne.symm h.1), ih h.2, Bool.true_or, Bool.true_and]

theorem quotesClose_of_not_mem (h : backTick ∉ s) :
    quotesClose passes false s = s.all passes := by
  induction s with
  | nil => rfl
  | cons c s ih =>
    simp only [List.mem_cons, not_or] at h
    rw [quotesClose, if_neg (Ne.symm h.1), ih h.2, Bool.false_or, List.all_cons]

/-- A text is a reference to its end if its quotes close and no blank stands outside of them. -/
theorem reference?_eq_self {quoted : Bool} :
    Row.reference? quoted s = some (s, []) ↔ quotesClose isInk quoted s = true := by
  have hgrow : ∀ {quoted : Bool} {c : Char} {s : List Char},
      (Row.reference? quoted s).map (Row.grow c) = some (c :: s, []) ↔
        Row.reference? quoted s = some (s, []) := by
    intro quoted c s
    rw [Option.map_eq_some_iff]
    constructor
    · rintro ⟨⟨taken, rest⟩, hread, heq⟩
      cases heq
      exact hread
    · exact fun hread => ⟨_, hread, rfl⟩
  induction s generalizing quoted with
  | nil => cases quoted <;> simp [Row.reference?, quotesClose]
  | cons c s ih =>
    rw [Row.reference?, quotesClose]
    by_cases htick : c = backTick
    · rw [if_pos htick, if_pos htick]
      exact hgrow.trans ih
    rw [if_neg htick, if_neg htick]
    by_cases hends : (isBlank c && !quoted) = true
    · rw [if_pos hends]
      simp only [Bool.and_eq_true, Bool.not_eq_true'] at hends
      simp [isInk, hends]
    · have hpasses : (quoted || isInk c) = true := by
        cases quoted with
        | true => rfl
        | false => simpa [isInk] using hends
      rw [if_neg hends, hpasses, Bool.true_and]
      exact hgrow.trans ih

/-- A text is cut at a dot if its quotes close in front of it and no dot stands outside of them. -/
theorem cutAtDot_append {quoted : Bool} :
    cutAtDot quoted (s ++ '.' :: t) = (s, some t) ↔ quotesClose isNotDot quoted s = true := by
  have hgrow : ∀ {cut : List Char × Option (List Char)} {c : Char} {s : List Char},
      (c :: cut.1, cut.2) = (c :: s, some t) ↔ cut = (s, some t) := by
    rintro ⟨database, name⟩ c s
    simp
  induction s generalizing quoted with
  | nil =>
    have hdot : ('.' : Char) ≠ backTick := by decide
    cases quoted <;> simp [cutAtDot, quotesClose, hdot]
  | cons c s ih =>
    rw [List.cons_append, cutAtDot, quotesClose]
    by_cases htick : c = backTick
    · have hdot : ¬(decide (c = '.') && !quoted) = true := by simp [htick, backTick]
      rw [if_neg hdot, if_pos htick, if_pos htick]
      exact hgrow.trans ih
    rw [if_neg htick, if_neg htick]
    by_cases hends : (decide (c = '.') && !quoted) = true
    · rw [if_pos hends]
      simp only [Bool.and_eq_true, decide_eq_true_eq, Bool.not_eq_true'] at hends
      simp [isNotDot, hends]
    · have hpasses : (quoted || isNotDot c) = true := by
        cases quoted with
        | true => rfl
        | false => simpa [isNotDot] using hends
      rw [if_neg hends, hpasses, Bool.true_and]
      exact hgrow.trans ih

end QuotesClose

/-! The reference to a routine. -/

/-- A database and a routine in it whose names can be told from their reference, with a space
behind it. -/
structure IsLegible (database name : String) : Prop where
  /-- The dot between the names is the first one outside back-ticks. -/
  cut : quotesClose isNotDot false (quoteDatabase database).toList = true
  /-- No blank ends the reference. -/
  ink : quotesClose isInk false (reference database name.toList) = true
  /-- The space behind the reference begins no requirement. -/
  noRequire : ¬"REQUIRE".toList <:+ name.toList

instance (database name : String) : Decidable (IsLegible database name) :=
  decidable_of_iff
    (quotesClose isNotDot false (quoteDatabase database).toList = true ∧
      quotesClose isInk false (reference database name.toList) = true ∧
      ¬"REQUIRE".toList <:+ name.toList)
    ⟨fun h => ⟨h.1, h.2.1, h.2.2⟩, fun h => ⟨h.cut, h.ink, h.noRequire⟩⟩

/-- The quotes around a database without back-ticks close behind it. -/
theorem quotesClose_quoteDatabase {passes : Char → Bool} {database : String}
    (h : backTick ∉ database.toList) (hall : passes '*' = true) (s : List Char) :
    quotesClose passes false ((quoteDatabase database).toList ++ s) =
      quotesClose passes false s := by
  rw [quoteDatabase_of_last fun hlast => h (List.mem_of_getLast? hlast)]
  split
  next =>
    have hstar : quotesClose passes false ("*".toList ++ s) =
        (passes '*' && quotesClose passes false s) := rfl
    rw [hstar, hall, Bool.true_and]
  next =>
    rw [toList_backTicked, List.cons_append, List.append_assoc, quotesClose, if_pos rfl]
    exact quotesClose_inQuotes h

/-- No dot of such a database is taken for the one behind it. -/
theorem quotesClose_quoteDatabase_self {database : String} (h : backTick ∉ database.toList) :
    quotesClose isNotDot false (quoteDatabase database).toList = true := by
  rw [← List.append_nil (quoteDatabase database).toList, quotesClose_quoteDatabase h rfl]
  rfl

/-- Without back-ticks in the names it is the routine alone that decides. -/
theorem isLegible_iff_of_not_mem {database name : String} (hdatabase : backTick ∉ database.toList)
    (hname : backTick ∉ name.toList) : IsLegible database name ↔
      (∀ c ∈ name.toList, isBlank c = false) ∧ ¬"REQUIRE".toList <:+ name.toList := by
  have hcut := quotesClose_quoteDatabase_self hdatabase
  have hink : quotesClose isInk false (reference database name.toList) = true ↔
      ∀ c ∈ name.toList, isBlank c = false := by
    have hdot : quotesClose isInk false ('.' :: name.toList) =
        quotesClose isInk false name.toList := rfl
    rw [reference, quotesClose_quoteDatabase hdatabase rfl, hdot, quotesClose_of_not_mem hname]
    simp [isInk]
  exact ⟨fun h => ⟨hink.mp h.ink, h.noRequire⟩, fun h => ⟨hcut, hink.mpr h.1, h.2⟩⟩

-- a back-tick in a name pairs with one around it, and leaves the blank outside
example : IsLegible "a` b`" "c" ∧ ¬IsLegible "a` b" "c" := by decide

theorem isBlank_of_isNameMark {c : Char} (h : isNameMark c = true) : isBlank c = false := by
  simp only [isNameMark, Bool.or_eq_true, beq_iff_eq] at h
  rcases h with (rfl | rfl) | rfl <;> rfl

/-- How many characters of a text are no marks around names. -/
def weight (s : List Char) : Nat :=
  s.countP fun c => !isNameMark c

theorem weight_append (s t : List Char) : weight (s ++ t) = weight s + weight t :=
  List.countP_append

/-- Only marks are stripped from a name. -/
theorem weight_strip (s : List Char) : weight (strip isNameMark s) = weight s := by
  have hmarks : ∀ {s : List Char}, (∀ c ∈ s, isNameMark c = true) → weight s = 0 := by
    intro s h
    exact List.countP_eq_zero.mpr fun c hc => by simp [h c hc]
  obtain ⟨a, b, hs, ha, hb⟩ := strip_split isNameMark s
  conv_rhs => rw [hs]
  rw [weight_append, weight_append, hmarks ha, hmarks hb, Nat.zero_add, Nat.add_zero]

theorem weight_quoteDatabase (name : String) :
    weight (quoteDatabase name).toList = weight name.toList := by
  have htick : weight [backTick] = 0 := rfl
  have hquoted : weight (backTicked name).toList = weight name.toList := by
    rw [toList_backTicked, ← List.singleton_append, weight_append, weight_append, htick,
      Nat.zero_add, Nat.add_zero]
  unfold quoteDatabase
  split
  next => rfl
  next => exact hquoted

/-- Of two texts of one weight, in front of the same text, the one that another character follows
is the longer one, by marks. -/
theorem eq_append_of_weight {a b a' b' : List Char} {c : Char} (h : a ++ b = a' ++ c :: b')
    (hc : isNameMark c = false) (hweight : weight a = weight a') :
    ∃ marks, a' = a ++ marks ∧ b = marks ++ c :: b' ∧ ∀ d ∈ marks, isNameMark d = true := by
  rcases List.append_eq_append_iff.mp h with ⟨marks, rfl, hb⟩ | ⟨more, rfl, hb⟩
  · refine ⟨marks, rfl, hb, fun d hd => ?_⟩
    rw [weight_append] at hweight
    have hzero : weight marks = 0 := by omega
    simpa using List.countP_eq_zero.mp hzero d hd
  · cases more with
    | nil => exact ⟨[], by simp, by simpa using hb.symm, by simp⟩
    | cons d more =>
      obtain ⟨rfl, -⟩ := List.cons.inj hb
      have hone : weight (c :: more) = weight more + 1 := by simp [weight, hc]
      rw [weight_append, hone] at hweight
      omega

/-- What is read as the reference and names the same two names is the reference that was
written. -/
theorem reference_eq_of_names {database name : String} {found rest behind : List Char}
    (h : found ++ rest = reference database name.toList ++ ' ' :: behind) (hrest : StartsBlank rest)
    (hdatabase : (splitReference found).1 = database)
    (hname : (splitReference found).2.getD (splitReference found).1 = name) :
    found = reference database name.toList ∧
      cutAtDot false found = ((quoteDatabase database).toList, some name.toList) := by
  have hmarks : ∀ {marks s : List Char} {c : Char}, (∀ d ∈ marks, isNameMark d = true) →
      rest = marks ++ c :: s → marks = [] ∧ isBlank c = true := by
    intro marks s c hmarks hsplit
    obtain ⟨blank, left, rfl, hblank⟩ := hrest
    cases marks with
    | nil =>
      cases hsplit
      exact ⟨rfl, hblank⟩
    | cons d marks =>
      cases hsplit
      rw [isBlank_of_isNameMark (hmarks blank List.mem_cons_self)] at hblank
      cases hblank
  rw [reference, List.append_assoc, List.cons_append] at h
  unfold AccountGrants.splitReference at hdatabase hname
  rcases hcut : cutAtDot false found with ⟨front, _ | back⟩
  all_goals
    rw [hcut] at hdatabase hname
    dsimp only [Option.map_some, Option.getD_some] at hdatabase hname
    obtain rfl := Row.cutAtDot_eq hcut
    have hfront : weight front = weight (quoteDatabase database).toList := by
      rw [weight_quoteDatabase, ← hdatabase, String.toList_ofList, weight_strip]
  case none =>
    -- the dot in the written reference would have to be a blank
    rw [Option.elim_none, List.append_nil] at h
    obtain ⟨marks, -, hsplit, hall⟩ := eq_append_of_weight h rfl hfront
    obtain ⟨-, hblank⟩ := hmarks hall hsplit
    cases hblank
  case some =>
    rw [Option.elim_some, List.append_assoc, List.cons_append] at h
    obtain ⟨marks, hquoted, hsplit, hall⟩ := eq_append_of_weight h rfl hfront
    cases marks with
    | cons d marks =>
      obtain ⟨rfl, -⟩ := List.cons.inj hsplit
      cases hall '.' List.mem_cons_self
    | nil =>
      obtain rfl : (quoteDatabase database).toList = front := by rw [hquoted, List.append_nil]
      have hback : weight back = weight name.toList := by
        rw [← hname, String.toList_ofList, weight_strip]
      obtain ⟨marks, hroutine, hsplit, hall⟩ :=
        eq_append_of_weight (List.cons.inj hsplit).2 rfl hback
      obtain ⟨rfl, -⟩ := hmarks hall hsplit
      obtain rfl : name.toList = back := by rw [hroutine, List.append_nil]
      exact ⟨rfl, rfl⟩

theorem strip_quoteDatabase (database : String) :
    strip isNameMark (quoteDatabase database).toList = strip isNameMark database.toList := by
  unfold quoteDatabase
  split
  next => rfl
  next => exact strip_backTicked database

section Stripped

variable {database name : String} (hdatabase : strip isNameMark database.toList = database.toList)

include hdatabase

theorem quoteDatabase_of_stripped :
    quoteDatabase database = if database = "*" then "*" else backTicked database := by
  refine quoteDatabase_of_last fun hlast => ?_
  rw [← hdatabase] at hlast
  cases last_strip isNameMark _ backTick hlast

theorem head_reference (name : List Char) :
    ∃ c s, reference database name = c :: s ∧ (c = backTick ∨ c = '*') := by
  rw [reference, quoteDatabase_of_stripped hdatabase]
  split
  next => exact ⟨'*', _, rfl, Or.inr rfl⟩
  next => exact ⟨backTick, _, by rw [toList_backTicked]; rfl, Or.inl rfl⟩

/-- A reference that is cut at its dot names the two names that it was written from. -/
theorem routineOf_reference (kind : RoutineKind)
    (hname : strip isNameMark name.toList = name.toList)
    (hcut : cutAtDot false (reference database name.toList) =
      ((quoteDatabase database).toList, some name.toList)) :
    Row.routineOf kind (reference database name.toList) = .routine kind database name := by
  rw [Row.routineOf, splitReference, hcut]
  simp [strip_quoteDatabase, hdatabase, hname]

end Stripped

theorem isLegible_iff {database name : String} : IsLegible database name ↔
    Row.IsReference (reference database name.toList) ∧
      cutAtDot false (reference database name.toList) =
        ((quoteDatabase database).toList, some name.toList) ∧
      ¬"REQUIRE".toList <:+ name.toList := by
  have hne : reference database name.toList ≠ [] := by simp [reference]
  rw [Row.IsReference, and_iff_right hne, reference?_eq_self, reference, cutAtDot_append]
  exact ⟨fun h => ⟨h.ink, h.cut, h.noRequire⟩, fun h => ⟨h.2.1, h.1, h.2.2⟩⟩

end AccountGrants
