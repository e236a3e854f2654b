import AccountGrants.Row
import AccountGrants.Proofs.Text.Scan

/-!
What the readers of rows accept. Each shape is given by the pieces that it is put together from,
and the text behind TO may be exchanged for any other without a change to what stands before it
(`ReadsUpTo`).
-/

namespace AccountGrants.Row

open Text

/-- The text that begins with an identity: one line that does not begin with a blank. -/
structure IsRecipient (who : List Char) : Prop where
  ne_nil : who ≠ []
  startsInk : StartsInk who
  line : '\n' ∉ who

/-- The word TO between two gaps. -/
def IsTo (mid : List Char) : Prop :=
  ∃ before after, mid = before ++ ("TO".toList ++ after) ∧ IsGap before ∧ IsGap after

theorem isTo_space : IsTo " TO ".toList :=
  ⟨[' '], [' '], rfl, isGap_space, isGap_space⟩

theorem recipient?_eq_some {s who : List Char} :
    recipient? s = some who ↔ ∃ mid, s = mid ++ who ∧ IsTo mid ∧ IsRecipient who := by
  constructor
  · intro h
    obtain ⟨s₁, h₁, t₁⟩ := Option.bind_eq_some_iff.mp h
    obtain ⟨s₂, h₂, t₂⟩ := Option.bind_eq_some_iff.mp t₁
    obtain ⟨s₃, h₃, hline⟩ := Option.bind_eq_some_iff.mp t₂
    obtain ⟨before, rfl, hbefore, -⟩ := afterGap?_eq_some.mp h₁
    obtain rfl := after?_eq_some.mp h₂
    obtain ⟨after, rfl, hafter, hink⟩ := afterGap?_eq_some.mp h₃
    split at hline
    next => cases hline
    next hsome =>
      cases Option.some.inj hline
      simp only [Bool.or_eq_true, List.isEmpty_iff, List.contains_iff_mem, not_or] at hsome
      exact ⟨_, by simp only [List.append_assoc], ⟨before, after, rfl, hbefore, hafter⟩,
        hsome.1, hink, hsome.2⟩
  · rintro ⟨_, rfl, ⟨before, after, rfl, hbefore, hafter⟩, hwho⟩
    have hword : StartsInk ("TO".toList ++ (after ++ who)) := startsInk_of_head rfl rfl
    simp only [recipient?, List.append_assoc, afterGap?_append hbefore hword,
      Option.bind_eq_bind, Option.bind_some, after?_eq_some.mpr rfl,
      afterGap?_append hafter hwho.startsInk]
    simp [hwho.ne_nil, hwho.line]

theorem IsTo.startsBlank {mid : List Char} (hmid : IsTo mid) (s : List Char) :
    StartsBlank (mid ++ s) := by
  obtain ⟨before, after, rfl, ⟨hne, hblank⟩, -⟩ := hmid
  cases before with
  | nil => exact absurd rfl hne
  | cons c before => exact ⟨c, _, rfl, hblank c List.mem_cons_self⟩

/-! References to objects. -/

theorem reference?_split {quoted : Bool} {s reference rest : List Char}
    (h : reference? quoted s = some (reference, rest)) :
    s = reference ++ rest ∧ ∀ c ∈ rest.head?, isBlank c = true := by
  induction s generalizing quoted reference with
  | nil =>
    cases quoted <;> simp only [reference?, Bool.false_eq_true, if_false, if_true, reduceCtorEq,
      Option.some.injEq, Prod.mk.injEq] at h
    obtain ⟨rfl, rfl⟩ := h
    simp
  | cons c s ih =>
    rw [reference?] at h
    split at h
    next =>
      obtain ⟨⟨taken, left⟩, hread, hgrow⟩ := Option.map_eq_some_iff.mp h
      cases hgrow
      obtain ⟨rfl, hhead⟩ := ih hread
      exact ⟨rfl, hhead⟩
    next =>
      split at h
      next hblank =>
        cases Option.some.inj h
        simp only [Bool.and_eq_true] at hblank
        exact ⟨rfl, by simpa using hblank.1⟩
      next =>
        obtain ⟨⟨taken, left⟩, hread, hgrow⟩ := Option.map_eq_some_iff.mp h
        cases hgrow
        obtain ⟨rfl, hhead⟩ := ih hread
        exact ⟨rfl, hhead⟩

/-- What follows a reference does not matter as long as it begins with a blank. -/
theorem reference?_swap {quoted : Bool} {reference rest : List Char}
    (h : reference? quoted (reference ++ rest) = some (reference, rest)) {rest' : List Char}
    (hrest : ∀ c ∈ rest'.head?, isBlank c = true) :
    reference? quoted (reference ++ rest') = some (reference, rest') := by
  induction reference generalizing quoted with
  | nil =>
    have hquoted : quoted = false := by
      cases quoted with
      | false => rfl
      | true =>
        cases rest with
        | nil => simp [reference?] at h
        | cons c rest =>
          simp only [List.nil_append, reference?, Bool.not_true, Bool.and_false, Bool.false_eq_true,
            if_false] at h
          split at h <;> obtain ⟨⟨taken, left⟩, -, hgrow⟩ := Option.map_eq_some_iff.mp h <;>
            cases hgrow
    subst hquoted
    cases rest' with
    | nil => rfl
    | cons c rest' =>
      have hblank : isBlank c = true := hrest c rfl
      have htick : c ≠ backTick := ne_of_isBlank hblank rfl
      simp [reference?, htick, hblank]
  | cons c reference ih =>
    have hgrown : ∀ {q : Bool},
        (reference? q (reference ++ rest)).map (grow c) = some (c :: reference, rest) →
          reference? q (reference ++ rest) = some (reference, rest) := by
      intro q hq
      obtain ⟨⟨taken, left⟩, hread, hgrow⟩ := Option.map_eq_some_iff.mp hq
      cases hgrow
      exact hread
    rw [List.cons_append, reference?] at h ⊢
    split at h
    next htick => simp [htick, ih (hgrown h), grow]
    next htick =>
      split at h
      next => cases h
      next hink => simp [htick, hink, ih (hgrown h), grow]

/-- A complete reference: quotes closed, and blanks between quotes only. -/
def IsReference (reference : List Char) : Prop :=
  reference ≠ [] ∧ reference? false reference = some (reference, [])

theorem IsReference.startsInk {reference : List Char} (h : IsReference reference) :
    StartsInk reference := by
  obtain ⟨hne, hread⟩ := h
  cases reference with
  | nil => exact absurd rfl hne
  | cons c reference =>
    intro d hd
    cases hd
    rw [reference?] at hread
    split at hread
    next htick => rw [htick]; rfl
    next =>
      split at hread
      next => cases hread
      next hink => simpa using hink

/-- The table that a reference names. -/
def tableOf (reference : List Char) : Object :=
  .table (splitReference reference).1 ((splitReference reference).2.getD "")

/-- The routine that a reference names. -/
def routineOf (kind : RoutineKind) (reference : List Char) : Object :=
  .routine kind (splitReference reference).1
    ((splitReference reference).2.getD (splitReference reference).1)

/-- A reference, the word TO, and the text that begins with the identity. -/
theorem reference?_recipient? {s reference rest who : List Char} (hink : StartsInk s)
    (hread : reference? false s = some (reference, rest)) (hrest : recipient? rest = some who) :
    ∃ mid, s = reference ++ (mid ++ who) ∧ IsReference reference ∧ IsTo mid ∧ IsRecipient who := by
  obtain ⟨rfl, hhead⟩ := reference?_split hread
  obtain ⟨mid, rfl, hmid, hwho⟩ := recipient?_eq_some.mp hrest
  refine ⟨mid, rfl, ⟨?_, ?_⟩, hmid, hwho⟩
  · rintro rfl
    obtain ⟨c, rest, hc, hblank⟩ := hmid.startsBlank who
    rw [List.nil_append, hc] at hink
    exact absurd (hink c rfl) (by simp [hblank])
  · have hnone : ∀ c ∈ ([] : List Char).head?, isBlank c = true := by simp
    simpa using reference?_swap hread hnone

theorem reference?_of_isReference {reference mid who : List Char} (href : IsReference reference)
    (hmid : IsTo mid) :
    reference? false (reference ++ (mid ++ who)) = some (reference, mid ++ who) := by
  have hread : reference? false (reference ++ []) = some (reference, []) := by
    rw [List.append_nil, href.2]
  refine reference?_swap hread ?_
  obtain ⟨c, rest, hc, hblank⟩ := hmid.startsBlank who
  rw [hc]
  simpa using hblank

theorem table?_eq_some {s who : List Char} {object : Object} :
    table? s = some (object, who) ↔ ∃ gap reference mid,
      s = "ON".toList ++ (gap ++ (reference ++ (mid ++ who))) ∧ object = tableOf reference ∧
        IsGap gap ∧ IsReference reference ∧ IsTo mid ∧ IsRecipient who := by
  constructor
  · intro h
    obtain ⟨s₁, h₁, t₁⟩ := Option.bind_eq_some_iff.mp h
    obtain ⟨s₂, h₂, t₂⟩ := Option.bind_eq_some_iff.mp t₁
    obtain ⟨⟨reference, s₃⟩, h₃, t₃⟩ := Option.bind_eq_some_iff.mp t₂
    obtain ⟨who', h₄, hobject⟩ := Option.bind_eq_some_iff.mp t₃
    obtain rfl := after?_eq_some.mp h₁
    obtain ⟨gap, rfl, hgap, hink⟩ := afterGap?_eq_some.mp h₂
    obtain ⟨mid, rfl, href, hmid, hwho⟩ := reference?_recipient? hink h₃ h₄
    cases Option.some.inj hobject
    exact ⟨gap, reference, mid, rfl, rfl, hgap, href, hmid, hwho⟩
  · rintro ⟨gap, reference, mid, rfl, rfl, hgap, href, hmid, hwho⟩
    have hink := startsInk_append (t := mid ++ who) href.startsInk href.1
    simp only [table?, Option.bind_eq_bind, after?_eq_some.mpr rfl, Option.bind_some,
      afterGap?_append hgap hink, reference?_of_isReference href hmid,
      recipient?_eq_some.mpr ⟨mid, rfl, hmid, hwho⟩]
    rfl

theorem routineKind?_eq_some {s rest : List Char} {kind : RoutineKind} :
    routineKind? s = some (kind, rest) ↔ s = kind.sql.toList ++ rest := by
  constructor
  · intro h
    rcases Option.or_eq_some_iff.mp h with h | ⟨-, h⟩ <;>
      obtain ⟨rest', hrest, hkind⟩ := Option.map_eq_some_iff.mp h <;> cases hkind
    · exact after?_eq_some.mp hrest
    · exact after?_eq_some.mp hrest
  · rintro rfl
    cases kind with
    | function => simp [routineKind?, RoutineKind.sql, after?_eq_some.mpr]
    | procedure =>
      have hnot : after? "FUNCTION" (RoutineKind.procedure.sql.toList ++ rest) = none := rfl
      rw [routineKind?, hnot]
      simp [RoutineKind.sql, after?_eq_some.mpr]

theorem routine?_eq_some {s who : List Char} {object : Object} :
    routine? s = some (object, who) ↔ ∃ gap kind gap' reference mid,
      s = "ON".toList ++ (gap ++ (kind.sql.toList ++ (gap' ++ (reference ++ (mid ++ who))))) ∧
        object = routineOf kind reference ∧ IsGap gap ∧ IsGap gap' ∧ IsReference reference ∧
        IsTo mid ∧ IsRecipient who := by
  constructor
  · intro h
    obtain ⟨s₁, h₁, t₁⟩ := Option.bind_eq_some_iff.mp h
    obtain ⟨s₂, h₂, t₂⟩ := Option.bind_eq_some_iff.mp t₁
    obtain ⟨⟨kind, s₃⟩, h₃, t₃⟩ := Option.bind_eq_some_iff.mp t₂
    obtain ⟨s₄, h₄, t₄⟩ := Option.bind_eq_some_iff.mp t₃
    obtain ⟨⟨reference, s₅⟩, h₅, t₅⟩ := Option.bind_eq_some_iff.mp t₄
    obtain ⟨who', h₆, hobject⟩ := Option.bind_eq_some_iff.mp t₅
    obtain rfl := after?_eq_some.mp h₁
    obtain ⟨gap, rfl, hgap, -⟩ := afterGap?_eq_some.mp h₂
    obtain rfl := routineKind?_eq_some.mp h₃
    obtain ⟨gap', rfl, hgap', hink⟩ := afterGap?_eq_some.mp h₄
    obtain ⟨mid, rfl, href, hmid, hwho⟩ := reference?_recipient? hink h₅ h₆
    cases Option.some.inj hobject
    exact ⟨gap, kind, gap', reference, mid, rfl, rfl, hgap, hgap', href, hmid, hwho⟩
  · rintro ⟨gap, kind, gap', reference, mid, rfl, rfl, hgap, hgap', href, hmid, hwho⟩
    have hink := startsInk_append (t := mid ++ who) href.startsInk href.1
    have hkind : StartsInk (kind.sql.toList ++ (gap' ++ (reference ++ (mid ++ who)))) := by
      intro c hc
      cases kind <;> cases hc <;> decide
    simp only [routine?, Option.bind_eq_bind, after?_eq_some.mpr rfl, Option.bind_some,
      afterGap?_append hgap hkind, routineKind?_eq_some.mpr rfl, afterGap?_append hgap' hink,
      reference?_of_isReference href hmid, recipient?_eq_some.mpr ⟨mid, rfl, hmid, hwho⟩]
    rfl

/-! Lists of roles. -/

theorem roleList?_split {place : RolePlace} {s list rest : List Char}
    (h : roleList? place s = some (list, rest)) : s = list ++ rest := by
  induction s generalizing place list with
  | nil =>
    rw [roleList?] at h
    split at h
    next => cases Option.some.inj h; rfl
    next => cases h
  | cons c s ih =>
    have hgrown : ∀ {p : RolePlace}, (roleList? p s).map (grow c) = some (list, rest) →
        c :: s = list ++ rest := by
      intro p hp
      obtain ⟨⟨taken, left⟩, hread, hgrow⟩ := Option.map_eq_some_iff.mp hp
      cases hgrow
      rw [ih hread]
      rfl
    rw [roleList?] at h
    split at h
    next => exact hgrown h
    split at h
    next => exact hgrown h
    split at h
    next => exact hgrown h
    split at h
    next => exact hgrown h
    split at h
    next => cases Option.some.inj h; rfl
    next => cases h

/-- A list of roles ends at a gap that no comma follows. -/
theorem roleList?_afterRole_gap {gap s : List Char} {c : Char} (hgap : IsGap gap)
    (hink : isBlank c = false) (hcomma : c ≠ ',') :
    roleList? .afterRole (gap ++ c :: s) = some ([], gap ++ c :: s) := by
  obtain ⟨hne, hblank⟩ := hgap
  cases gap with
  | nil => exact absurd rfl hne
  | cons b gap =>
    have hb : isBlank b = true := hblank b List.mem_cons_self
    have hbcomma : b ≠ ',' := ne_of_isBlank hb rfl
    have hnext : ((gap ++ c :: s).dropWhile isBlank).head? = some c := by
      have hall : ∀ d ∈ gap, isBlank d = true := fun d hd => hblank d (List.mem_cons_of_mem _ hd)
      rw [dropWhile_append_all hall (by simpa using hink)]
      rfl
    simp [roleList?, isRoleChar, hb, hbcomma, hnext, hcomma]

/-- A list of roles is read alike alone and in front of a gap that no comma follows. -/
theorem roleList?_append {place : RolePlace} {list gap s : List Char} {c : Char} (hgap : IsGap gap)
    (hink : isBlank c = false) (hcomma : c ≠ ',') :
    roleList? place (list ++ (gap ++ c :: s)) = some (list, gap ++ c :: s) ↔
      roleList? place list = some (list, []) := by
  induction list generalizing place with
  | nil =>
    by_cases hplace : place = .afterRole
    · rw [hplace]
      exact iff_of_true (roleList?_afterRole_gap hgap hink hcomma) rfl
    · obtain ⟨hne, hblank⟩ := hgap
      refine iff_of_false (fun h => ?_) (by simp [roleList?, hplace])
      cases gap with
      | nil => exact hne rfl
      | cons b gap =>
        have hb : isBlank b = true := hblank b List.mem_cons_self
        have hbcomma : b ≠ ',' := ne_of_isBlank hb rfl
        simp only [List.nil_append, List.cons_append, roleList?, isRoleChar, hb, hbcomma, hplace,
          Bool.not_true, Bool.false_and, Bool.false_eq_true, if_false, ne_eq, not_false_eq_true,
          if_true, decide_true, decide_false, Bool.and_true] at h
        obtain ⟨⟨taken, left⟩, -, hgrow⟩ := Option.map_eq_some_iff.mp h
        cases hgrow
  | cons d list ih =>
    have hgrow : ∀ {p : RolePlace},
        (roleList? p (list ++ (gap ++ c :: s))).map (grow d) = some (d :: list, gap ++ c :: s) ↔
          (roleList? p list).map (grow d) = some (d :: list, []) := by
      intro p
      simpa [Option.map_eq_some_iff, grow] using @ih p
    -- the look past a gap stops inside the list or at `c`
    have hlook : ((list ++ (gap ++ c :: s)).dropWhile isBlank).head? = some ',' ↔
        (list.dropWhile isBlank).head? = some ',' := by
      rw [List.dropWhile_append]
      split
      next hnil =>
        rw [dropWhile_append_all hgap.2 (by simpa using hink), List.isEmpty_iff.mp hnil]
        simp [hcomma]
      next hne =>
        cases hrest : list.dropWhile isBlank with
        | nil => simp [hrest] at hne
        | cons e rest => rfl
    rw [List.cons_append, roleList?, roleList?]
    simp only [hlook]
    split
    next => exact hgrow
    next =>
      split
      next => exact hgrow
      next =>
        split
        next => exact hgrow
        next =>
          split
          next => exact hgrow
          next => split <;> simp

theorem roleList?_append_to {place : RolePlace} {list mid : List Char} (hmid : IsTo mid)
    (who : List Char) : roleList? place (list ++ (mid ++ who)) = some (list, mid ++ who) ↔
      roleList? place list = some (list, []) := by
  obtain ⟨before, after, rfl, hbefore, -⟩ := hmid
  simp only [List.append_assoc]
  exact roleList?_append hbefore rfl (by decide)

/-- A reader takes a text up to the identity behind a TO, and nothing that it takes depends on the
text of the identity. -/
structure ReadsUpTo {α : Type} (read : List Char → Option (α × List Char)) : Prop where
  split : ∀ {s who : List Char} {a : α}, read s = some (a, who) →
    ∃ before mid, s = before ++ (mid ++ who) ∧ IsTo mid ∧ IsRecipient who
  swap : ∀ {before who : List Char} {a : α}, read (before ++ who) = some (a, who) →
    ∀ {who' : List Char}, IsRecipient who' → read (before ++ who') = some (a, who')

theorem table?_readsUpTo : ReadsUpTo table? where
  split h := by
    obtain ⟨gap, reference, mid, rfl, -, -, -, hmid, hwho⟩ := table?_eq_some.mp h
    exact ⟨"ON".toList ++ (gap ++ reference), mid, by simp only [List.append_assoc], hmid, hwho⟩
  swap h who' hwho' := by
    obtain ⟨gap, reference, mid, hbefore, rfl, hgap, href, hmid, -⟩ := table?_eq_some.mp h
    simp only [← List.append_assoc] at hbefore
    obtain rfl := List.append_cancel_right hbefore
    refine table?_eq_some.mpr ⟨gap, reference, mid, ?_, rfl, hgap, href, hmid, hwho'⟩
    simp only [List.append_assoc]

theorem routine?_readsUpTo : ReadsUpTo routine? where
  split h := by
    obtain ⟨gap, kind, gap', reference, mid, rfl, -, -, -, -, hmid, hwho⟩ := routine?_eq_some.mp h
    exact ⟨"ON".toList ++ (gap ++ (kind.sql.toList ++ (gap' ++ reference))), mid,
      by simp only [List.append_assoc], hmid, hwho⟩
  swap h who' hwho' := by
    obtain ⟨gap, kind, gap', reference, mid, hbefore, rfl, hgap, hgap', href, hmid, -⟩ :=
      routine?_eq_some.mp h
    simp only [← List.append_assoc] at hbefore
    obtain rfl := List.append_cancel_right hbefore
    refine routine?_eq_some.mpr ⟨gap, kind, gap', reference, mid, ?_, rfl, hgap, hgap', href, hmid,
      hwho'⟩
    simp only [List.append_assoc]

theorem membership?_eq_some {s who : List Char} {entitlement : Entitlement} :
    membership? s = some (entitlement, who) ↔ ∃ gap list mid,
      s = gap ++ (list ++ (mid ++ who)) ∧ entitlement = .membership (roles list) ∧ IsGap gap ∧
        StartsInk (list ++ (mid ++ who)) ∧
        roleList? .beforeRole (list ++ (mid ++ who)) = some (list, mid ++ who) ∧
        IsTo mid ∧ IsRecipient who := by
  constructor
  · intro h
    obtain ⟨s₁, h₁, t₁⟩ := Option.bind_eq_some_iff.mp h
    obtain ⟨⟨list, s₂⟩, h₂, t₂⟩ := Option.bind_eq_some_iff.mp t₁
    obtain ⟨who', h₃, hmember⟩ := Option.bind_eq_some_iff.mp t₂
    obtain ⟨gap, rfl, hgap, hink⟩ := afterGap?_eq_some.mp h₁
    obtain rfl := roleList?_split h₂
    obtain ⟨mid, rfl, hmid, hwho⟩ := recipient?_eq_some.mp h₃
    cases Option.some.inj hmember
    exact ⟨gap, list, mid, rfl, rfl, hgap, hink, h₂, hmid, hwho⟩
  · rintro ⟨gap, list, mid, rfl, rfl, hgap, hink, hread, hmid, hwho⟩
    simp only [membership?, Option.bind_eq_bind, afterGap?_append hgap hink, Option.bind_some,
      hread, recipient?_eq_some.mpr ⟨mid, rfl, hmid, hwho⟩]

theorem membership?_readsUpTo : ReadsUpTo membership? where
  split h := by
    obtain ⟨gap, list, mid, rfl, -, -, -, -, hmid, hwho⟩ := membership?_eq_some.mp h
    exact ⟨gap ++ list, mid, by simp only [List.append_assoc], hmid, hwho⟩
  swap h who' hwho' := by
    obtain ⟨gap, list, mid, hbefore, rfl, hgap, hink, hread, hmid, -⟩ := membership?_eq_some.mp h
    simp only [← List.append_assoc] at hbefore
    obtain rfl := List.append_cancel_right hbefore
    have hne : list ≠ [] := by
      rintro rfl
      obtain ⟨c, rest, hc, hblank⟩ := hmid.startsBlank _
      rw [List.nil_append, hc] at hink
      exact absurd (hink c rfl) (by simp [hblank])
    refine membership?_eq_some.mpr ⟨gap, list, mid, by simp only [List.append_assoc], rfl, hgap,
      startsInk_append (startsInk_of_append hink hne) hne, ?_, hmid, hwho'⟩
    exact (roleList?_append_to hmid who').mpr ((roleList?_append_to hmid _).mp hread)

/-! Privileges. -/

/-- The privileges that end with the first character, if an object follows it. -/
def privilegesHere? (object : List Char → Option α) (c : Char) (s : List Char) :
    Option (List Char × α) :=
  (if isBlank c then none else (afterGap? s).bind object).map fun found => ([c], found)

theorem privilegesBefore?_cons {α : Type} (object : List Char → Option α) (c : Char)
    (s : List Char) :
    privilegesBefore? object (c :: s) = if c = '\n' then none else
      (privilegesHere? object c s).or
        ((privilegesBefore? object s).map fun (list, found) => (c :: list, found)) := by
  rw [privilegesBefore?, privilegesHere?]
  split
  next => rfl
  next =>
    split
    next found hfound => rw [hfound]; rfl
    next hnone => rw [hnone]; rfl

/-- Without an object behind any gap there are no privileges. -/
theorem privilegesBefore?_eq_none_of_gap {α : Type} {object : List Char → Option α} {s : List Char}
    (h : ∀ gap u, IsGap gap → gap ++ u <:+ s → object u = none) :
    privilegesBefore? object s = none := by
  induction s with
  | nil => rfl
  | cons c s ih =>
    have hsuffix : s <:+ c :: s := List.suffix_cons c s
    have hhere : privilegesHere? object c s = none := by
      unfold privilegesHere?
      split
      next => rfl
      next =>
        cases hgap : afterGap? s with
        | none => rfl
        | some rest =>
          obtain ⟨gap, rfl, hblank, -⟩ := afterGap?_eq_some.mp hgap
          rw [Option.bind_some, h gap rest hblank hsuffix]
          rfl
    rw [privilegesBefore?_cons, hhere, ih fun gap u hgap hu => h gap u hgap (hu.trans hsuffix)]
    split <;> rfl

/-- Without an object anywhere there are no privileges. -/
theorem privilegesBefore?_eq_none {α : Type} {object : List Char → Option α} {s : List Char}
    (h : ∀ u, u <:+ s → object u = none) : privilegesBefore? object s = none :=
  privilegesBefore?_eq_none_of_gap fun gap u _ hu => h u ((List.suffix_append gap u).trans hu)

/-- If no object can be read behind a gap inside a list, privileges are read up to the end of the
list, or else beyond it. -/
theorem privilegesBefore?_list {α : Type} {object : List Char → Option α}
    {list rest : List Char} (hne : list ≠ []) (hline : '\n' ∉ list)
    (hends : EndsInk list) (hrest : StartsInk rest)
    (hinside : ∀ gap u, IsGap gap → gap ++ u <:+ list → u ≠ [] →
      object (u ++ ' ' :: rest) = none) :
    privilegesBefore? object (list ++ ' ' :: rest) =
      ((object rest).map fun found => (list, found)).or
        ((privilegesBefore? object rest).map fun (more, found) =>
          (list ++ ' ' :: more, found)) := by
  induction list with
  | nil => exact absurd rfl hne
  | cons c list ih =>
    simp only [List.mem_cons, not_or] at hline
    rw [List.cons_append, privilegesBefore?_cons, if_neg (Ne.symm hline.1), privilegesHere?]
    have hlist : EndsInk list := endsInk_of_append (s := [c]) hends
    by_cases hnil : list = []
    · subst hnil
      have hink : isBlank c = false := hends c rfl
      have hspace : privilegesBefore? object (' ' :: rest) =
          (privilegesBefore? object rest).map fun (more, found) => (' ' :: more, found) :=
        privilegesBefore?_cons object ' ' rest
      rw [hink, List.nil_append, afterGap?_space hrest, hspace, Option.map_map]
      rfl
    · have hsuffix : list <:+ c :: list := List.suffix_cons c list
      have hhere : (afterGap? (list ++ ' ' :: rest)).bind object = none := by
        rw [afterGap?_append_right hlist hnil]
        cases hgap : afterGap? list with
        | none => rfl
        | some u =>
          obtain ⟨gap, rfl, hblank, -⟩ := afterGap?_eq_some.mp hgap
          rw [Option.map_some, Option.bind_some]
          refine hinside gap u hblank hsuffix ?_
          rintro rfl
          rw [List.append_nil] at hlist
          exact dropWhile_ne_nil_of_endsInk hlist hblank.1 (List.dropWhile_eq_nil_iff.mpr hblank.2)
      rw [hhere, ih hnil hline.2 hlist
        fun gap u hgap hu => hinside gap u hgap (hu.trans hsuffix), Option.map_or, Option.map_map,
        Option.map_map]
      split <;> rfl

/-- Privileges are read up to the object if none can be read behind a gap inside their list. -/
theorem privilegesBefore?_append {α : Type} {object : List Char → Option α}
    {list rest : List Char} {found : α} (hne : list ≠ []) (hline : '\n' ∉ list)
    (hends : EndsInk list) (hrest : StartsInk rest) (hfound : object rest = some found)
    (hinside : ∀ gap u, IsGap gap → gap ++ u <:+ list → u ≠ [] →
      object (u ++ ' ' :: rest) = none) :
    privilegesBefore? object (list ++ ' ' :: rest) = some (list, found) := by
  rw [privilegesBefore?_list hne hline hends hrest hinside, hfound]
  rfl

/-- The privileges that are read begin with the first character. -/
theorem privilegesBefore?_head {α : Type} {object : List Char → Option α} {c : Char}
    {s list : List Char} {found : α} (h : privilegesBefore? object (c :: s) = some (list, found)) :
    ∃ more, list = c :: more := by
  rw [privilegesBefore?_cons] at h
  split at h
  next => cases h
  next =>
    rcases Option.or_eq_some_iff.mp h with hhere | ⟨-, hlater⟩
    · obtain ⟨found', -, heq⟩ := Option.map_eq_some_iff.mp hhere
      cases heq
      exact ⟨[], rfl⟩
    · obtain ⟨⟨more, found'⟩, -, heq⟩ := Option.map_eq_some_iff.mp hlater
      cases heq
      exact ⟨more, rfl⟩

/-- The entitlement that privileges on an object make. -/
def entitled : List Char × (Object × List Char) → Entitlement × List Char
  | (list, object, who) =>
    (.privileges (Privilege.canonicalize (Privilege.split (String.ofList list))) object, who)

theorem privileges?_eq (object : List Char → Option (Object × List Char)) (s : List Char) :
    privileges? object s = (afterGap? s).bind fun after =>
      ((privilegesBefore? object after).or
        ((blankPrivileges? (s.takeWhile isBlank)).bind fun blank =>
          (object after).map fun found => (blank, found))).map entitled := by
  unfold privileges?
  refine congrArg (Option.bind (afterGap? s)) (funext fun after => ?_)
  have hswap : ((object after).bind fun found =>
      (blankPrivileges? (s.takeWhile isBlank)).map (·, found)) =
      (blankPrivileges? (s.takeWhile isBlank)).bind fun blank =>
        (object after).map fun found => (blank, found) := by
    cases object after <;> cases blankPrivileges? (s.takeWhile isBlank) <;> rfl
  rw [hswap]
  dsimp only
  cases (privilegesBefore? object after).or ((blankPrivileges? (s.takeWhile isBlank)).bind
    fun blank => (object after).map fun found => (blank, found)) <;> rfl

/-! The identity. -/

/-- A name between two marks has none of its own. -/
theorem markedName?_eq_some {s name rest : List Char} :
    markedName? s = some (name, rest) ↔ ∃ opening closing,
      s = opening :: (name ++ closing :: rest) ∧ isIdentityMark opening = true ∧
        isIdentityMark closing = true ∧ ∀ c ∈ name, isIdentityMark c = false := by
  constructor
  · intro h
    cases s with
    | nil => cases h
    | cons opening s =>
      rw [markedName?] at h
      split at h
      next hopening =>
        split at h
        next => cases h
        next closing rest hdrop =>
          cases h
          refine ⟨opening, closing, ?_, hopening, ?_, fun c hc => ?_⟩
          · rw [← hdrop, List.takeWhile_append_dropWhile]
          · simpa using
              head_dropWhile (p := fun c => !isIdentityMark c) s closing (by rw [hdrop]; rfl)
          · simpa using List.mem_takeWhile_imp hc
      next => cases h
  · rintro ⟨opening, closing, rfl, hopening, hclosing, hname⟩
    have hall : ∀ c ∈ name, (!isIdentityMark c) = true := fun c hc => by rw [hname c hc]; rfl
    have hend : ∀ c ∈ (closing :: rest).head?, (!isIdentityMark c) = false := by
      rintro c ⟨⟩
      rw [hclosing]
      rfl
    rw [markedName?, if_pos hopening, dropWhile_append_all hall hend,
      takeWhile_append_all hall hend]

theorem markedName?_append {s name rest : List Char} (h : markedName? s = some (name, rest))
    (t : List Char) : markedName? (s ++ t) = some (name, rest ++ t) := by
  obtain ⟨opening, closing, rfl, hopening, hclosing, hname⟩ := markedName?_eq_some.mp h
  exact markedName?_eq_some.mpr ⟨opening, closing, by simp, hopening, hclosing, hname⟩

/-- Behind a text without marks no name ends. -/
theorem markedName?_append_none {s t : List Char} (h : markedName? s = none)
    (ht : ∀ c ∈ t, isIdentityMark c = false) : markedName? (s ++ t) = none := by
  cases s with
  | nil =>
    cases t with
    | nil => rfl
    | cons c t => simp [markedName?, ht c List.mem_cons_self]
  | cons c s =>
    rw [List.cons_append, markedName?]
    rw [markedName?] at h
    split at h
    next hc =>
      rw [if_pos hc]
      split at h
      next hdrop =>
        have hall : ∀ d ∈ s ++ t, (!isIdentityMark d) = true := by
          intro d hd
          rcases List.mem_append.mp hd with hd | hd
          · exact List.dropWhile_eq_nil_iff.mp hdrop d hd
          · simp [ht d hd]
        rw [List.dropWhile_eq_nil_iff.mpr hall]
      next => cases h
    next hc => rw [if_neg hc]

/-- An identity is a name and a host, or else a name that is not empty. -/
theorem identity?_eq_some {s : List Char} {identity : Identity} (h : identity? s = some identity) :
    (∃ name rest host behind, markedName? s = some (name, '@' :: rest) ∧
      markedName? rest = some (host, behind) ∧
      identity = .user (String.ofList name) (String.ofList host)) ∨
    ∃ name rest, markedName? s = some (name, rest) ∧ name ≠ [] ∧
      identity = .role (String.ofList name) := by
  obtain ⟨⟨name, rest⟩, hname, hread⟩ := Option.bind_eq_some_iff.mp h
  dsimp only at hread
  split at hread
  next host behind hhost =>
    cases hread
    obtain ⟨rest, hat, hhost⟩ := Option.bind_eq_some_iff.mp hhost
    obtain rfl := after?_eq_some.mp hat
    exact Or.inl ⟨name, rest, host, behind, hname, hhost, rfl⟩
  next =>
    split at hread
    next => cases hread
    next hne =>
      cases hread
      exact Or.inr ⟨name, rest, hname, by simpa using hne, rfl⟩

theorem identity?_eq_none {s : List Char} (h : ∀ c ∈ s, isIdentityMark c = false) :
    identity? s = none := by
  have hname : markedName? ([] ++ s) = none := markedName?_append_none rfl h
  rw [List.nil_append] at hname
  simp [identity?, hname]

end AccountGrants.Row
