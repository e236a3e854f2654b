import AccountGrants.Proofs.Row.Addressee
import AccountGrants.Proofs.Row.Silent

/-!
What the names of a row carry. Every name that a grant on a routine is read with stands in its row
between characters that no word goes on with, so that a name states no option and no requirement
that its row does not state: `grant?_routine_names`.
-/

namespace AccountGrants.Row

open Text

theorem isWordChar_of_isBlank {c : Char} (h : isBlank c = true) : isWordChar c = false := by
  have hcodes : ∀ n ∈ [0x20, 0x09, 0x0a, 0x0b, 0x0c, 0x0d, 0x85, 0xa0, 0x1680, 0x2000, 0x2001,
      0x2002, 0x2003, 0x2004, 0x2005, 0x2006, 0x2007, 0x2008, 0x2009, 0x200a, 0x2028, 0x2029,
      0x202f, 0x205f, 0x3000], isWordChar (Char.ofNat n) = false := by
    decide +kernel
  rw [← Char.ofNat_toNat c]
  refine hcodes _ ?_
  simp only [isBlank, Bool.or_eq_true, Bool.and_eq_true, decide_eq_true_eq] at h
  simp only [List.mem_cons, List.not_mem_nil, or_false]
  omega

theorem isWordChar_of_isNameMark {c : Char} (h : isNameMark c = true) : isWordChar c = false := by
  simp only [isNameMark, Bool.or_eq_true, beq_iff_eq] at h
  rcases h with (rfl | rfl) | rfl <;> decide

/-- A text between two characters that no word begins or ends with. -/
def Stands (s row : List Char) : Prop :=
  ∃ p c d q, row = p ++ c :: (s ++ d :: q) ∧ isWordChar c = false ∧ isWordChar d = false

namespace Stands

variable {s row : List Char}

theorem isInfix (h : Stands s row) : s <:+: row := by
  obtain ⟨p, c, d, q, rfl, -⟩ := h
  exact ⟨p ++ [c], d :: q, by simp⟩

/-- What stands alone in a row states nothing that the row does not state. -/
theorem isSilent (h : Stands s row) (hrow : IsSilent row) : IsSilent s where
  lacksRequire := hrow.lacksRequire.within h.isInfix
  noOption := by
    obtain ⟨p, c, d, q, rfl, hc, hd⟩ := h
    have hnone := hrow.noOption
    rw [Bool.eq_false_iff] at hnone ⊢
    intro hs
    refine hnone (optionWithin_append false fun b => ?_)
    rw [optionWithin, hc, Bool.or_eq_true]
    exact Or.inr (optionWithin_append_of_notWord hs hd q)

theorem of_append {t : List Char} {p : List Char} (h : Stands s t) (u : List Char) :
    Stands s (p ++ t ++ u) := by
  obtain ⟨front, c, d, q, rfl, hc, hd⟩ := h
  exact ⟨p ++ front, c, d, q ++ u, by simp, hc, hd⟩

/-- Each side of a dot stands alone. -/
theorem of_dot {a b : List Char} (h : Stands (a ++ '.' :: b) row) :
    Stands a row ∧ Stands b row := by
  obtain ⟨p, c, d, q, rfl, hc, hd⟩ := h
  refine ⟨⟨p, c, '.', b ++ d :: q, by simp, hc, by decide⟩,
    ⟨p ++ c :: a, '.', d, q, by simp, by decide, hd⟩⟩

/-- A name stands alone without the marks around it. -/
theorem strip (h : Stands s row) : Stands (strip isNameMark s) row := by
  obtain ⟨p, c, d, q, rfl, hc, hd⟩ := h
  obtain ⟨a, b, hs, ha, hb⟩ := strip_split isNameMark s
  obtain ⟨front, c', hfront, hc'⟩ : ∃ front c', p ++ c :: a = front ++ [c'] ∧
      isWordChar c' = false := by
    rcases List.eq_nil_or_concat' a with rfl | ⟨a, e, rfl⟩
    · exact ⟨p, c, rfl, hc⟩
    · exact ⟨p ++ c :: a, e, by simp, isWordChar_of_isNameMark (ha e (by simp))⟩
  obtain ⟨d', behind, hbehind, hd'⟩ : ∃ d' behind, b ++ d :: q = d' :: behind ∧
      isWordChar d' = false := by
    cases b with
    | nil => exact ⟨d, q, rfl, hd⟩
    | cons e b => exact ⟨e, b ++ d :: q, rfl, isWordChar_of_isNameMark (hb e List.mem_cons_self)⟩
  refine ⟨front, c', d', behind, ?_, hc', hd'⟩
  rw [← hbehind]
  calc p ++ c :: (s ++ d :: q)
      = (p ++ c :: a) ++ (Text.strip isNameMark s ++ (b ++ d :: q)) := by
        conv_lhs => rw [hs]
        simp
    _ = front ++ c' :: (Text.strip isNameMark s ++ (b ++ d :: q)) := by rw [hfront]; simp

end Stands

theorem cutAtDot_eq {quoted : Bool} {s database : List Char} {name : Option (List Char)}
    (h : cutAtDot quoted s = (database, name)) :
    s = database ++ (name.elim [] fun name => '.' :: name) := by
  induction s generalizing quoted database with
  | nil =>
    cases h
    rfl
  | cons c s ih =>
    rw [cutAtDot] at h
    split at h
    next hdot =>
      simp only [Bool.and_eq_true, decide_eq_true_eq] at hdot
      cases h
      rw [hdot.1]
      rfl
    next =>
      obtain ⟨rfl, rfl⟩ := Prod.mk.inj h
      rw [List.cons_append, ← ih rfl]

/-- What a reference names stands alone where the reference does. -/
theorem Stands.splitReference {reference row : List Char} (h : Stands reference row) :
    Stands (splitReference reference).1.toList row ∧
      ∀ name ∈ (splitReference reference).2, Stands name.toList row := by
  unfold AccountGrants.splitReference
  rcases hcut : cutAtDot false reference with ⟨database, _ | name⟩ <;>
    obtain rfl := cutAtDot_eq hcut <;> dsimp only
  · refine ⟨?_, by simp⟩
    rw [String.toList_ofList]
    exact (show Stands database row by simpa using h).strip
  · obtain ⟨hdatabase, hname⟩ := h.of_dot
    refine ⟨?_, ?_⟩
    · rw [String.toList_ofList]
      exact hdatabase.strip
    · rintro _ ⟨⟩
      rw [String.toList_ofList]
      exact hname.strip

/-- No part of a reference has marks around it. -/
theorem splitReference_stripped (reference : List Char) :
    strip isNameMark (splitReference reference).1.toList = (splitReference reference).1.toList ∧
      ∀ name ∈ (splitReference reference).2,
        strip isNameMark name.toList = name.toList := by
  unfold AccountGrants.splitReference
  rcases cutAtDot false reference with ⟨database, _ | name⟩ <;>
    simp [strip_strip]

/-- What is read as a grant on a routine is read by the reader of routines. -/
theorem privileges?_of_entitlement? {s who : List Char} {tokens : List String} {kind : RoutineKind}
    {database name : String}
    (h : entitlement? s = some (.privileges tokens (.routine kind database name), who)) :
    privileges? routine? s = some (.privileges tokens (.routine kind database name), who) := by
  rcases Option.or_eq_some_iff.mp h with hmember | ⟨-, hprivileges⟩
  · obtain ⟨_, _, _, _, heq, -⟩ := membership?_eq_some.mp hmember
    cases heq
  rcases Option.or_eq_some_iff.mp hprivileges with hroutine | ⟨-, htable⟩
  · exact hroutine
  · obtain ⟨tokens', object, rest, heq, -, hread⟩ := privileges?_object htable
    cases heq
    obtain ⟨_, _, _, _, hobject, -⟩ := table?_eq_some.mp hread
    cases hobject

/-- A grant on a routine names what a reference between a blank and TO names. -/
theorem entitlement?_routine_split {s who : List Char} {tokens : List String} {kind : RoutineKind}
    {database name : String}
    (h : entitlement? s = some (.privileges tokens (.routine kind database name), who)) :
    ∃ front gap reference mid, s = front ++ (gap ++ (reference ++ (mid ++ who))) ∧
      routineOf kind reference = .routine kind database name ∧ IsGap gap ∧ IsTo mid ∧
      IsRecipient who := by
  obtain ⟨tokens', object, rest, heq, ⟨front, rfl⟩, hread⟩ :=
    privileges?_object (privileges?_of_entitlement? h)
  cases heq
  obtain ⟨gap, kind', gap', reference, mid, rfl, hobject, -, hgap', -, hmid, hwho⟩ :=
    routine?_eq_some.mp hread
  have hkind : kind = kind' := by
    unfold routineOf at hobject
    cases hobject
    rfl
  subst hkind
  exact ⟨front ++ ("ON".toList ++ (gap ++ kind.sql.toList)), gap', reference, mid,
    by simp only [List.append_assoc], hobject.symm, hgap', hmid, hwho⟩

/-! The identity. -/

theorem isWordChar_of_isIdentityMark {c : Char} (h : isIdentityMark c = true) :
    isWordChar c = false := by
  simp only [isIdentityMark, Bool.or_eq_true, beq_iff_eq] at h
  rcases h with rfl | rfl <;> decide

theorem stands_of_markedName? {s name rest : List Char} (h : markedName? s = some (name, rest))
    (front : List Char) : Stands (String.ofList name).toList (front ++ s) := by
  obtain ⟨c, d, rfl, hc, hd, -⟩ := markedName?_eq_some.mp h
  rw [String.toList_ofList]
  exact ⟨front, c, d, rest, rfl, isWordChar_of_isIdentityMark hc, isWordChar_of_isIdentityMark hd⟩

end AccountGrants.Row

namespace AccountGrants

/-- The names that an identity is made of. -/
def Identity.names : Identity → List String
  | .user name host => [name, host]
  | .role name => [name]

namespace Row

open Text

theorem identity?_stands {who : List Char} {identity : Identity}
    (h : identity? who = some identity) :
    identity ≠ .role "" ∧ ∀ name ∈ identity.names, Stands name.toList who := by
  rcases identity?_eq_some h with
    ⟨name, rest, host, behind, hname, hhost, rfl⟩ | ⟨name, rest, hname, hne, rfl⟩
  · obtain ⟨c, d, rfl, -⟩ := markedName?_eq_some.mp hname
    refine ⟨by simp, ?_⟩
    simp only [Identity.names, List.mem_cons, List.not_mem_nil, or_false, forall_eq_or_imp,
      forall_eq]
    refine ⟨stands_of_markedName? hname [], ?_⟩
    simpa using stands_of_markedName? hhost (c :: (name ++ d :: "@".toList))
  · refine ⟨by simpa [String.ext_iff] using hne, ?_⟩
    simpa [Identity.names] using stands_of_markedName? hname []

/-- A row describes a grant by what is granted, by the identity, and by what it states. -/
theorem grant?_eq_some {row : List Char} {g : Grant} : grant? row = some g ↔
    ∃ s who, row = "GRANT".toList ++ s ∧ entitlement? s = some (g.entitlement, who) ∧
      identity? who = some g.identity ∧ hasOption row = g.grantOption ∧
      String.ofList (requirement row) = g.tlsOption := by
  constructor
  · intro h
    obtain ⟨⟨entitlement, who⟩, hentitlement, hgrant⟩ := Option.bind_eq_some_iff.mp h
    obtain ⟨identity, hidentity, hg⟩ := Option.bind_eq_some_iff.mp hgrant
    obtain ⟨s, hword, hread⟩ := Option.bind_eq_some_iff.mp hentitlement
    cases Option.some.inj hg
    exact ⟨s, who, after?_eq_some.mp hword, hread, hidentity, rfl, rfl⟩
  · rintro ⟨s, who, hword, hread, hidentity, hoption, hrequirement⟩
    rw [grant?, after?_eq_some.mpr hword]
    simp only [Option.bind_some, hread, Option.bind_eq_bind, hidentity, hoption, hrequirement]

/-- Every name of a grant on a routine stands alone in the row of the grant. The database and the
routine have no marks around them there, and the identity is on one line. -/
theorem grant?_routine_names {row : List Char} {g : Grant} {tokens : List String}
    {kind : RoutineKind} {database name : String} (h : grant? row = some g)
    (he : g.entitlement = .privileges tokens (.routine kind database name)) :
    (∀ text ∈ database :: name :: g.identity.names, Stands text.toList row) ∧
      strip isNameMark database.toList = database.toList ∧
      strip isNameMark name.toList = name.toList ∧
      ∃ who, IsRecipient who ∧ identity? who = some g.identity := by
  obtain ⟨s, who, rfl, hread, hidentity, -, -⟩ := grant?_eq_some.mp h
  rw [he] at hread
  obtain ⟨front, gap, reference, mid, rfl, hobject, ⟨hgapne, hgap⟩, hmid, hwho⟩ :=
    entitlement?_routine_split hread
  have hreference : Stands reference ("GRANT".toList ++ (front ++ (gap ++ (reference ++
      (mid ++ who))))) := by
    obtain ⟨gap, c, rfl⟩ := (List.eq_nil_or_concat' gap).resolve_left hgapne
    obtain ⟨d, rest, hrest, hd⟩ := hmid.startsBlank who
    refine ⟨"GRANT".toList ++ (front ++ gap), c, d, rest, ?_,
      isWordChar_of_isBlank (hgap c (by simp)), isWordChar_of_isBlank hd⟩
    rw [hrest]
    simp only [List.append_assoc, List.cons_append, List.nil_append]
  obtain ⟨hdatabase, hname⟩ := hreference.splitReference
  obtain ⟨hdatabase', hname'⟩ := splitReference_stripped reference
  obtain ⟨-, hidentityNames⟩ := identity?_stands hidentity
  unfold routineOf at hobject
  cases hobject
  have hroutine : Stands ((splitReference reference).2.getD (splitReference reference).1).toList
        ("GRANT".toList ++ (front ++ (gap ++ (reference ++ (mid ++ who))))) ∧
      strip isNameMark ((splitReference reference).2.getD (splitReference reference).1).toList =
        ((splitReference reference).2.getD (splitReference reference).1).toList := by
    cases hcut : (splitReference reference).2 with
    | none => exact ⟨hdatabase, hdatabase'⟩
    | some name => exact ⟨hname name hcut, hname' name hcut⟩
  refine ⟨?_, hdatabase', hroutine.2, who, hwho, hidentity⟩
  intro text htext
  rcases List.mem_cons.mp htext with rfl | htext
  · exact hdatabase
  rcases List.mem_cons.mp htext with rfl | htext
  · exact hroutine.1
  · have hstands := (hidentityNames text htext).of_append
      (p := "GRANT".toList ++ (front ++ (gap ++ (reference ++ mid)))) []
    simpa only [List.append_assoc, List.append_nil] using hstands

end Row

end AccountGrants
