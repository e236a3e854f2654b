import AccountGrants.Proofs.Declaration

/-!
The grants that their declarations give back, in terms of their texts alone. The text that a
declaration has for an object is that of a routine exactly if it begins with the word of a kind in
any letter case, one space behind it, and no two dots behind that.
-/

namespace AccountGrants

/-- A text that begins with FUNCTION or PROCEDURE in any letter case and one space, with one dot at
most behind them. -/
def ReadsAsRoutine (text : String) : Prop :=
  ∃ keyword ∈ ["function", "procedure"], ∃ word names, word.map Char.toLower = keyword.toList ∧
    text.toList = word ++ ' ' :: names ∧ names.count '.' ≤ 1

theorem ofKeyword?_isSome_iff (word : List Char) :
    (∃ kind, RoutineKind.ofKeyword? word = some kind) ↔
      ∃ keyword ∈ ["function", "procedure"], word.map Char.toLower = keyword.toList := by
  constructor
  · rintro ⟨kind, hkind⟩
    have hword := ofKeyword?_eq_some_iff.mp hkind
    cases kind with
    | function => exact ⟨"function", by simp, hword⟩
    | procedure => exact ⟨"procedure", by simp, hword⟩
  · rintro ⟨keyword, hkeyword, hword⟩
    simp only [List.mem_cons, List.not_mem_nil, or_false] at hkeyword
    rcases hkeyword with rfl | rfl
    · exact ⟨.function, ofKeyword?_eq_some_iff.mpr hword⟩
    · exact ⟨.procedure, ofKeyword?_eq_some_iff.mpr hword⟩

theorem namesRoutine_iff (text : String) : NamesRoutine text ↔ ReadsAsRoutine text := by
  constructor
  · rintro ⟨kind, word, names, hkind, htext, hdots⟩
    obtain ⟨keyword, hkeyword, hword⟩ := (ofKeyword?_isSome_iff word).mp ⟨kind, hkind⟩
    exact ⟨keyword, hkeyword, word, names, hword, htext, hdots⟩
  · rintro ⟨keyword, hkeyword, word, names, hword, htext, hdots⟩
    obtain ⟨kind, hkind⟩ := (ofKeyword?_isSome_iff word).mpr ⟨keyword, hkeyword, hword⟩
    exact ⟨kind, word, names, hkind, htext, hdots⟩

/-- What can be granted so that a declaration of it stands for nothing else. -/
def Entitlement.IsUnambiguous : Entitlement → Prop
  | .privileges tokens (.table database _) =>
    Privilege.canonicalize tokens = tokens ∧ ¬ReadsAsRoutine database
  | .privileges tokens (.routine _ database name) =>
    Privilege.canonicalize tokens = tokens ∧ '.' ∉ database.toList ∧ '.' ∉ name.toList
  | .membership roles => roles ≠ []

namespace Declaration

theorem entitlement_ofEntitlement_iff (entitlement : Entitlement) :
    (ofEntitlement entitlement).entitlement = entitlement ↔ entitlement.IsUnambiguous := by
  cases entitlement with
  | membership roles => exact entitlement_ofEntitlement_membership roles
  | privileges tokens object =>
    rw [entitlement_ofEntitlement_privileges]
    cases object with
    | routine kind database name => exact Iff.rfl
    | table database name =>
      show _ ∧ ¬NamesRoutine database ↔ _ ∧ ¬ReadsAsRoutine database
      rw [namesRoutine_iff]

/-- The declaration of a grant gives this grant back if and only if its holder's names are given,
its privileges are canonical or its roles some, and the text for its object stands for nothing
else. -/
theorem toGrant_ofGrant_iff (g : Grant) :
    (ofGrant g).toGrant = .ok g ↔ g.identity.IsNamed ∧ g.entitlement.IsUnambiguous := by
  have hentitlement := entitlement_ofEntitlement_iff g.entitlement
  rw [toGrant_ofGrant]
  exact and_congr_right fun _ => hentitlement

-- the database of a table is taken for the word of a kind and the database of a routine
example : (ofGrant ⟨.privileges ["EXECUTE"] (.table "Procedure shop" "cleanup"), .user "bob" "%",
      false, ""⟩).toGrant =
    .ok ⟨.privileges ["EXECUTE"] (.routine .procedure "shop" "cleanup"), .user "bob" "%", false,
      ""⟩ := rfl

end Declaration

end AccountGrants
