import AccountGrants.Proofs.Grant.Reference
import AccountGrants.Proofs.Grant.WellFormed

/-!
Names that are read back from the reference they are written in. A reference without a back-tick in
the name of its database is taken apart at the dot behind that name, so both names are read back
but for the marks at their ends: `splitReference_inverts_quoting`.
-/

namespace AccountGrants

open Text

theorem strip_eq_self_iff {p : Char → Bool} {name : String} :
    strip p name.toList = name.toList ↔ EndsOutside p name := by
  constructor
  · intro h
    have hends := endsOutside_strip p name.toList
    rwa [h, String.ofList_toList] at hends
  · exact fun h => strip_of_ink h.1 h.2

/-- An asterisk is written for the empty name, and every other name as it is. -/
theorem strip_quoteTable (name : String) :
    strip isNameMark (quoteTable name).toList =
      strip isNameMark (if name = "" then "*" else name).toList := by
  unfold quoteTable
  by_cases hempty : name = ""
  · rw [if_pos (Or.inr hempty), if_pos hempty]
  · rw [if_neg hempty]
    split
    next hall => rw [hall.resolve_right hempty]
    next => exact strip_backTicked name

/-- What is read of a reference whose database ends at the dot behind it. -/
theorem splitReference_reference {database : String}
    (hcut : quotesClose isNotDot false (quoteDatabase database).toList = true) (name : List Char) :
    splitReference (reference database name) =
      (String.ofList (strip isNameMark database.toList),
        some (String.ofList (strip isNameMark name))) := by
  rw [splitReference, reference, cutAtDot_append.mpr hcut, ← strip_quoteDatabase]
  rfl

theorem splitReference_eq_iff {database name : String} {written : List Char}
    (hcut : quotesClose isNotDot false (quoteDatabase database).toList = true)
    (hwritten : strip isNameMark written = strip isNameMark name.toList) :
    splitReference (reference database written) = (database, some name) ↔
      EndsOutside isNameMark database ∧ EndsOutside isNameMark name := by
  rw [splitReference_reference hcut, hwritten, ← strip_eq_self_iff, ← strip_eq_self_iff,
    Prod.mk.injEq, Option.some.injEq, ← String.toList_inj, ← String.toList_inj,
    String.toList_ofList, String.toList_ofList]

/-- The names of a reference are read back, an asterisk for the empty name of a table, if and only
if neither of them begins or ends with a mark. Routines stand in their references unquoted. -/
theorem splitReference_inverts_quoting {database : String} (hdatabase : backTick ∉ database.toList)
    (name : String) :
    (splitReference (quoteDatabase database ++ "." ++ quoteTable name).toList =
        (database, some (if name = "" then "*" else name)) ↔
      EndsOutside isNameMark database ∧ EndsOutside isNameMark name) ∧
    (splitReference (quoteDatabase database ++ "." ++ name).toList = (database, some name) ↔
      EndsOutside isNameMark database ∧ EndsOutside isNameMark name) := by
  have hcut := quotesClose_quoteDatabase_self hdatabase
  have hreference : ∀ written : String, (quoteDatabase database ++ "." ++ written).toList =
      reference database written.toList := by
    intro written
    simp [reference]
  rw [hreference, hreference]
  constructor
  · rw [splitReference_eq_iff hcut (strip_quoteTable name)]
    by_cases hempty : name = ""
    · rw [if_pos hempty, hempty]
      exact and_congr_right fun _ =>
        iff_of_true (strip_eq_self_iff.mp rfl) (endsOutside_empty isNameMark)
    · rw [if_neg hempty]
  · exact splitReference_eq_iff hcut rfl

theorem dottedNames_splitReference : backTick ∉ "my.db ON t".toList ∧
    splitReference (quoteDatabase "my.db ON t" ++ "." ++ quoteTable "o'brien.log\n").toList =
      ("my.db ON t", some "o'brien.log\n") ∧
    splitReference (quoteDatabase "my.db ON t" ++ "." ++ "o'brien.log\n").toList =
      ("my.db ON t", some "o'brien.log\n") := by
  have hdatabase : backTick ∉ "my.db ON t".toList := by decide
  have hends : EndsOutside isNameMark "my.db ON t" ∧ EndsOutside isNameMark "o'brien.log\n" :=
    ⟨strip_eq_self_iff.mp rfl, strip_eq_self_iff.mp rfl⟩
  have hboth := splitReference_inverts_quoting hdatabase "o'brien.log\n"
  have htable := hboth.1.mpr hends
  rw [if_neg (by decide)] at htable
  exact ⟨hdatabase, htable, hboth.2.mpr hends⟩

-- of the two empty names only that of a table is written as an asterisk
example : splitReference (quoteDatabase "" ++ "." ++ quoteTable "").toList = ("", some "*") := by
  decide

end AccountGrants
