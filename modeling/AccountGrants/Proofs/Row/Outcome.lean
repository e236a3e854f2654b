import AccountGrants.Row
import AccountGrants.Proofs.Text.Scan

/-!
How the reading of a row ends. There are three ways, and the first word of the row and the grant
that its text describes tell them apart.
-/

namespace AccountGrants.Row

open Text

/-- A row that is a partial revoke by its first word. -/
def IsRevoke (row : String) : Prop :=
  "REVOKE".toList <+: trim row.toList

instance (row : String) : Decidable (IsRevoke row) :=
  inferInstanceAs (Decidable ("REVOKE".toList <+: trim row.toList))

/-- What a row is read as. Only the text between its outer blanks is looked at. -/
inductive Reading (row : String) : Except Problem Row → Prop
  | partialRevoke (revoke : IsRevoke row) : Reading row (.ok .partialRevoke)
  | grant {g : Grant} (other : ¬IsRevoke row) (described : grant? (trim row.toList) = some g) :
      Reading row (.ok (.grant g))
  | unreadable (other : ¬IsRevoke row) (described : grant? (trim row.toList) = none) :
      Reading row (.error (.unreadable (String.ofList (trim row.toList))))

theorem parse_reading (row : String) : Reading row (parse row) := by
  have hword : (after? "REVOKE" (trim row.toList)).isSome = true ↔ IsRevoke row := by
    rw [Option.isSome_iff_exists]
    exact exists_congr fun rest => after?_eq_some.trans eq_comm
  unfold parse
  dsimp only
  split
  next hrevoke => exact .partialRevoke (hword.mp hrevoke)
  next hother =>
    cases hgrant : grant? (trim row.toList) with
    | some g => exact .grant (mt hword.mpr hother) hgrant
    | none => exact .unreadable (mt hword.mpr hother) hgrant

/-- A row that cannot be read is reported without the blanks around it. -/
theorem problem_of_parse {row : String} {problem : Problem} (h : parse row = .error problem) :
    problem = .unreadable (String.ofList (trim row.toList)) := by
  have hreading := parse_reading row
  rw [h] at hreading
  cases hreading
  rfl

theorem parse_eq_partialRevoke {row : String} :
    parse row = .ok .partialRevoke ↔ IsRevoke row := by
  have hreading := parse_reading row
  constructor
  · intro h
    rw [h] at hreading
    cases hreading with
    | partialRevoke revoke => exact revoke
  · intro h
    generalize parse row = result at hreading ⊢
    cases hreading with
    | partialRevoke => rfl
    | grant other => exact absurd h other
    | unreadable other => exact absurd h other

end AccountGrants.Row
