import AccountGrants.Row.Clause
import AccountGrants.Row.Shape

/-!
Rows of a server's listing of grants. `Row.parse` reads one row: a statement that begins with
REVOKE restricts grants listed elsewhere, any other row has to be a grant of one of the three
shapes.
-/

namespace AccountGrants

open Text

/-- A listed row. -/
inductive Row where
  | grant (g : Grant)
  | partialRevoke
deriving DecidableEq

namespace Row

/-- The grant that a trimmed row describes. -/
def grant? (row : List Char) : Option Grant := do
  let (entitlement, who) ← (after? "GRANT" row).bind entitlement?
  let identity ← identity? who
  some { entitlement, identity
         grantOption := hasOption row, tlsOption := String.ofList (requirement row) }

/-- Reads a row. Blanks around it do not count. -/
def parse (row : String) : Except Problem Row :=
  let row := trim row.toList
  if (after? "REVOKE" row).isSome then .ok .partialRevoke
  else match grant? row with
    | some g => .ok (.grant g)
    | none => .error (.unreadable (String.ofList row))

end Row

end AccountGrants
