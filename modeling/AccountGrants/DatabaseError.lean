/-!
Errors that a database server reports.
-/

namespace AccountGrants

/-- A failed query or statement: the server's message, and its number unless the failure came from
elsewhere, such as a lost connection. -/
structure DatabaseError where
  code : Option Nat
  message : String
deriving DecidableEq

/-- What an error means for the caller. -/
inductive ErrorCategory where
  | nonexistentGrant
  | other
deriving DecidableEq

/-- The numbers that say there is no such grant: for an account, for a table, for a routine. -/
def nonexistentGrantCodes : List Nat := [1141, 1147, 1403]

/-- An error is classified by its number alone. -/
def DatabaseError.category (e : DatabaseError) : ErrorCategory :=
  match e.code with
  | some code => if code ∈ nonexistentGrantCodes then .nonexistentGrant else .other
  | none => .other

/-- A grant that is not there needs no more work. -/
def ErrorCategory.isIgnorable : ErrorCategory → Bool
  | .nonexistentGrant => true
  | .other => false

/-- Whether the error only says that a grant is not there. -/
def DatabaseError.isIgnorable (e : DatabaseError) : Bool :=
  e.category.isIgnorable

theorem DatabaseError.isIgnorable_iff (e : DatabaseError) :
    e.isIgnorable = true ↔ e.category = .nonexistentGrant := by
  unfold isIgnorable
  cases e.category <;> simp [ErrorCategory.isIgnorable]

end AccountGrants
