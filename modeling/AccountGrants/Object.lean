import AccountGrants.Problem
import AccountGrants.Text.Blank
import AccountGrants.Text.Upper

/-!
What privileges are held on: tables and stored routines. `Object.sql` writes an object with its
names quoted, and `splitReference` takes such a reference apart.
-/

namespace AccountGrants

open Text

/-- The two kinds of stored routine. -/
inductive RoutineKind where
  | procedure
  | function
deriving DecidableEq

/-- The keyword of the kind. -/
def RoutineKind.sql : RoutineKind → String
  | .procedure => "PROCEDURE"
  | .function => "FUNCTION"

/-- The kind named by a text in any letter case. -/
def RoutineKind.ofName (name : String) : Except Problem RoutineKind :=
  let word := String.ofList (upper name.toList)
  if word = RoutineKind.procedure.sql then .ok .procedure
  else if word = RoutineKind.function.sql then .ok .function
  else .error (.definition (.routineKind word))

/-- What privileges are held on. -/
inductive Object where
  /-- A table, or all tables of a database where `name` is empty or an asterisk. -/
  | table (database name : String)
  | routine (kind : RoutineKind) (database name : String)
deriving DecidableEq

/-- The database of an object. -/
def Object.database : Object → String
  | .table database _ => database
  | .routine _ database _ => database

/-- An asterisk stands for all databases, and a name that ends in a back-tick is quoted already. -/
def quoteDatabase (name : String) : String :=
  if name = "*" ∨ name.toList.getLast? = some backTick then name else backTicked name

/-- An asterisk or the empty name stands for all tables. -/
def quoteTable (name : String) : String :=
  if name = "*" ∨ name = "" then "*" else backTicked name

/-- An object as statements name it. Routine names are not quoted. -/
def Object.sql : Object → String
  | .table database name => quoteDatabase database ++ "." ++ quoteTable name
  | .routine kind database name => kind.sql ++ " " ++ quoteDatabase database ++ "." ++ name

/-- A reference up to its first dot outside back-ticks, and what follows that dot. -/
def cutAtDot (quoted : Bool) : List Char → List Char × Option (List Char)
  | [] => ([], none)
  | c :: s =>
    if c = '.' && !quoted then ([], some s)
    else
      let (database, name) := cutAtDot (if c = backTick then !quoted else quoted) s
      (c :: database, name)

/-- The marks that may stand around a name in a reference. -/
def isNameMark (c : Char) : Bool :=
  c == backTick || c == doubleQuote || c == singleQuote

/-- The database of a reference and, where a dot follows it, the name in that database. -/
def splitReference (reference : List Char) : String × Option String :=
  let (database, name) := cutAtDot false reference
  let unquote := fun s => String.ofList (strip isNameMark s)
  (unquote database, name.map unquote)

end AccountGrants
