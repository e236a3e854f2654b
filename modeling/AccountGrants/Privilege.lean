import AccountGrants.Text.Quote
import AccountGrants.Text.Scan
import AccountGrants.Text.Upper

/-!
Privileges as texts. A privilege is a name such as SELECT, or a name with a list of columns such as
SELECT(a, b). Lists of privileges are compared token by token after both are brought to canonical
form; in a statement they stand joined by commas, and `split` takes them apart again.
-/

namespace AccountGrants.Privilege

open Text

/-- Every privilege at once. -/
def allPrivileges : String := "ALL PRIVILEGES"

/-- The name a server lists where no privilege is held. -/
def usage : String := "USAGE"

/-- Spaces and back-ticks carry no meaning in a privilege. -/
def isPadding (c : Char) : Bool :=
  c == ' ' || c == backTick

/-- The name before the first parenthesis and the columns from there to a closing parenthesis at
the very end. The columns stand on one line. -/
def columnList? (s : List Char) : Option (List Char × List Char) :=
  match s.dropWhile (· != '(') with
  | [] => none
  | _ :: body =>
    if body.getLast? = some ')' && !body.dropLast.contains '\n' then
      some (s.takeWhile (· != '('), body.dropLast)
    else none

/-- Columns keep their case; they are listed by code point, one comma and one space apart. -/
def sortColumns (columns : List Char) : String :=
  ", ".intercalate (((columns.splitOn ',').map String.ofList).mergeSort fun a b => decide (a ≤ b))

/-- ALL in its two spellings, and every other name as it is. -/
def expandAll (name : String) : String :=
  if name = "ALL" ∨ name = "ALLPRIVILEGES" then allPrivileges else name

/-- The one spelling of a privilege: no padding, the name in upper case, the columns sorted. -/
def canonical (privilege : String) : String :=
  let bare := privilege.toList.filter fun c => !isPadding c
  match columnList? bare with
  | some (name, columns) => String.ofList (upper name) ++ "(" ++ sortColumns columns ++ ")"
  | none => expandAll (String.ofList (upper bare))

/-- The canonical tokens of a list, in its order and without USAGE. -/
def canonicalize (privileges : List String) : List String :=
  (privileges.map canonical).filter (· != usage)

/-- The tokens of a text as lists of characters. `inside` holds between parentheses, which do not
nest; `started` holds once the token at hand has a character, and blanks before that are no part
of it. -/
def pieces (inside started : Bool) : List Char → List (List Char)
  | [] => [[]]
  | c :: s =>
    if c = '(' then (pieces true true s).modifyHead (c :: ·)
    else if c = ')' then (pieces false true s).modifyHead (c :: ·)
    else if c = ',' && !inside then [] :: pieces false false s
    else if isBlank c && !started then pieces inside false s
    else (pieces inside true s).modifyHead (c :: ·)

/-- The tokens of a list of privileges written in a statement: commas between parentheses belong
to a token, all others end one. -/
def split (privileges : String) : List String :=
  (pieces false false privileges.toList).map String.ofList

/-- A list of privileges as a statement holds it. -/
def join (privileges : List String) : String :=
  ", ".intercalate privileges

end AccountGrants.Privilege
