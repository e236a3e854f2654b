import AccountGrants.Grant

/-!
Import ids: `user@host@database@table`, with one more `@` at the end to ask for the grant that may
be passed on.
-/

namespace AccountGrants

/-- What an import looks for. Every part may be empty. -/
structure ImportId where
  user : String
  host : String
  database : String
  table : String
  grantOption : Bool
deriving DecidableEq

namespace ImportId

/-- Reads the parts between the signs. A fifth part asks for the grant option, whatever it holds. -/
def ofText (text : String) : Except Problem ImportId :=
  match (text.toList.splitOn '@').map String.ofList with
  | [user, host, database, table] => .ok ⟨user, host, database, table, false⟩
  | [user, host, database, table, _] => .ok ⟨user, host, database, table, true⟩
  | _ => .error (.definition (.importId text))

/-- The text that asks for the same. -/
def text (id : ImportId) : String :=
  "@".intercalate [id.user, id.host, id.database, id.table] ++ if id.grantOption then "@" else ""

/-- Imports look for grants of logins. -/
def identity (id : ImportId) : Identity :=
  .user id.user id.host

/-- Whether a part agrees with a grant's name; a grant without one wants the part empty. -/
def agrees (name : Option String) (part : String) : Bool :=
  name.getD "" == part

/-- Whether a grant is the one looked for, its holder aside. -/
def selects (id : ImportId) (g : Grant) : Bool :=
  g.grantOption == id.grantOption && agrees g.database? id.database && agrees g.table? id.table

end ImportId

end AccountGrants
