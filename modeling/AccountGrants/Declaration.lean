import AccountGrants.Grant

/-!
Declared grants: the flat fields in which a configuration writes a grant. `Declaration.toGrant`
makes a grant of them, `Declaration.ofGrant` writes the fields of a grant.
-/

namespace AccountGrants

open Text

/-- The fields of a declared grant, with the values they have when left out. -/
structure Declaration where
  user : Option String := none
  host : String := "localhost"
  role : Option String := none
  database : String := ""
  table : String := "*"
  privileges : List String := []
  roles : Option (List String) := none
  grantOption : Bool := false
  tlsOption : String := "NONE"
deriving DecidableEq

/-- The kind that a word names in any letter case of ASCII. -/
def RoutineKind.ofKeyword? (word : List Char) : Option RoutineKind :=
  let word := word.map Char.toLower
  if word = "function".toList then some .function
  else if word = "procedure".toList then some .procedure
  else none

/-- The routine that a database text names: a kind, one space, and the routine with or without its
database before a dot. Where only one name is given it is the database, and the routine's name is
`table`. -/
def routineTarget? (database table : String) : Option Object :=
  let (word, rest) := database.toList.span (· != ' ')
  match RoutineKind.ofKeyword? word, rest with
  | some kind, _ :: names =>
    match names.splitOn '.' with
    | [database] => some (.routine kind (String.ofList database) table)
    | [database, name] => some (.routine kind (String.ofList database) (String.ofList name))
    | _ => none
  | _, _ => none

namespace Declaration

/-- A login when user and host are both given, else a role. -/
def identity (d : Declaration) : Except Problem Identity :=
  match d.user.filter (fun user => user != "" && d.host != ""), d.role.filter (· != "") with
  | some user, _ => .ok (.user user d.host)
  | none, some role => .ok (.role role)
  | none, none => .error (.definition .noIdentity)

/-- What is declared to be held: membership when any roles are listed, else privileges on a routine
when the database text names one, else privileges on a table. -/
def entitlement (d : Declaration) : Entitlement :=
  match d.roles.filter (· != []) with
  | some roles => .membership roles
  | none =>
    .privileges (Privilege.canonicalize d.privileges)
      ((routineTarget? d.database d.table).getD (.table d.database d.table))

/-- The grant that is declared. -/
def toGrant (d : Declaration) : Except Problem Grant := do
  let identity ← d.identity
  return { entitlement := d.entitlement, identity, grantOption := d.grantOption,
           tlsOption := d.tlsOption }

/-- The fields that say what is held. -/
def ofEntitlement : Entitlement → Declaration
  | .privileges tokens (.table database name) =>
      { database, table := name, privileges := tokens }
  | .privileges tokens (.routine kind database name) =>
      { database := kind.sql ++ " " ++ database ++ "." ++ name, table := "", privileges := tokens }
  | .membership roles => { roles := some roles }

/-- The fields in which a grant would be declared. -/
def ofGrant (g : Grant) : Declaration :=
  let d := { ofEntitlement g.entitlement with
    grantOption := g.grantOption, tlsOption := g.tlsOption }
  match g.identity with
  | .user name host => { d with user := some name, host }
  | .role name => { d with role := some name }

end Declaration

end AccountGrants
