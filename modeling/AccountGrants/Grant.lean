import AccountGrants.Object
import AccountGrants.Privilege

/-!
Grants and their statements. A grant says what is held (privileges on an object, or membership in
roles), by whom, and under which options. `Grant.statement` and `Grant.revocation` write the
statements that apply it and take it back.
-/

namespace AccountGrants

/-- What a grant gives. -/
inductive Entitlement where
  | privileges (tokens : List String) (object : Object)
  | membership (roles : List String)
deriving DecidableEq

/-- What stands between GRANT and TO, or between REVOKE and FROM. -/
def Entitlement.sql : Entitlement → String
  | .privileges tokens object => Privilege.join tokens ++ " ON " ++ object.sql
  | .membership roles => ", ".intercalate roles

/-- An entitlement held by an identity. -/
structure Grant where
  entitlement : Entitlement
  identity : Identity
  /-- Whether the holder may pass the entitlement on. -/
  grantOption : Bool
  /-- What connections must use, as a REQUIRE clause writes it. -/
  tlsOption : String
deriving DecidableEq

/-- The three shapes of grants. -/
inductive GrantKind where
  | table
  | routine
  | role
deriving DecidableEq

namespace Grant

/-- The shape of a grant. -/
def kind (g : Grant) : GrantKind :=
  match g.entitlement with
  | .privileges _ (.table ..) => .table
  | .privileges _ (.routine ..) => .routine
  | .membership _ => .role

/-- The database, where there is one. -/
def database? (g : Grant) : Option String :=
  match g.entitlement with
  | .privileges _ object => some object.database
  | .membership _ => none

/-- The table, where there is one. -/
def table? (g : Grant) : Option String :=
  match g.entitlement with
  | .privileges _ (.table _ name) => some name
  | _ => none

/-- The privileges, where the grant holds any kind of them. -/
def privileges? (g : Grant) : Option (List String) :=
  match g.entitlement with
  | .privileges tokens _ => some tokens
  | .membership _ => none

/-- The identifier of a grant: its holder and its database. -/
def identifier (g : Grant) : String :=
  match g.database? with
  | some database => g.identity.label ++ ":" ++ quoteDatabase database
  | none => g.identity.label

/-- The clause on connections. There is none for the empty option, nor for NONE in any case. -/
def requireClause (tlsOption : String) : String :=
  if tlsOption = "" ∨ tlsOption.toList.map Char.toLower = "none".toList then ""
  else " REQUIRE " ++ tlsOption

/-- The clause that lets the holder of a privilege pass it on. -/
def grantOptionClause (grantOption : Bool) : String :=
  if grantOption then " WITH GRANT OPTION" else ""

/-- The clause that lets the member of a role pass it on. -/
def adminOptionClause (grantOption : Bool) : String :=
  if grantOption then " WITH ADMIN OPTION" else ""

/-- The clause that lets the holder pass the entitlement on. -/
def optionClause (g : Grant) : String :=
  match g.entitlement with
  | .privileges .. => grantOptionClause g.grantOption
  | .membership _ => adminOptionClause g.grantOption

/-- The statement that applies a grant. -/
def statement (g : Grant) : String :=
  "GRANT " ++ g.entitlement.sql ++ " TO " ++ g.identity.sql ++ requireClause g.tlsOption ++
    g.optionClause

/-- The statement that takes privileges on an object from an identity. -/
def revokePrivileges (tokens : List String) (object : Object) (identity : Identity)
    (grantOption : Bool) : String :=
  "REVOKE " ++ (Entitlement.privileges tokens object).sql ++ " FROM " ++ identity.sql ++
    grantOptionClause grantOption

/-- The statement that takes a whole grant back. -/
def revocation (g : Grant) : String :=
  match g.entitlement with
  | .privileges tokens object => revokePrivileges tokens object g.identity g.grantOption
  | .membership roles =>
      "REVOKE " ++ (Entitlement.membership roles).sql ++ " FROM " ++ g.identity.sql

/-- The statement that takes some privileges back and leaves the rest. Membership in roles cannot
be divided this way. -/
def partialRevocation (g : Grant) (tokens : List String) : Except Problem String :=
  match g.entitlement with
  | .privileges _ object => .ok (revokePrivileges tokens object g.identity g.grantOption)
  | .membership _ => .error (.unsupported .partialRevoke)

end Grant

end AccountGrants
