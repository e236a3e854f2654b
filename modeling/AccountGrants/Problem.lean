import AccountGrants.DatabaseError
import AccountGrants.Identity

/-!
What can go wrong, by cause, and the wording of each cause in `Problem.message`.
-/

namespace AccountGrants

/-- A definition that names no grant. -/
inductive DefinitionFault where
  | noIdentity
  | routineKind (name : String)
  | importId (text : String)
deriving DecidableEq

/-- The fault in words. -/
def DefinitionFault.message : DefinitionFault → String
  | .noIdentity => "One of user/host or role is required"
  | .routineKind name => "unknown routine type: " ++ name
  | .importId text => "wrong ID format " ++ text ++ " - expected user@host@database@table " ++
      "(and optionally ending @ to signify grant option) where some parts can be empty"

/-- A request that a grant or a server does not offer. -/
inductive Capability where
  | partialRevoke
  | roleGrants
  | privilegeUpdate
deriving DecidableEq

/-- Why the request is refused. -/
def Capability.message : Capability → String
  | .partialRevoke => "grant does not support partial privilege revokes"
  | .roleGrants => "role grants are not supported by this version of MySQL"
  | .privilegeUpdate => "role membership grants have no privileges to update"

/-- The causes of failure. -/
inductive Problem where
  /-- A declared grant or an import id is malformed. -/
  | definition (fault : DefinitionFault)
  /-- A listed row has none of the known shapes. -/
  | unreadable (row : String)
  /-- The grant or the server lacks a capability. -/
  | unsupported (missing : Capability)
  /-- The identity holds a grant of the same shape already. -/
  | conflict (identity : Identity)
  /-- The server refused a query or a statement. -/
  | execution (sql message : String)
  /-- The server could not say whether it knows roles. -/
  | database (error : DatabaseError)
deriving DecidableEq

/-- The cause in words. -/
def Problem.message : Problem → String
  | .definition fault => "invalid grant definition: " ++ fault.message
  | .unreadable row => "failed to parse grant statement: " ++ row
  | .unsupported missing => missing.message
  | .conflict identity =>
      "user/role " ++ identity.sql ++ " already has unmanaged grant - import it first"
  | .execution sql message => "error running SQL (" ++ sql ++ "): " ++ message
  | .database error => error.message

/-- What was being done when a problem arose. -/
inductive Activity where
  | listing
  | revoking
  | probingRoles
deriving DecidableEq

/-- The activity in words. -/
def Activity.message : Activity → String
  | .listing => "getting grants failed"
  | .revoking => "error revoking grant"
  | .probingRoles => "failed getting role support"

/-- A problem, and the activity it ended where that is worth telling. -/
structure Failure where
  problem : Problem
  during : Option Activity := none
deriving DecidableEq

/-- The texts of a failure, the most general first. -/
def Failure.messages (f : Failure) : List String :=
  (f.during.map Activity.message).toList ++ [f.problem.message]

end AccountGrants
