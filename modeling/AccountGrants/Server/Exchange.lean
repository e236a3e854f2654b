import AccountGrants.Problem
import AccountGrants.Server.Version

/-!
The exchange with a server. A server answers queries with its rows, takes statements, and tells
whether it has roles; a script says which of these calls fail. An exchange keeps every call that
was made and every notice that was given, in order.
-/

namespace AccountGrants

open Server

/-- A server, as far as its answers show. -/
structure Server where
  /-- The answer to every query. -/
  rows : List String
  version : String
  /-- Whether an executed statement is listed from then on. -/
  echo : Bool
deriving DecidableEq

/-- The server with other rows or another version, where they are given. -/
def Server.replace (server : Server) (rows : Option (List String)) (version : Option String) :
    Server :=
  { server with rows := rows.getD server.rows, version := version.getD server.version }

/-- The server after a statement was executed. -/
def Server.afterExecute (server : Server) (sql : String) : Server :=
  if server.echo then { server with rows := server.rows ++ [sql] } else server

/-- The failures to come: of the next query, of the next question about roles, and of each of the
next statements, where nothing means success. -/
structure Script where
  query : Option DatabaseError := none
  roles : Option DatabaseError := none
  executes : List (Option DatabaseError) := []
deriving DecidableEq

/-- A call to the server. -/
inductive Call where
  | query (sql : String)
  | execute (sql : String)
  | supportsRoles
deriving DecidableEq

/-- A call that was made, with the error it met. -/
structure Attempt where
  call : Call
  error : Option DatabaseError
deriving DecidableEq

/-- What an operator should know although nothing failed. -/
inductive Notice where
  | partialRevoke (row : String)
  | grantGone (identity : Identity)
  | alreadyRevoked (sql message : String)
deriving DecidableEq

/-- A notice in words. -/
def Notice.message : Notice → String
  | .partialRevoke row =>
      "Partial revokes are not fully supported and lead to unexpected behavior. Consult " ++
      "https://dev.mysql.com/doc/refman/8.0/en/partial-revokes.html on how to disable them. " ++
      "Relevant partial revoke: " ++ row
  | .grantGone identity => "GRANT not found for " ++ identity.sql ++ " - removing from state"
  | .alreadyRevoked sql message =>
      "grant already absent, nothing to revoke (" ++ sql ++ "): " ++ message

/-- Whether a notice warns of something or only informs. -/
def Notice.isWarning : Notice → Bool
  | .alreadyRevoked .. => false
  | _ => true

/-- A server in use. -/
structure Exchange where
  server : Server
  script : Script
  attempts : List Attempt := []
  notices : List Notice := []
deriving DecidableEq

namespace Exchange

/-- The answer that an error, if there is one, takes the place of. -/
def answer {α : Type} (error : Option DatabaseError) (value : α) : Except DatabaseError α :=
  match error with
  | some e => .error e
  | none => .ok value

/-- Notes a call. -/
def record (x : Exchange) (call : Call) (error : Option DatabaseError) : Exchange :=
  { x with attempts := x.attempts ++ [⟨call, error⟩] }

/-- Asks for rows. -/
def query (sql : String) (x : Exchange) : Except DatabaseError (List String) × Exchange :=
  let error := x.script.query
  (answer error x.server.rows,
   { x.record (.query sql) error with script := { x.script with query := none } })

/-- Executes a statement. -/
def execute (sql : String) (x : Exchange) : Except DatabaseError Unit × Exchange :=
  let error := x.script.executes.head?.join
  (answer error (),
   { x.record (.execute sql) error with
     script := { x.script with executes := x.script.executes.tail }
     server := if error.isNone then x.server.afterExecute sql else x.server })

/-- Asks whether the server has roles. -/
def askRoles (x : Exchange) : Except DatabaseError Bool × Exchange :=
  let error := x.script.roles
  (answer error (supportsRoles x.server.version),
   { x.record .supportsRoles error with script := { x.script with roles := none } })

/-- Gives notices. -/
def notify (notices : List Notice) (x : Exchange) : Exchange :=
  { x with notices := x.notices ++ notices }

end Exchange

/-- Work on a server that may end in a failure. What was called and said stays on record. -/
abbrev Action := ExceptT Failure (StateM Exchange)

end AccountGrants
