import AccountGrants.Declaration
import AccountGrants.ImportId
import AccountGrants.PrivilegeChange
import AccountGrants.Row
import AccountGrants.Server.Exchange

/-!
Bringing declared grants and a server into agreement. Every operation lists the grants it needs
anew; nothing is kept between operations.
-/

namespace AccountGrants

/-- The grants of an identity among listed rows, and a notice for each partial revoke. Rows of other
identities are passed over; the first unreadable row ends the reading. -/
def readListing (identity : Identity) : List String → List Notice × Except Problem (List Grant)
  | [] => ([], .ok [])
  | row :: rows =>
    match Row.parse row with
    | .error problem => ([], .error problem)
    | .ok .partialRevoke =>
      let (notices, grants) := readListing identity rows
      (.partialRevoke row :: notices, grants)
    | .ok (.grant g) =>
      let (notices, grants) := readListing identity rows
      (notices, if g.identity = identity then grants.map (g :: ·) else grants)

/-- Whether a live grant stands in the way of a desired one: same kind and same option, wherever
each applies. A live grant without any privileges does not. -/
def Grant.conflictsWith (live desired : Grant) : Bool :=
  live.grantOption == desired.grantOption && live.kind == desired.kind &&
    live.privileges? != some []

namespace Reconcile

/-- The query for the grants of an identity. -/
def listingQuery (identity : Identity) : String :=
  "SHOW GRANTS FOR " ++ identity.sql

/-- The live grants of an identity. One that the server does not know has none. -/
def list (identity : Identity) : Action (List Grant) := do
  let sql := listingQuery identity
  match ← modifyGet (Exchange.query sql) with
  | .error e =>
    if e.isIgnorable then return []
    else throw ⟨.execution sql e.message, some .listing⟩
  | .ok rows =>
    let (notices, grants) := readListing identity rows
    modify (Exchange.notify notices)
    match grants with
    | .ok grants => return grants
    | .error problem => throw ⟨problem, none⟩

/-- Executes a statement. -/
def execute (sql : String) : Action Unit := do
  match ← modifyGet (Exchange.execute sql) with
  | .ok () => return ()
  | .error e => throw ⟨.execution sql e.message, none⟩

/-- Whether the identity holds a live grant that stands in the way. -/
def hasConflict (desired : Grant) : Action Bool := do
  let live ← list desired.identity
  return live.any (·.conflictsWith desired)

/-- Refuses role grants where the server has no roles. -/
def requireRoles : Action Unit := do
  match ← modifyGet Exchange.askRoles with
  | .ok true => return ()
  | .ok false => throw ⟨.unsupported .roleGrants, none⟩
  | .error e => throw ⟨.database e, some .probingRoles⟩

/-- Applies a new grant and yields its identifier. -/
def create (g : Grant) : Action String := do
  if g.kind = .role then requireRoles
  if ← hasConflict g then throw ⟨.conflict g.identity, none⟩
  execute g.statement
  return g.identifier

/-- The grant as it was given while its identity holds any live grant, else nothing. -/
def read (g : Grant) : Action (Option Grant) := do
  let live ← list g.identity
  if live.isEmpty then
    modify (Exchange.notify [.grantGone g.identity])
    return none
  else return some g

/-- Moves a grant from `old` to `new` privileges: revokes what is gone, then applies the whole
grant if anything is new. -/
def update (g : Grant) (old new : List String) : Action PrivilegeChange := do
  if g.kind = .role then throw ⟨.unsupported .privilegeUpdate, none⟩
  let change := PrivilegeChange.between old new
  if !change.removed.isEmpty then
    match g.partialRevocation change.removed with
    | .ok sql => execute sql
    | .error problem => throw ⟨problem, none⟩
  if !change.added.isEmpty then execute g.statement
  return change

/-- Takes a grant back. One that is not there counts as taken back. -/
def delete (g : Grant) : Action Unit := do
  let sql := g.revocation
  match ← modifyGet (Exchange.execute sql) with
  | .ok () => return ()
  | .error e =>
    if e.isIgnorable then modify (Exchange.notify [.alreadyRevoked sql e.message])
    else throw ⟨.execution sql e.message, some .revoking⟩

/-- The first live grant that an import id looks for. -/
def find (id : ImportId) : Action (Option Grant) := do
  let live ← list id.identity
  return live.find? id.selects

/-- The live grant that an import id looks for, as it would be declared. -/
def importGrant (id : ImportId) : Action (Option Declaration) := do
  let found ← find id
  return found.map Declaration.ofGrant

end Reconcile

end AccountGrants
