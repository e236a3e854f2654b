import AccountGrants.Reconcile

/-!
Sessions: requests carried out one after the other on the same server. Each step may first change
the server, and has a script of failures of its own.
-/

namespace AccountGrants

/-- The requests of a session. -/
inductive Request where
  | list (identity : Identity)
  | hasConflict (g : Grant)
  | create (g : Grant)
  | read (g : Grant)
  | update (g : Grant) (old new : List String)
  | delete (g : Grant)
  | find (id : ImportId)
  | importGrant (id : ImportId)
deriving DecidableEq

/-- The values that requests yield. -/
inductive Reply where
  | grants (live : List Grant)
  | flag (value : Bool)
  | identifier (text : String)
  | grant? (g : Option Grant)
  | change (c : PrivilegeChange)
  | done
  | declaration? (d : Option Declaration)
deriving DecidableEq

/-- Carries out a request. -/
def Request.perform : Request → Action Reply
  | .list identity => .grants <$> Reconcile.list identity
  | .hasConflict g => .flag <$> Reconcile.hasConflict g
  | .create g => .identifier <$> Reconcile.create g
  | .read g => .grant? <$> Reconcile.read g
  | .update g old new => .change <$> Reconcile.update g old new
  | .delete g => (fun _ => .done) <$> Reconcile.delete g
  | .find id => .grant? <$> Reconcile.find id
  | .importGrant id => .declaration? <$> Reconcile.importGrant id

/-- A step: new rows or a new version for the server, the failures to come, and a request, or the
failure of the text that should have been one. -/
structure Step where
  rows : Option (List String) := none
  version : Option String := none
  script : Script := {}
  request : Except Failure Request

/-- What a step came to. -/
structure Report where
  result : Except Failure Reply
  attempts : List Attempt
  notices : List Notice

/-- Carries out a step, and yields the server it leaves. -/
def Step.run (step : Step) (server : Server) : Report × Server :=
  let server := server.replace step.rows step.version
  match step.request with
  | .error failure => (⟨.error failure, [], []⟩, server)
  | .ok request =>
    let (result, exchange) := request.perform.run.run { server, script := step.script }
    (⟨result, exchange.attempts, exchange.notices⟩, exchange.server)

/-- The reports of a session. -/
def Session.run : List Step → Server → List Report
  | [], _ => []
  | step :: steps, server =>
    let (report, server) := step.run server
    report :: Session.run steps server

end AccountGrants
