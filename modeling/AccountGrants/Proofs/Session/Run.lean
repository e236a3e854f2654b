import AccountGrants.Proofs.Request

/-!
The run of a session step by step: `Session.leaves` is the server that steps leave, and each report
of a run is that of its step on the server the earlier steps left.
-/

namespace AccountGrants

/-- The exchange in which a step carries out its request. -/
def Step.opening (step : Step) (server : Server) : Exchange :=
  { server := server.replace step.rows step.version, script := step.script }

theorem Step.run_of_request {step : Step} {request : Request} (h : step.request = .ok request)
    (server : Server) :
    step.run server =
      (⟨(request.perform.on (step.opening server)).1,
        (request.perform.on (step.opening server)).2.attempts,
        (request.perform.on (step.opening server)).2.notices⟩,
       (request.perform.on (step.opening server)).2.server) := by
  simp only [Step.run, h]
  rfl

theorem Step.run_of_failure {step : Step} {failure : Failure} (h : step.request = .error failure)
    (server : Server) :
    step.run server = (⟨.error failure, [], []⟩, (step.opening server).server) := by
  simp only [Step.run, h]
  rfl

/-- The server that the steps of a session leave. -/
def Session.leaves : List Step → Server → Server
  | [], server => server
  | step :: steps, server => Session.leaves steps (step.run server).2

theorem Session.leaves_append (steps more : List Step) (server : Server) :
    Session.leaves (steps ++ more) server = Session.leaves more (Session.leaves steps server) := by
  induction steps generalizing server with
  | nil => rfl
  | cons step steps ih => exact ih _

theorem Session.run_getElem? (steps : List Step) (server : Server) (i : Nat) :
    (Session.run steps server)[i]? =
      steps[i]?.map fun step => (step.run (Session.leaves (steps.take i) server)).1 := by
  induction steps generalizing server i with
  | nil => simp [Session.run]
  | cons step steps ih =>
    cases i with
    | zero => simp [Session.run, Session.leaves]
    | succ i => simpa [Session.run, Session.leaves] using ih (step.run server).2 i

/-- A server after another that it went on from: rows are only added, and a server that lists what
it executes goes on doing so. -/
structure Server.GoesOn (before after : Server) : Prop where
  rows : before.rows <+: after.rows
  echo : after.echo = before.echo

namespace Server.GoesOn

theorem refl (server : Server) : GoesOn server server :=
  ⟨List.prefix_refl _, rfl⟩

theorem trans {a b c : Server} (hab : GoesOn a b) (hbc : GoesOn b c) : GoesOn a c :=
  ⟨hab.rows.trans hbc.rows, hbc.echo.trans hab.echo⟩

theorem afterExecute (server : Server) (sql : String) :
    GoesOn server (server.afterExecute sql) := by
  unfold Server.afterExecute
  split
  · exact ⟨List.prefix_append _ _, rfl⟩
  · exact refl _

theorem execute (sql : String) (x : Exchange) :
    GoesOn x.server (Exchange.execute sql x).2.server := by
  simp only [Exchange.execute]
  split
  · exact afterExecute _ _
  · exact refl _

/-- Nothing that a request does takes rows from a server. -/
theorem compositional :
    Action.Compositional fun m => m.Moves fun x y => GoesOn x.server y.server where
  pure _ x := refl x.server
  throw _ x := refl x.server
  bind hm hf :=
    Action.Moves.bind (S := fun x y => GoesOn x.server y.server) (fun _ _ _ => trans) hm hf
  execute sql x := execute sql x
  askRoles x := refl x.server
  notify _ x := refl x.server

theorem list (identity : Identity) :
    (Reconcile.list identity).Moves fun x y => GoesOn x.server y.server := by
  intro x
  rw [Reconcile.on_list]
  split <;> exact refl _

theorem step {step : Step} (hrows : step.rows = none) (server : Server) :
    GoesOn server (step.run server).2 := by
  have hopening : GoesOn server (step.opening server).server := by
    simp only [Step.opening, Server.replace, hrows, Option.getD_none]
    exact ⟨List.prefix_refl _, rfl⟩
  cases hr : step.request with
  | error failure => rwa [Step.run_of_failure hr]
  | ok request =>
    rw [Step.run_of_request hr]
    exact hopening.trans (compositional.perform request (list _) _)

/-- A session in which no step replaces the rows only adds to them. -/
theorem leaves (steps : List Step) (hrows : ∀ step ∈ steps, step.rows = none) (server : Server) :
    GoesOn server (Session.leaves steps server) := by
  induction steps generalizing server with
  | nil => exact refl _
  | cons first steps ih =>
    exact (step (hrows first List.mem_cons_self) server).trans
      (ih (fun later h => hrows later (List.mem_cons_of_mem _ h)) _)

end Server.GoesOn

end AccountGrants
