import AccountGrants.Proofs.Session.Run
import Mathlib.Data.List.Forall2

/-!
What the report of a step tells about failures of the server. A request goes on from a failed call
only if the failure says that a grant is not there. Any other failure makes its call the last one,
and the result names that call with the server's message: `Session.run_tells_failures`.
-/

namespace AccountGrants

/-- The failure in which a failed call ends a request that executes its statements for `during`. -/
def Call.failure (during : Option Activity) (e : DatabaseError) : Call → Failure
  | .query sql => ⟨.execution sql e.message, some .listing⟩
  | .execute sql => ⟨.execution sql e.message, during⟩
  | .supportsRoles => ⟨.database e, some .probingRoles⟩

/-- A call that did not fail, or only because a grant is not there. -/
def Attempt.IsPassed (a : Attempt) : Prop :=
  ∀ e, a.error = some e → a.call ≠ .supportsRoles ∧ e.category = .nonexistentGrant

theorem Attempt.isPassed_of_answered (call : Call) : IsPassed ⟨call, none⟩ := by
  intro e he
  cases he

theorem Attempt.isPassed_of_ignorable {call : Call} {e : DatabaseError}
    (hcall : call ≠ .supportsRoles) (h : e.isIgnorable = true) : IsPassed ⟨call, some e⟩ := by
  intro e' he'
  cases he'
  exact ⟨hcall, (DatabaseError.isIgnorable_iff e).mp h⟩

/-- How a result goes with the calls that were made for it. -/
inductive Course (during : Option Activity) {α : Type} : Except Failure α → List Attempt → Prop
  | done {a : α} {made : List Attempt} (passed : ∀ t ∈ made, t.IsPassed) :
      Course during (.ok a) made
  | refused {f : Failure} {made : List Attempt} (refusal : f.problem.IsRefusal)
      (passed : ∀ t ∈ made, t.IsPassed) : Course during (.error f) made
  | stopped {before : List Attempt} (passed : ∀ t ∈ before, t.IsPassed) (call : Call)
      (e : DatabaseError) :
      Course during (.error (call.failure during e)) (before ++ [⟨call, some e⟩])

namespace Course

variable {α β : Type} {during : Option Activity} {made before after : List Attempt}

/-- A request whose first call fails and is not passed over. -/
theorem stopped_at_first (call : Call) (e : DatabaseError) :
    Course during (.error (call.failure during e) : Except Failure α) [⟨call, some e⟩] := by
  have hnone : ∀ t ∈ ([] : List Attempt), t.IsPassed := by simp
  exact .stopped hnone call e

theorem of_error {f : Failure} (h : Course during (.error f : Except Failure α) made) :
    Course during (.error f : Except Failure β) made := by
  cases h with
  | refused refusal passed => exact .refused refusal passed
  | stopped passed call e => exact .stopped passed call e

theorem passed_of_ok {a : α} (h : Course during (.ok a) made) : ∀ t ∈ made, t.IsPassed := by
  cases h with
  | done passed => exact passed

theorem behind {result : Except Failure α} (hbefore : ∀ t ∈ before, t.IsPassed)
    (h : Course during result made) : Course during result (before ++ made) := by
  have hboth : ∀ {made : List Attempt}, (∀ t ∈ made, t.IsPassed) →
      ∀ t ∈ before ++ made, t.IsPassed := by
    intro made hmade t ht
    exact (List.mem_append.mp ht).elim (hbefore t) (hmade t)
  cases h with
  | done passed => exact .done (hboth passed)
  | refused refusal passed => exact .refused refusal (hboth passed)
  | stopped passed call e =>
    rw [← List.append_assoc]
    exact .stopped (hboth passed) call e

/-- A failure that is not passed over ends the calls, and the result is made of it. -/
theorem at_failure {result : Except Failure α} {call : Call} {e : DatabaseError}
    (h : Course during result (before ++ ⟨call, some e⟩ :: after))
    (hstops : ¬Attempt.IsPassed ⟨call, some e⟩) :
    after = [] ∧ result = .error (call.failure during e) := by
  generalize hmade : before ++ ⟨call, some e⟩ :: after = made at h
  have hmem : (⟨call, some e⟩ : Attempt) ∈ made := by
    rw [← hmade]
    exact List.mem_append_right before List.mem_cons_self
  cases h with
  | done passed => exact absurd (passed _ hmem) hstops
  | refused refusal passed => exact absurd (passed _ hmem) hstops
  | @stopped early passed last e' =>
    rcases List.eq_nil_or_concat' after with rfl | ⟨later, a, rfl⟩
    · obtain ⟨-, hlast⟩ := List.append_inj' hmade rfl
      cases hlast
      exact ⟨rfl, rfl⟩
    · -- only the last call may be one that is not passed over
      have hsplit : (before ++ ⟨call, some e⟩ :: later) ++ [a] = early ++ [⟨last, some e'⟩] := by
        rw [← hmade, List.append_assoc, List.cons_append]
      obtain ⟨rfl, -⟩ := List.append_inj' hsplit rfl
      exact absurd (passed _ (List.mem_append_right before List.mem_cons_self)) hstops

/-- A problem with a statement is that of the last call. -/
theorem of_execution {f : Failure} {sql message : String}
    (h : Course during (.error f : Except Failure α) made)
    (hproblem : f.problem = .execution sql message) :
    ∃ before call e, made = before ++ [⟨call, some e⟩] ∧
      (call = .query sql ∨ call = .execute sql) ∧ e.message = message := by
  cases h with
  | refused refusal passed =>
    rw [hproblem] at refusal
    cases refusal
  | @stopped before passed call e =>
    refine ⟨before, call, e, rfl, ?_⟩
    cases call with
    | query text =>
      cases hproblem
      exact ⟨Or.inl rfl, rfl⟩
    | execute text =>
      cases hproblem
      exact ⟨Or.inr rfl, rfl⟩
    | supportsRoles => cases hproblem

end Course

/-- An action that makes calls and has a result that goes with them. -/
def Action.Ends (during : Option Activity) {α : Type} (m : Action α) : Prop :=
  ∀ x, ∃ made, (m.on x).2.attempts = x.attempts ++ made ∧ Course during (m.on x).1 made

namespace Action.Ends

variable {during : Option Activity} {α β : Type}

theorem pure (a : α) : (Pure.pure a : Action α).Ends during :=
  fun _ => ⟨[], (List.append_nil _).symm, .done (by simp)⟩

theorem refuse {f : Failure} (refusal : f.problem.IsRefusal) :
    (throw f : Action α).Ends during :=
  fun _ => ⟨[], (List.append_nil _).symm, .refused refusal (by simp)⟩

theorem notify (notices : List Notice) :
    (modify (Exchange.notify notices) : Action PUnit).Ends during :=
  fun _ => ⟨[], (List.append_nil _).symm, .done (by simp)⟩

theorem bind {m : Action α} {f : α → Action β} (hm : m.Ends during)
    (hf : ∀ a, (f a).Ends during) : (m >>= f).Ends during := by
  intro x
  obtain ⟨first, hfirst, hcourse⟩ := hm x
  rw [on_bind]
  rcases h : m.on x with ⟨e | a, y⟩ <;> rw [h] at hfirst hcourse
  · exact ⟨first, hfirst, hcourse.of_error⟩
  · obtain ⟨second, hsecond, hnext⟩ := hf a y
    have hpassed := hcourse.passed_of_ok
    have hmade : ((f a).on y).2.attempts = x.attempts ++ (first ++ second) := by
      rw [hsecond, hfirst, List.append_assoc]
    exact ⟨first ++ second, hmade, hnext.behind hpassed⟩

end Action.Ends

namespace Reconcile

variable {during : Option Activity}

theorem list_ends (identity : Identity) : (list identity).Ends during := by
  intro x
  refine ⟨[⟨.query (listingQuery identity), x.script.query⟩], list_attempts identity x, ?_⟩
  have hanswered := Attempt.isPassed_of_answered (.query (listingQuery identity))
  have hlisted := list_listed identity x
  generalize hanswer : x.queryAnswer = answer, ((list identity).on x).1 = result at hlisted ⊢
  cases hlisted with
  | @unknown e absent =>
    have hpassed : Attempt.IsPassed ⟨.query (listingQuery identity), some e⟩ :=
      Attempt.isPassed_of_ignorable (by simp) absent
    rw [Exchange.queryAnswer_eq_error.mp hanswer]
    exact .done (by simpa using hpassed)
  | @refused e other =>
    rw [Exchange.queryAnswer_eq_error.mp hanswer]
    exact .stopped_at_first (.query (listingQuery identity)) e
  | readable =>
    rw [(Exchange.queryAnswer_eq_ok.mp hanswer).1]
    exact .done (by simpa using hanswered)
  | unreadable =>
    rw [(Exchange.queryAnswer_eq_ok.mp hanswer).1]
    exact .refused trivial (by simpa using hanswered)

theorem execute_ends (sql : String) : (execute sql).Ends none := by
  intro x
  refine ⟨[⟨.execute sql, x.script.executes.head?.join⟩], by rw [on_execute]; rfl, ?_⟩
  rw [on_execute]
  cases x.script.executes.head?.join with
  | some e => exact .stopped_at_first (.execute sql) e
  | none => exact .done (by simpa using Attempt.isPassed_of_answered (.execute sql))

theorem requireRoles_ends : requireRoles.Ends during := by
  intro x
  have hanswered := Attempt.isPassed_of_answered .supportsRoles
  rw [on_requireRoles]
  unfold Exchange.askRoles
  refine ⟨[⟨.supportsRoles, x.script.roles⟩], ?_⟩
  cases x.script.roles with
  | some e => exact ⟨rfl, .stopped_at_first .supportsRoles e⟩
  | none =>
    dsimp only [Exchange.answer]
    cases Server.supportsRoles x.server.version with
    | false => exact ⟨rfl, .refused trivial (by simpa using hanswered)⟩
    | true => exact ⟨rfl, .done (by simpa using hanswered)⟩

theorem delete_ends (g : Grant) : (delete g).Ends (some .revoking) := by
  intro x
  unfold delete
  dsimp only
  rw [Action.on_bind, Action.on_modifyGet]
  unfold Exchange.execute
  refine ⟨[⟨.execute g.revocation, x.script.executes.head?.join⟩], ?_⟩
  cases x.script.executes.head?.join with
  | none =>
    have hanswered := Attempt.isPassed_of_answered (.execute g.revocation)
    exact ⟨rfl, .done (by simpa using hanswered)⟩
  | some e =>
    dsimp only [Exchange.answer]
    by_cases hignorable : e.isIgnorable = true
    · have hpassed : Attempt.IsPassed ⟨.execute g.revocation, some e⟩ :=
        Attempt.isPassed_of_ignorable (by simp) hignorable
      rw [if_pos hignorable]
      exact ⟨rfl, .done (by simpa using hpassed)⟩
    · rw [if_neg hignorable]
      exact ⟨rfl, .stopped_at_first (.execute g.revocation) e⟩

theorem ends_stepwise : Action.Stepwise fun m => m.Ends none where
  pure := Action.Ends.pure
  refuse _ := Action.Ends.refuse
  bind := Action.Ends.bind
  notify := Action.Ends.notify
  execute := execute_ends
  requireRoles := requireRoles_ends

end Reconcile

/-- What a request executes its statements for, where its failures tell. -/
def Request.executesFor : Request → Option Activity
  | .delete _ => some .revoking
  | _ => none

theorem Request.perform_ends (request : Request) : request.perform.Ends request.executesFor := by
  have hlist : (Reconcile.list request.identity).Ends none :=
    Reconcile.list_ends request.identity
  cases request with
  | delete g =>
    have hdelete := Reconcile.delete_ends g
    exact hdelete.bind fun _ => .pure _
  | _ => exact Reconcile.ends_stepwise.perform _ hlist nofun

/-- The text in front of a failed statement of a request. -/
def Request.statementContext : Request → Option String
  | .delete _ => some "error revoking grant"
  | _ => none

theorem Request.statementContext_eq (request : Request) :
    request.statementContext = request.executesFor.map Activity.message := by
  cases request <;> rfl

/-- A report of a failure with this problem, behind the text of a context where one is given. -/
def Report.FailsWith (report : Report) (context : Option String) (problem : Problem) : Prop :=
  ∃ f, report.result = .error f ∧ f.problem = problem ∧
    f.messages = context.toList ++ [problem.message]

/-- A report that tells of the failures its request met. -/
structure Report.Tells (request : Request) (report : Report) : Prop where
  query : ∀ {before after sql e}, report.attempts = before ++ ⟨.query sql, some e⟩ :: after →
    e.category ≠ .nonexistentGrant →
      after = [] ∧ report.FailsWith (some "getting grants failed") (.execution sql e.message)
  execute : ∀ {before after sql e}, report.attempts = before ++ ⟨.execute sql, some e⟩ :: after →
    e.category ≠ .nonexistentGrant →
      after = [] ∧ report.FailsWith request.statementContext (.execution sql e.message)
  roles : ∀ {before after e}, report.attempts = before ++ ⟨.supportsRoles, some e⟩ :: after →
    after = [] ∧ report.FailsWith (some "failed getting role support") (.database e)
  execution : ∀ {f sql message}, report.result = .error f →
    f.problem = .execution sql message → ∃ before call e,
      report.attempts = before ++ [⟨call, some e⟩] ∧
        (call = .query sql ∨ call = .execute sql) ∧ e.message = message
  ok : ∀ {reply}, report.result = .ok reply → ∀ a ∈ report.attempts, ∀ e, a.error = some e →
    e.category = .nonexistentGrant

theorem Course.tells {request : Request} {report : Report}
    (h : Course request.executesFor report.result report.attempts) : report.Tells request where
  query hattempts hother := by
    rw [hattempts] at h
    obtain ⟨hlast, hresult⟩ := h.at_failure fun hpassed => hother (hpassed _ rfl).2
    exact ⟨hlast, _, hresult, rfl, rfl⟩
  execute hattempts hother := by
    rw [hattempts] at h
    obtain ⟨hlast, hresult⟩ := h.at_failure fun hpassed => hother (hpassed _ rfl).2
    rw [request.statementContext_eq]
    exact ⟨hlast, _, hresult, rfl, rfl⟩
  roles hattempts := by
    rw [hattempts] at h
    obtain ⟨hlast, hresult⟩ := h.at_failure fun hpassed => (hpassed _ rfl).1 rfl
    exact ⟨hlast, _, hresult, rfl, rfl⟩
  execution hresult hproblem := by
    rw [hresult] at h
    exact h.of_execution hproblem
  ok hresult a ha e he := by
    rw [hresult] at h
    exact (h.passed_of_ok a ha e he).2

/-- A report that tells what became of a step. Where no request could be made of the step, nothing
was called. -/
def Step.Tells (step : Step) (report : Report) : Prop :=
  match step.request with
  | .error failure => report.result = .error failure ∧ report.attempts = []
  | .ok request => report.Tells request

theorem Step.tells_run (step : Step) (server : Server) : step.Tells (step.run server).1 := by
  unfold Step.Tells
  cases hr : step.request with
  | error failure =>
    rw [Step.run_of_failure hr]
    exact ⟨rfl, rfl⟩
  | ok request =>
    obtain ⟨made, hmade, hcourse⟩ := request.perform_ends (step.opening server)
    have hattempts : (request.perform.on (step.opening server)).2.attempts = made := hmade
    rw [Step.run_of_request hr]
    apply Course.tells
    rwa [hattempts]

/-- In every session each report tells of the failures that its step met: a call that failed, other
than for a missing grant, is the last one and gives the result its text and message, a result about
a statement is about the last call, and behind a success only grants were missing. -/
theorem Session.run_tells_failures (steps : List Step) (server : Server) :
    List.Forall₂ Step.Tells steps (Session.run steps server) := by
  induction steps generalizing server with
  | nil => exact .nil
  | cons step steps ih => exact .cons (step.tells_run server) (ih _)

end AccountGrants
