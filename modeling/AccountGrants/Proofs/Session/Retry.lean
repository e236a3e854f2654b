import AccountGrants.Proofs.Privilege.Canonical
import AccountGrants.Proofs.Session.Run
import AccountGrants.Proofs.Update
import Mathlib.Data.List.Forall2

/-!
Retries of an update. An update executes its revocation before the statement of the grant, and goes
on only if the revocation was answered. After an update that ended between the two the revocation
has nothing left to take back, so a server that says so keeps every retry from the statement of the
grant: `Session.stalls_of_half_done`.
-/

namespace AccountGrants

/-- The old privileges that the new ones still have. -/
def PrivilegeChange.kept (old new : List String) : List String :=
  (Privilege.canonicalize old).filter (Privilege.canonicalize new).contains

/-- From what is kept there is nothing to revoke, and as much to grant as before. -/
theorem PrivilegeChange.between_kept (old new : List String) :
    between (kept old new) new = ⟨(between old new).added, []⟩ := by
  have hkept : Privilege.canonicalize (kept old new) = kept old new :=
    Privilege.canonicalize_of_subset (List.filter_subset_self _)
  have hadded : missing (Privilege.canonicalize new) (kept old new) =
      missing (Privilege.canonicalize new) (Privilege.canonicalize old) := by
    refine List.filter_congr fun token htoken => ?_
    have hnew : token ∈ Privilege.canonicalize new := List.mem_eraseDups.mp htoken
    simp [kept, hnew]
  have hremoved : missing (kept old new) (Privilege.canonicalize new) = [] :=
    missing_eq_nil.mpr fun token htoken => by simpa using (List.mem_filter.mp htoken).2
  simp only [between, hkept, hadded, hremoved]

namespace Reconcile

variable {g : Grant} {tokens old new : List String} {object : Object} {x : Exchange}

/-- A revocation that fails ends an update. -/
theorem on_update_of_refused (hg : g.entitlement = .privileges tokens object)
    (hremoved : (PrivilegeChange.between old new).removed ≠ []) {e : DatabaseError}
    (he : x.script.executes.head?.join = some e) :
    (update g old new).on x =
      (.error ⟨.execution (revokeRemoved g object (PrivilegeChange.between old new)) e.message,
          none⟩,
        (Exchange.execute (revokeRemoved g object (PrivilegeChange.between old new)) x).2) := by
  have hwanted : (!(PrivilegeChange.between old new).removed.isEmpty) = true := by
    simpa using hremoved
  rw [update_eq hg]
  dsimp only
  rw [Action.on_bind, executeIf, if_pos hwanted, on_execute, he]

/-- An update with nothing to revoke only executes the statement of the grant. -/
theorem on_update_of_nothing_removed (hg : g.entitlement = .privileges tokens object)
    (hremoved : (PrivilegeChange.between old new).removed = [])
    (hadded : (PrivilegeChange.between old new).added ≠ [])
    (he : x.script.executes.head?.join = none) :
    (update g old new).on x =
      (.ok (PrivilegeChange.between old new), (Exchange.execute g.statement x).2) := by
  have hwanted : (!(PrivilegeChange.between old new).added.isEmpty) = true := by
    simpa using hadded
  have hidle : ¬(!(PrivilegeChange.between old new).removed.isEmpty) = true := by simp [hremoved]
  rw [update_eq hg]
  dsimp only
  rw [Action.on_bind, executeIf, if_neg hidle, Action.on_pure]
  dsimp only
  rw [Action.on_bind, executeIf, if_pos hwanted, on_execute, he]
  rfl

/-- An update that made two calls had something to revoke and something to grant. -/
theorem wanted_of_two_attempts (hg : g.entitlement = .privileges tokens object)
    {first second : Attempt} (hx : x.attempts = [])
    (h : ((update g old new).on x).2.attempts = [first, second]) :
    (PrivilegeChange.between old new).removed ≠ [] ∧
      (PrivilegeChange.between old new).added ≠ [] := by
  obtain ⟨revoked, granted, hrevoked, hgranted, hcourse⟩ := update_attempts hg old new x
  rw [h, hx, List.nil_append, List.nil_append] at hcourse
  have hboth : [first, second] = revoked ++ granted := by
    rcases hcourse with ⟨-, hmade, -⟩ | ⟨-, hmade⟩
    · exact hmade
    · cases hrevoked <;> cases hmade
  cases hrevoked with
  | idle => cases hgranted <;> cases hboth
  | executed hremoved error =>
    cases hgranted with
    | idle => cases hboth
    | executed hadded error => exact ⟨hremoved, hadded⟩

end Reconcile

open Reconcile

/-- A step that carries out an update, the first statement of which the server refuses. -/
structure Step.Refused (g : Grant) (old new : List String) (step : Step) (e : DatabaseError) :
    Prop where
  request : step.request = .ok (.update g old new)
  refused : step.script.executes.head?.join = some e

/-- The report of a step that executed nothing but a statement the server refused. -/
def Report.refused (sql : String) (e : DatabaseError) : Report :=
  ⟨.error ⟨.execution sql e.message, none⟩, [⟨.execute sql, some e⟩], []⟩

variable {g : Grant} {tokens old new : List String} {object : Object}

theorem Step.Refused.run (hg : g.entitlement = .privileges tokens object)
    (hremoved : (PrivilegeChange.between old new).removed ≠ []) {step : Step} {e : DatabaseError}
    (h : step.Refused g old new e) (server : Server) :
    (step.run server).1 =
      .refused (revokeRemoved g object (PrivilegeChange.between old new)) e := by
  have hrefused : (step.opening server).script.executes.head?.join = some e := h.refused
  rw [Step.run_of_request h.request]
  simp only [Request.perform, Action.on_map, on_update_of_refused hg hremoved hrefused]
  simp [Exchange.execute, Exchange.record, h.refused, Except.map, Report.refused, Step.opening]

namespace Session

theorem run_refused (hg : g.entitlement = .privileges tokens object)
    (hremoved : (PrivilegeChange.between old new).removed ≠ []) {retries : List Step}
    {errors : List DatabaseError} (h : List.Forall₂ (Step.Refused g old new) retries errors)
    (server : Server) :
    run retries server =
      errors.map (.refused (revokeRemoved g object (PrivilegeChange.between old new))) := by
  induction h generalizing server with
  | nil => rfl
  | cons hfirst _ ih => exact congrArg₂ List.cons (hfirst.run hg hremoved server) (ih _)

/-- After an update whose revocation was answered and whose grant failed, a retry that the server
refuses the revocation to ends there, whatever the refusal says, and however often it is tried. An
update from the privileges that are kept only executes the statement of the grant, and succeeds. -/
theorem stalls_of_half_done (hg : g.entitlement = .privileges tokens object) {halfDone : Step}
    (hrequest : halfDone.request = .ok (.update g old new)) (server : Server) {e : DatabaseError}
    (hattempts : (halfDone.run server).1.attempts =
      [⟨.execute (revokeRemoved g object (PrivilegeChange.between old new)), none⟩,
        ⟨.execute g.statement, some e⟩])
    {retries : List Step} {errors : List DatabaseError}
    (hretries : List.Forall₂ (Step.Refused g old new) retries errors) :
    run (halfDone :: retries) server =
        (halfDone.run server).1 ::
          errors.map (.refused (revokeRemoved g object (PrivilegeChange.between old new))) ∧
      ∀ resumed : Step,
        resumed.request = .ok (.update g (PrivilegeChange.kept old new) new) →
        resumed.script.executes.head?.join = none →
        (resumed.run (leaves (halfDone :: retries) server)).1 =
          ⟨.ok (.change ⟨(PrivilegeChange.between old new).added, []⟩),
            [⟨.execute g.statement, none⟩], []⟩ := by
  obtain ⟨hremoved, hadded⟩ : (PrivilegeChange.between old new).removed ≠ [] ∧
      (PrivilegeChange.between old new).added ≠ [] := by
    rw [Step.run_of_request hrequest] at hattempts
    simp only [Request.perform, Action.on_map] at hattempts
    exact wanted_of_two_attempts hg rfl hattempts
  refine ⟨congrArg _ (run_refused hg hremoved hretries _), fun resumed hresumed hanswered => ?_⟩
  generalize leaves (halfDone :: retries) server = server'
  have hopening : (resumed.opening server').script.executes.head?.join = none := hanswered
  have hchange := PrivilegeChange.between_kept old new
  have hdone := on_update_of_nothing_removed hg (congrArg PrivilegeChange.removed hchange)
    (hchange ▸ hadded) hopening
  rw [Step.run_of_request hresumed]
  simp only [Request.perform, Action.on_map, hdone, hchange]
  simp [Exchange.execute, Exchange.record, hanswered, Except.map, Step.opening]

/-- The update of `ordersGrant`, whose grant fails for want of rights. -/
def ordersHalfDone : Step where
  script := { executes := [none, some ⟨some 1045, "denied"⟩] }
  request := .ok (.update ordersGrant ["SELECT", "INSERT"] ["SELECT", "UPDATE"])

/-- The retry, at a server that would accept the grant. -/
def ordersRetry : Step where
  script := { executes := [some ⟨some 1147, "no such grant"⟩, none] }
  request := .ok (.update ordersGrant ["SELECT", "INSERT"] ["SELECT", "UPDATE"])

theorem ordersHalfDone_stalls :
    run [ordersHalfDone, ordersRetry, ordersRetry] ⟨[], "8.0.32", true⟩ =
      [⟨.error ⟨.execution "GRANT SELECT, UPDATE ON `app`.`orders` TO 'bob'@'%'" "denied", none⟩,
          [⟨.execute "REVOKE INSERT ON `app`.`orders` FROM 'bob'@'%'", none⟩,
            ⟨.execute "GRANT SELECT, UPDATE ON `app`.`orders` TO 'bob'@'%'",
              some ⟨some 1045, "denied"⟩⟩], []⟩,
        .refused "REVOKE INSERT ON `app`.`orders` FROM 'bob'@'%'" ⟨some 1147, "no such grant"⟩,
        .refused "REVOKE INSERT ON `app`.`orders` FROM 'bob'@'%'" ⟨some 1147, "no such grant"⟩] :=
  (stalls_of_half_done rfl (rfl : ordersHalfDone.request =
      .ok (.update ordersGrant ["SELECT", "INSERT"] ["SELECT", "UPDATE"]))
    ⟨[], "8.0.32", true⟩ (e := ⟨some 1045, "denied"⟩) rfl
    (.cons ⟨rfl, rfl⟩ (.cons ⟨rfl, rfl⟩ .nil))).1

/-- A deletion passes over an error that says a grant is not there, and the retry of an update does
not. -/
theorem not_resumed_by_retry :
    ¬∀ (g : Grant) (tokens : List String) (object : Object) (old new : List String)
      (halfDone retry : Step) (server : Server) (e absent : DatabaseError),
      g.entitlement = .privileges tokens object →
      halfDone.request = .ok (.update g old new) →
      (halfDone.run server).1.attempts =
        [⟨.execute (revokeRemoved g object (PrivilegeChange.between old new)), none⟩,
          ⟨.execute g.statement, some e⟩] →
      retry.request = .ok (.update g old new) →
      absent.category = .nonexistentGrant →
      retry.script.executes = [some absent, none] →
      ⟨.execute g.statement, none⟩ ∈ (retry.run (halfDone.run server).2).1.attempts ∧
        (retry.run (halfDone.run server).2).1.result.isOk = true := by
  intro h
  have hresumed := (h ordersGrant _ _ _ _ ordersHalfDone ordersRetry ⟨[], "8.0.32", true⟩
    ⟨some 1045, "denied"⟩ ⟨some 1147, "no such grant"⟩ rfl rfl rfl rfl rfl rfl).2
  cases hresumed

end Session

end AccountGrants
