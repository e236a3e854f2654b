import AccountGrants.Proofs.Import
import AccountGrants.Proofs.Session.Refusal

/-!
Finding a created grant again. A creation succeeds only where nothing stands in its way, so the
statement it executes is the first row that an import of the created grant can select, whatever
else the server lists: `Session.import_after_create`.
-/

namespace AccountGrants

namespace Reconcile

theorem execute_ok {sql : String} {x : Exchange} (h : ((execute sql).on x).1 = .ok ()) :
    ((execute sql).on x).2.server = x.server.afterExecute sql := by
  rw [on_execute] at h ⊢
  cases hscript : x.script.executes.head?.join with
  | some e => simp [hscript] at h
  | none => simp [Exchange.execute, hscript]

theorem hasConflict_ok {desired : Grant} {x : Exchange} (hquery : x.script.query = none)
    (h : ((hasConflict desired).on x).1 = .ok false) :
    ∀ live ∈ grantsOf desired.identity x.server.rows, live.conflictsWith desired = false := by
  have hnone := hasConflict_eq_ok (Exchange.queryAnswer_eq_ok.mpr ⟨hquery, rfl⟩) h
  simpa using hnone

theorem createUnlessConflict_ok {g : Grant} {x : Exchange} {label : String}
    (hquery : x.script.query = none) (h : ((createUnlessConflict g).on x).1 = .ok label) :
    (∀ live ∈ grantsOf g.identity x.server.rows, live.conflictsWith g = false) ∧
      ((createUnlessConflict g).on x).2.server = x.server.afterExecute g.statement := by
  have hasked := hasConflict_asks g x
  rw [on_createUnlessConflict] at h ⊢
  rcases hc : (hasConflict g).on x with ⟨f | _ | _, y⟩ <;> rw [hc] at h hasked
  · cases h
  · refine ⟨hasConflict_ok hquery (by rw [hc]), ?_⟩
    cases he : ((execute g.statement).on y).1 with
    | error f => simp [he, Except.map] at h
    | ok => rw [← hasked.server, ← execute_ok he]
  · cases h

/-- A creation that succeeds has found nothing in its way, and its statement is executed. -/
theorem create_ok {g : Grant} {x : Exchange} {label : String} (hquery : x.script.query = none)
    (h : ((create g).on x).1 = .ok label) :
    (∀ live ∈ grantsOf g.identity x.server.rows, live.conflictsWith g = false) ∧
      ((create g).on x).2.server = x.server.afterExecute g.statement := by
  rw [create_eq] at h ⊢
  split at h
  next hrole =>
    have hroles := requireRoles_asks x
    rw [if_pos hrole]
    rw [Action.on_bind] at h ⊢
    rcases hr : requireRoles.on x with ⟨f | known, y⟩ <;> rw [hr] at h hroles
    · cases h
    · have hserver : y.server = x.server := hroles.server
      have hcreated := createUnlessConflict_ok (hroles.query hquery) h
      rwa [hserver] at hcreated
  next hrole =>
    rw [if_neg hrole]
    exact createUnlessConflict_ok hquery h

end Reconcile

/-- A grant on the table of an id that does not stand in the way of another one has no privileges,
or another option. -/
theorem Grant.not_selected {live g : Grant} {id : ImportId} (htable : id.table ≠ "")
    (hg : id.selects g = true) (hfree : live.conflictsWith g = false)
    (hheld : live.entitlement = .privileges [] (.table id.database id.table) →
      live.grantOption ≠ id.grantOption) : id.selects live = false := by
  obtain ⟨hoption, tokens, hentitlement⟩ := (ImportId.selects_iff_of_table htable g).mp hg
  refine Bool.eq_false_iff.mpr fun hselected => ?_
  obtain ⟨hlive, held, hlisted⟩ := (ImportId.selects_iff_of_table htable live).mp hselected
  have hempty : held = [] := by
    simpa [Grant.conflictsWith, Grant.kind, Grant.privileges?, hentitlement, hlisted, hoption,
      hlive] using hfree
  exact hheld (hempty ▸ hlisted) hlive

namespace Session

theorem run_append (steps more : List Step) (server : Server) :
    run (steps ++ more) server = run steps server ++ run more (leaves steps server) := by
  induction steps generalizing server with
  | nil => rfl
  | cons step steps ih => exact congrArg ((step.run server).1 :: ·) (ih _)

/-- Behind a creation that succeeds its statement is listed after rows with nothing in its way. -/
theorem listed_of_created {creation : Step} {between : List Step} {server : Server}
    (hecho : server.echo = true) (hrows : ∀ step ∈ between, step.rows = none) {g : Grant}
    (hcreate : creation.request = .ok (.create g)) (hquery : creation.script.query = none)
    (hsuccess : (creation.run server).1.result.isOk = true) :
    (∀ live ∈ grantsOf g.identity (creation.opening server).server.rows,
        live.conflictsWith g = false) ∧
      ∃ more, (leaves (creation :: between) server).rows =
        (creation.opening server).server.rows ++ g.statement :: more := by
  have hechoes : (creation.opening server).server.echo = true := hecho
  obtain ⟨hfree, hcreated⟩ :
      (∀ live ∈ grantsOf g.identity (creation.opening server).server.rows,
        live.conflictsWith g = false) ∧
      (creation.run server).2 =
        (creation.opening server).server.afterExecute g.statement := by
    rw [Step.run_of_request hcreate] at hsuccess ⊢
    simp only [Request.perform, Action.on_map] at hsuccess ⊢
    cases hr : ((Reconcile.create g).on (creation.opening server)).1 with
    | error f => simp [hr, Except.map, Except.isOk, Except.toBool] at hsuccess
    | ok label => exact Reconcile.create_ok hquery hr
  obtain ⟨more, hmore⟩ := (Server.GoesOn.leaves between hrows (creation.run server).2).rows
  refine ⟨hfree, more, ?_⟩
  rw [leaves, ← hmore, hcreated, Server.afterExecute, if_pos hechoes, List.append_assoc,
    List.singleton_append]

/-- A created grant on a table is the one that its import yields, as it was read back. Before the
creation its holder may hold any other grants, save one without privileges on the same table and
with the same option. -/
theorem import_after_create {server : Server} (hecho : server.echo = true)
    {creation importing : Step} {between : List Step}
    (hrows : ∀ step ∈ between ++ [importing], step.rows = none)
    (hreadable : ∀ row ∈ (leaves (creation :: between) server).rows, Row.Readable row)
    {g : Grant} {id : ImportId} (hplain : id.IsPlain) (htable : id.table ≠ "")
    (hholder : g.identity = id.identity) (hselected : id.selects g = true)
    {tlsOption : String}
    (hread : Row.parse g.statement = .ok (.grant { g with tlsOption }))
    (hcreate : creation.request = .ok (.create g)) (hquery : creation.script.query = none)
    (hsuccess : (creation.run server).1.result.isOk = true)
    (hheld : ∀ live ∈ grantsOf g.identity (creation.opening server).server.rows,
      live.entitlement = .privileges [] (.table id.database id.table) →
      live.grantOption ≠ id.grantOption)
    (himport : importing.request =
      ((ImportId.ofText id.text).map Request.importGrant).mapError (⟨·, none⟩))
    (himportQuery : importing.script.query = none) :
    ((run (creation :: between ++ [importing]) server).getLast?).map (·.result) =
      some (.ok (.declaration? (some (Declaration.ofGrant { g with tlsOption })))) := by
  have hrequest : importing.request = .ok (.importGrant id) := by
    rw [himport, ImportId.ofText_text hplain]
    rfl
  obtain ⟨hfree, more, hlater⟩ := listed_of_created hecho
    (fun step hstep => hrows step (List.mem_append_left [importing] hstep)) hcreate hquery hsuccess
  have hbefore : (grantsOf id.identity (creation.opening server).server.rows).find? id.selects =
      none := by
    rw [List.find?_eq_none]
    intro live hlive
    rw [← hholder] at hlive
    rw [Grant.not_selected htable hselected (hfree live hlive) (hheld live hlive)]
    exact Bool.false_ne_true
  have hfirst : grantOf? id.identity g.statement = some { g with tlsOption } :=
    grantOf?_eq_some.mpr ⟨hread, hholder⟩
  have hback : id.selects { g with tlsOption } = true := hselected
  have hlisted : (importing.opening (leaves (creation :: between) server)).server.rows =
      (leaves (creation :: between) server).rows := by
    simp [Step.opening, Server.replace, hrows importing (by simp)]
  have hfind : ((Reconcile.find id).on
      (importing.opening (leaves (creation :: between) server))).1 = .ok _ :=
    Reconcile.find_of_answer id (Exchange.queryAnswer_eq_ok.mpr ⟨himportQuery, rfl⟩)
      (hlisted ▸ hreadable)
  rw [hlisted, hlater, grantsOf_append, List.find?_append, hbefore, grantsOf,
    List.filterMap_cons_some hfirst, List.find?_cons_of_pos hback, Option.none_or] at hfind
  have hlast : run [importing] (leaves (creation :: between) server) =
      [(importing.run (leaves (creation :: between) server)).1] := rfl
  rw [run_append, hlast, List.getLast?_concat, Step.run_of_request hrequest]
  simp only [Request.perform, Action.on_map, Reconcile.on_importGrant, hfind]
  rfl

/-- A grant that may be passed on. -/
def usersGrant : Grant where
  entitlement := .privileges ["SELECT", "UPDATE"] (.table "app" "users")
  identity := .user "bob" "%"
  grantOption := true
  tlsOption := "NONE"

/-- A server that lists other grants, among them one on the table of `usersGrant`. -/
def busyServer : Server where
  rows := ["GRANT INSERT ON `app`.`users` TO `bob`@`%`", "REVOKE INSERT ON `app`.* FROM `bob`@`%`",
    "GRANT EXECUTE ON FUNCTION `app`.`users` TO `bob`@`%` WITH GRANT OPTION"]
  version := "8.0.32"
  echo := true

/-- The import of `usersGrant`. -/
def importUsers : Step where
  request := ((ImportId.ofText "bob@%@app@users@").map Request.importGrant).mapError (⟨·, none⟩)

theorem usersGrant_import_after_create :
    ((run ({ request := .ok (.create usersGrant) } :: [{ request := .ok (.read usersGrant) }] ++
        [importUsers]) busyServer).getLast?).map (·.result) =
      some (.ok (.declaration? (some (Declaration.ofGrant { usersGrant with tlsOption := "" })))) := by
  have hparses : ((leaves [{ request := .ok (.create usersGrant) },
      { request := .ok (.read usersGrant) }] busyServer).rows.all fun row =>
        (Row.parse row).isOk) = true := by
    decide +kernel
  have hreadable : ∀ row ∈ (leaves [{ request := .ok (.create usersGrant) },
      { request := .ok (.read usersGrant) }] busyServer).rows, Row.Readable row := by
    intro row hrow
    have hok := List.all_eq_true.mp hparses row hrow
    cases hread : Row.parse row with
    | ok r => exact ⟨r, hread⟩
    | error problem =>
      rw [hread] at hok
      cases hok
  have hplain : ImportId.IsPlain ⟨"bob", "%", "app", "users", true⟩ :=
    ⟨by decide, by decide, by decide, by decide⟩
  exact import_after_create rfl (by simp [importUsers]) hreadable hplain (by decide) rfl
    rfl rfl rfl rfl (by decide +kernel) (by decide +kernel) rfl rfl

end Session

end AccountGrants
