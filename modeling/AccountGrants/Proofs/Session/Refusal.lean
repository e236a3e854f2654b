import AccountGrants.Proofs.Session.Run

/-!
One creation for each shape. On a server that lists what it executes, a grant that was created and
reads back as a grant that holds something stands in the way of every later creation of its shape:
`Session.create_refused` says so over whole sessions.
-/

namespace AccountGrants

/-- An exchange after another with questions only between them: nothing was executed. -/
structure Exchange.Asked (x y : Exchange) : Prop where
  server : y.server = x.server
  query : x.script.query = none → y.script.query = none
  attempts : ∃ more, y.attempts = x.attempts ++ more ∧ ∀ a ∈ more, ∀ sql, a.call ≠ .execute sql

namespace Exchange.Asked

theorem refl (x : Exchange) : Asked x x :=
  ⟨rfl, id, [], by simp, by simp⟩

theorem trans (x y z : Exchange) (hxy : Asked x y) (hyz : Asked y z) : Asked x z := by
  obtain ⟨first, hfirst, quietFirst⟩ := hxy.attempts
  obtain ⟨second, hsecond, quietSecond⟩ := hyz.attempts
  refine ⟨hyz.server.trans hxy.server, fun h => hyz.query (hxy.query h), first ++ second, ?_, ?_⟩
  · rw [hsecond, hfirst, List.append_assoc]
  · intro a ha
    rcases List.mem_append.mp ha with ha | ha
    · exact quietFirst a ha
    · exact quietSecond a ha

theorem query_asked (sql : String) (x : Exchange) : Asked x (x.query sql).2 :=
  ⟨rfl, fun _ => rfl, _, rfl, by simp⟩

theorem askRoles (x : Exchange) : Asked x x.askRoles.2 :=
  ⟨rfl, id, _, rfl, by simp⟩

theorem notify (notices : List Notice) (x : Exchange) : Asked x (x.notify notices) :=
  ⟨rfl, id, [], by simp [Exchange.notify], by simp⟩

end Exchange.Asked

namespace Reconcile

open Exchange

theorem list_asks (identity : Identity) : (list identity).Moves Asked := by
  intro x
  rw [on_list]
  split
  · exact Asked.query_asked _ x
  · exact Asked.trans _ _ _ (Asked.query_asked _ x) (Asked.notify _ _)

theorem hasConflict_asks (desired : Grant) : (hasConflict desired).Moves Asked := by
  intro x
  rw [on_hasConflict]
  exact list_asks desired.identity x

theorem requireRoles_asks : requireRoles.Moves Asked := by
  refine Action.Moves.bind Asked.trans Asked.askRoles fun answer => ?_
  intro x
  rcases answer with _ | _ | _ <;> exact Asked.refl x

/-- A listed grant in the way is found, unless the listing fails on some row. -/
theorem hasConflict_of_listed {x : Exchange} {desired live : Grant} {row : String}
    (hquery : x.script.query = none) (hrow : row ∈ x.server.rows)
    (hread : Row.parse row = .ok (.grant live)) (hid : live.identity = desired.identity)
    (hconflict : live.conflictsWith desired = true) :
    ((hasConflict desired).on x).1 ≠ .ok false := by
  intro hok
  have hnone := hasConflict_eq_ok (Exchange.queryAnswer_eq_ok.mpr ⟨hquery, rfl⟩) hok
  have hlive : live ∈ grantsOf desired.identity x.server.rows :=
    mem_grantsOf.mpr ⟨row, hrow, hread, hid⟩
  exact List.any_eq_false.mp hnone live hlive hconflict

/-- A creation that a listed grant stands in the way of fails before anything is executed. -/
theorem createUnlessConflict_refused {x : Exchange} {g live : Grant} {row : String}
    (hquery : x.script.query = none) (hrow : row ∈ x.server.rows)
    (hread : Row.parse row = .ok (.grant live)) (hid : live.identity = g.identity)
    (hconflict : live.conflictsWith g = true) :
    (∃ f, ((createUnlessConflict g).on x).1 = .error f) ∧
      Asked x ((createUnlessConflict g).on x).2 := by
  have hfound := hasConflict_of_listed hquery hrow hread hid hconflict
  have hasked := hasConflict_asks g x
  rw [on_createUnlessConflict]
  rcases h : (hasConflict g).on x with ⟨f | _ | _, y⟩ <;> rw [h] at hfound hasked
  · exact ⟨⟨f, rfl⟩, hasked⟩
  · exact absurd rfl hfound
  · exact ⟨⟨_, rfl⟩, hasked⟩

theorem create_refused {x : Exchange} {g live : Grant} {row : String}
    (hquery : x.script.query = none) (hrow : row ∈ x.server.rows)
    (hread : Row.parse row = .ok (.grant live)) (hid : live.identity = g.identity)
    (hconflict : live.conflictsWith g = true) :
    (∃ f, ((create g).on x).1 = .error f) ∧ Asked x ((create g).on x).2 := by
  rw [create_eq]
  split
  · have hroles := requireRoles_asks x
    rw [Action.on_bind]
    rcases h : requireRoles.on x with ⟨f | known, y⟩ <;> rw [h] at hroles
    · exact ⟨⟨f, rfl⟩, hroles⟩
    · obtain ⟨hfails, hasked⟩ := createUnlessConflict_refused (hroles.query hquery)
        (hroles.server ▸ hrow) hread hid hconflict
      exact ⟨hfails, Asked.trans _ _ _ hroles hasked⟩
  · exact createUnlessConflict_refused hquery hrow hread hid hconflict

/-- A statement that was executed is listed by a server that lists what it executes. -/
theorem execute_listed {x : Exchange} {sql : String} (hecho : x.server.echo = true)
    (h : ((execute sql).on x).1 = .ok ()) : sql ∈ ((execute sql).on x).2.server.rows := by
  rw [on_execute] at h ⊢
  cases hscript : x.script.executes.head?.join with
  | some e => simp [hscript] at h
  | none => simp [Exchange.execute, hscript, Server.afterExecute, hecho]

theorem createUnlessConflict_listed {x : Exchange} {g : Grant} {id : String}
    (hecho : x.server.echo = true) (h : ((createUnlessConflict g).on x).1 = .ok id) :
    g.statement ∈ ((createUnlessConflict g).on x).2.server.rows := by
  have hasked := hasConflict_asks g x
  rw [on_createUnlessConflict] at h ⊢
  rcases hc : (hasConflict g).on x with ⟨f | _ | _, y⟩ <;> rw [hc] at h hasked
  · cases h
  · have hecho' : y.server.echo = true := hasked.server ▸ hecho
    cases he : ((execute g.statement).on y).1 with
    | error f => simp [he, Except.map] at h
    | ok => exact execute_listed hecho' he
  · cases h

theorem create_listed {x : Exchange} {g : Grant} {id : String} (hecho : x.server.echo = true)
    (h : ((create g).on x).1 = .ok id) : g.statement ∈ ((create g).on x).2.server.rows := by
  rw [create_eq] at h ⊢
  split at h
  next hrole =>
    have hroles := requireRoles_asks x
    rw [if_pos hrole]
    rw [Action.on_bind] at h ⊢
    rcases hr : requireRoles.on x with ⟨f | known, y⟩ <;> rw [hr] at h hroles
    · cases h
    · exact createUnlessConflict_listed (hroles.server ▸ hecho) h
  next hrole =>
    rw [if_neg hrole]
    exact createUnlessConflict_listed hecho h

end Reconcile

/-- Grants that only differ in what they cover and in what they require of connections. -/
structure Grant.SameShape (g h : Grant) : Prop where
  identity : g.identity = h.identity
  kind : g.kind = h.kind
  grantOption : g.grantOption = h.grantOption

theorem Grant.SameShape.conflicts {live g g' : Grant} (hlive : live.SameShape g)
    (hsame : g'.SameShape g) (hheld : live.privileges? ≠ some []) :
    live.conflictsWith g' = true := by
  simp [Grant.conflictsWith, hlive.grantOption, hlive.kind, hsame.grantOption, hsame.kind, hheld]

namespace Session

/-- The statement of a grant that a step created is listed from then on. -/
theorem created_listed {steps : List Step} {server : Server} (hecho : server.echo = true)
    (hrows : ∀ step ∈ steps, step.rows = none) {i j : Nat} (hij : i < j) {step : Step}
    (hstep : steps[i]? = some step) {g : Grant} (hcreate : step.request = .ok (.create g))
    {report : Report} (hreport : (run steps server)[i]? = some report)
    (hsuccess : report.result.isOk = true) :
    g.statement ∈ (leaves (steps.take j) server).rows := by
  have hbefore := Server.GoesOn.leaves (steps.take i)
    (fun s hs => hrows s (List.mem_of_mem_take hs)) server
  have hcut : steps.take j = steps.take i ++ step :: (steps.take j).drop (i + 1) := by
    have htake : (steps.take j).take (i + 1) = steps.take i ++ [step] := by
      rw [List.take_take, Nat.min_eq_left hij, List.take_add_one, hstep]
      rfl
    calc steps.take j = (steps.take j).take (i + 1) ++ (steps.take j).drop (i + 1) :=
          (List.take_append_drop _ _).symm
      _ = steps.take i ++ step :: (steps.take j).drop (i + 1) := by rw [htake]; simp
  have hlisted : g.statement ∈ (step.run (leaves (steps.take i) server)).2.rows := by
    rw [run_getElem?, hstep, Option.map_some, Option.some.injEq] at hreport
    subst hreport
    rw [Step.run_of_request hcreate] at hsuccess ⊢
    have hopening : (step.opening (leaves (steps.take i) server)).server.echo = true :=
      hbefore.echo.trans hecho
    simp only [Request.perform, Action.on_map] at hsuccess ⊢
    cases hr : ((Reconcile.create g).on (step.opening (leaves (steps.take i) server))).1 with
    | error f => simp [hr, Except.map, Except.isOk, Except.toBool] at hsuccess
    | ok id => exact Reconcile.create_listed hopening hr
  rw [hcut, leaves_append]
  have hafter := Server.GoesOn.leaves ((steps.take j).drop (i + 1))
    (fun s hs => hrows s (List.mem_of_mem_take (List.mem_of_mem_drop hs)))
    (step.run (leaves (steps.take i) server)).2
  exact hafter.rows.subset hlisted

/-- Once a creation has succeeded and its statement reads back as a grant of its shape that holds
something, every later creation of that shape fails without executing anything. -/
theorem create_refused_after_create {steps : List Step} {server : Server}
    (hecho : server.echo = true) (hrows : ∀ step ∈ steps, step.rows = none) {i j : Nat} (hij : i < j)
    {first later : Step} (hfirst : steps[i]? = some first) (hlater : steps[j]? = some later)
    {g g' live : Grant}
    (hcreate : first.request = .ok (.create g)) (hagain : later.request = .ok (.create g'))
    {report : Report} (hreport : (run steps server)[i]? = some report)
    (hsuccess : report.result.isOk = true)
    (hread : Row.parse g.statement = .ok (.grant live)) (hlive : live.SameShape g)
    (hheld : live.privileges? ≠ some []) (hsame : g'.SameShape g)
    (hquery : later.script.query = none) :
    ∃ refusal, (run steps server)[j]? = some refusal ∧ (∃ f, refusal.result = .error f) ∧
      ∀ a ∈ refusal.attempts, ∀ sql, a.call ≠ .execute sql := by
  have hlisted := created_listed hecho hrows hij hfirst hcreate hreport hsuccess
  have hopening : g.statement ∈ (later.opening (leaves (steps.take j) server)).server.rows := by
    simpa [Step.opening, Server.replace, hrows later (List.mem_of_getElem? hlater)] using hlisted
  obtain ⟨⟨f, hf⟩, hasked⟩ := Reconcile.create_refused (g := g') hquery hopening hread
    (hlive.identity.trans hsame.identity.symm) (hlive.conflicts hsame hheld)
  obtain ⟨more, hmore, hquiet⟩ := hasked.attempts
  refine ⟨_, by rw [run_getElem?, hlater, Option.map_some], ?_, ?_⟩
  · rw [Step.run_of_request hagain]
    exact ⟨f, by simp [Request.perform, Action.on_map, hf, Except.map]⟩
  · rw [Step.run_of_request hagain]
    simp only [Request.perform, Action.on_map]
    rw [hmore]
    simpa [Step.opening] using hquiet

/-- A creation, the deletion of what was created, and a creation of the same shape elsewhere. -/
def createDeleteCreate : List Step :=
  let g : Grant := ⟨.privileges ["SELECT"] (.table "app" "users"), .user "bob" "%", false, ""⟩
  let g' : Grant := { g with entitlement := .privileges ["INSERT"] (.table "shop" "*") }
  [{ request := .ok (.create g) }, { request := .ok (.delete g) }, { request := .ok (.create g') }]

/-- A deletion is listed behind the grant that it takes back, so the last creation is refused. -/
theorem createDeleteCreate_refused :
    ∃ refusal, (run createDeleteCreate ⟨[], "8.0.32", true⟩)[2]? = some refusal ∧
      (∃ f, refusal.result = .error f) ∧ ∀ a ∈ refusal.attempts, ∀ sql, a.call ≠ .execute sql := by
  have hfirst : (run createDeleteCreate ⟨[], "8.0.32", true⟩)[0]?.any (·.result.isOk) = true := by
    decide +kernel
  obtain ⟨report, hreport, hsuccess⟩ := (Option.any_eq_true _ _).mp hfirst
  have hread : Row.parse "GRANT SELECT ON `app`.`users` TO 'bob'@'%'" = .ok (.grant
      ⟨.privileges ["SELECT"] (.table "app" "users"), .user "bob" "%", false, ""⟩) := rfl
  exact create_refused_after_create rfl (by simp [createDeleteCreate]) (by decide : 0 < 2) rfl rfl
    rfl rfl hreport hsuccess hread ⟨rfl, rfl, rfl⟩ (by decide) ⟨rfl, rfl, rfl⟩ rfl

end Session

end AccountGrants
