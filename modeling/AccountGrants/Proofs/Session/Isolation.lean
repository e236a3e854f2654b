import AccountGrants.Proofs.Session.Run
import Mathlib.Data.List.Forall2

/-!
Rows of other identities and partial revokes have no influence. Two sessions with the same requests,
whose given rows list the same grants for the identities acted on, run alike: same results and same
calls. `Session.run_blind_to_others` says so for sessions of any length.
-/

namespace AccountGrants

/-- Readable rows that list the same grants for each of some identities. -/
structure ReadAlike (who : List Identity) (rows rows' : List String) : Prop where
  left : ∀ row ∈ rows, Row.Readable row
  right : ∀ row ∈ rows', Row.Readable row
  grants : ∀ identity ∈ who, grantsOf identity rows = grantsOf identity rows'

/-- Whether a row lists a grant of one of some identities. -/
def concerns (who : List Identity) (row : String) : Bool :=
  who.any fun identity => (grantOf? identity row).isSome

theorem grantsOf_filter_concerns {who : List Identity} {identity : Identity} (h : identity ∈ who)
    (rows : List String) :
    grantsOf identity (rows.filter (concerns who)) = grantsOf identity rows := by
  unfold grantsOf
  rw [List.filterMap_filter]
  congr 1
  funext row
  split
  next => rfl
  next hrow =>
    have hnone : ∀ i ∈ who, grantOf? i row = none := by simpa [concerns] using hrow
    exact (hnone identity h).symm

/-- Rows may come, go and move as long as they concern none of the identities. -/
theorem ReadAlike.of_filter {who : List Identity} {rows rows' : List String}
    (left : ∀ row ∈ rows, Row.Readable row) (right : ∀ row ∈ rows', Row.Readable row)
    (h : rows.filter (concerns who) = rows'.filter (concerns who)) : ReadAlike who rows rows' := by
  refine ⟨left, right, fun identity hmem => ?_⟩
  rw [← grantsOf_filter_concerns hmem rows, h, grantsOf_filter_concerns hmem rows']

/-- Servers that differ at most in rows that read alike. Rows that came later, the statements
executed meanwhile, are the same, whether they can be read or not. -/
structure Server.Alike (who : List Identity) (server server' : Server) : Prop where
  version : server.version = server'.version
  echo : server.echo = server'.echo
  rows : ∃ given given' later, server.rows = given ++ later ∧ server'.rows = given' ++ later ∧
    ReadAlike who given given'

/-- Whether a notice is about a partial revoke. -/
def Notice.isPartialRevoke : Notice → Bool
  | .partialRevoke _ => true
  | _ => false

/-- Notices without those about partial revokes. -/
def withoutRevokes (notices : List Notice) : List Notice :=
  notices.filter fun notice => !notice.isPartialRevoke

/-- Exchanges that differ at most in rows that read alike and in notices about partial revokes. -/
structure Exchange.Alike (who : List Identity) (x y : Exchange) : Prop where
  server : x.server.Alike who y.server
  script : x.script = y.script
  attempts : x.attempts = y.attempts
  notices : withoutRevokes x.notices = withoutRevokes y.notices

theorem withoutRevokes_append (notices more : List Notice) :
    withoutRevokes (notices ++ more) = withoutRevokes notices ++ withoutRevokes more :=
  List.filter_append ..

theorem withoutRevokes_revokeNotices (rows : List String) :
    withoutRevokes (rows.filterMap revokeNotice?) = [] := by
  refine List.filter_eq_nil_iff.mpr fun notice h => ?_
  obtain ⟨row, -, hrow⟩ := List.mem_filterMap.mp h
  unfold revokeNotice? at hrow
  split at hrow
  next => cases hrow; simp [Notice.isPartialRevoke]
  next => cases hrow

theorem Server.Alike.afterExecute {who : List Identity} {server server' : Server}
    (h : server.Alike who server') (sql : String) :
    (server.afterExecute sql).Alike who (server'.afterExecute sql) := by
  unfold Server.afterExecute
  rw [← h.echo]
  split
  · obtain ⟨given, given', later, hrows, hrows', halike⟩ := h.rows
    refine ⟨h.version, rfl, given, given', later ++ [sql], ?_, ?_, halike⟩ <;> simp [hrows, hrows']
  · exact h

namespace Exchange.Alike

variable {who : List Identity} {x y : Exchange}

theorem record (h : Alike who x y) (call : Call) (error : Option DatabaseError) :
    Alike who (x.record call error) (y.record call error) :=
  ⟨h.server, h.script, by simp [Exchange.record, h.attempts], h.notices⟩

theorem notify (h : Alike who x y) {notices notices' : List Notice}
    (hsame : withoutRevokes notices = withoutRevokes notices') :
    Alike who (x.notify notices) (y.notify notices') := by
  refine ⟨h.server, h.script, h.attempts, ?_⟩
  simp only [Exchange.notify, withoutRevokes_append, h.notices, hsame]

theorem query (h : Alike who x y) (sql : String) : Alike who (x.query sql).2 (y.query sql).2 := by
  simp only [Exchange.query, h.script]
  exact ⟨h.server, rfl, (h.record _ _).attempts, h.notices⟩

theorem execute (h : Alike who x y) (sql : String) :
    (Exchange.execute sql x).1 = (Exchange.execute sql y).1 ∧
      Alike who (Exchange.execute sql x).2 (Exchange.execute sql y).2 := by
  simp only [Exchange.execute, h.script]
  refine ⟨trivial, ?_, rfl, (h.record _ _).attempts, h.notices⟩
  split
  · exact h.server.afterExecute sql
  · exact h.server

theorem askRoles (h : Alike who x y) :
    x.askRoles.1 = y.askRoles.1 ∧ Alike who x.askRoles.2 y.askRoles.2 := by
  simp only [Exchange.askRoles, h.script, h.server.version]
  exact ⟨trivial, h.server, rfl, (h.record _ _).attempts, h.notices⟩

end Exchange.Alike

/-- A listing reads on through the given rows, so its outcome is that of the later rows, behind the
same grants. -/
theorem readListing_alike {who : List Identity} {identity : Identity} (hmem : identity ∈ who)
    {server server' : Server} (h : server.Alike who server') :
    (readListing identity server.rows).2 = (readListing identity server'.rows).2 ∧
      withoutRevokes (readListing identity server.rows).1 =
        withoutRevokes (readListing identity server'.rows).1 := by
  obtain ⟨given, given', later, hrows, hrows', halike⟩ := h.rows
  rw [hrows, hrows', readListing_append identity halike.left,
    readListing_append identity halike.right, halike.grants identity hmem]
  simp only [withoutRevokes_append, withoutRevokes_revokeNotices, true_and]

theorem Reconcile.list_agrees {who : List Identity} {identity : Identity} (hmem : identity ∈ who) :
    (list identity).Agrees (Exchange.Alike who) := by
  intro x y h
  rw [on_list, on_list, h.script]
  cases y.script.query with
  | some e => exact ⟨rfl, h.query _⟩
  | none =>
    obtain ⟨hgrants, hnotices⟩ := readListing_alike hmem h.server
    refine ⟨?_, (h.query _).notify hnotices⟩
    simp only [hgrants]

theorem Exchange.Alike.compositional (who : List Identity) :
    Action.Compositional fun m => m.Agrees (Exchange.Alike who) where
  pure := Action.Agrees.pure
  throw := Action.Agrees.throw
  bind := Action.Agrees.bind
  execute sql _ _ h := ⟨congrArg Except.ok (h.execute sql).1, (h.execute sql).2⟩
  askRoles _ _ h := ⟨congrArg Except.ok h.askRoles.1, h.askRoles.2⟩
  notify _ _ _ h := ⟨rfl, h.notify rfl⟩

/-- Reports of the same result and the same calls, and of the same notices but for those about
partial revokes. -/
structure Report.Alike (report report' : Report) : Prop where
  result : report.result = report'.result
  attempts : report.attempts = report'.attempts
  notices : withoutRevokes report.notices = withoutRevokes report'.notices

/-- Steps that differ at most in the rows they put on the server, which read alike. -/
structure Step.Alike (who : List Identity) (step step' : Step) : Prop where
  version : step.version = step'.version
  script : step.script = step'.script
  request : step.request = step'.request
  rows : Option.Rel (ReadAlike who) step.rows step'.rows

theorem Step.Alike.opening {who : List Identity} {step step' : Step} (h : step.Alike who step')
    {server server' : Server} (hserver : server.Alike who server') :
    (step.opening server).Alike who (step'.opening server') := by
  refine ⟨⟨?_, hserver.echo, ?_⟩, h.script, rfl, rfl⟩
  · simp [Step.opening, Server.replace, h.version, hserver.version]
  · simp only [Step.opening, Server.replace]
    have hrows := h.rows
    cases hr : step.rows <;> cases hr' : step'.rows <;> rw [hr, hr'] at hrows
    · simpa using hserver.rows
    · cases hrows
    · cases hrows
    · cases hrows with
      | some hgiven => exact ⟨_, _, [], (List.append_nil _).symm, (List.append_nil _).symm, hgiven⟩

/-- One step keeps servers alike and gives reports alike. -/
theorem Step.Alike.run {who : List Identity} {step step' : Step} (h : step.Alike who step')
    (hwho : ∀ request, step.request = .ok request → request.identity ∈ who)
    {server server' : Server} (hserver : server.Alike who server') :
    (step.run server).1.Alike (step'.run server').1 ∧
      (step.run server).2.Alike who (step'.run server').2 := by
  have hopening := h.opening hserver
  cases hr : step.request with
  | error failure =>
    rw [Step.run_of_failure hr, Step.run_of_failure (h.request ▸ hr)]
    exact ⟨⟨rfl, rfl, rfl⟩, hopening.server⟩
  | ok request =>
    obtain ⟨hresult, hleft⟩ := (Exchange.Alike.compositional who).perform request
      (Reconcile.list_agrees (hwho request hr)) _ _ hopening
    rw [Step.run_of_request hr, Step.run_of_request (h.request ▸ hr)]
    exact ⟨⟨hresult, hleft.attempts, hleft.notices⟩, hleft.server⟩

namespace Session

/-- The identities that the steps of a session act on. -/
def identities (steps : List Step) : List Identity :=
  steps.filterMap fun step => step.request.toOption.map Request.identity

theorem identity_mem_identities {steps : List Step} {step : Step} (hstep : step ∈ steps)
    {request : Request} (h : step.request = .ok request) :
    request.identity ∈ identities steps :=
  List.mem_filterMap.mpr ⟨step, hstep, by simp [h, Except.toOption]⟩

theorem run_alike {who : List Identity} {steps steps' : List Step}
    (h : List.Forall₂ (Step.Alike who) steps steps')
    (hwho : ∀ step ∈ steps, ∀ request, step.request = .ok request → request.identity ∈ who)
    {server server' : Server} (hserver : server.Alike who server') :
    List.Forall₂ Report.Alike (run steps server) (run steps' server') := by
  induction h generalizing server server' with
  | nil => exact .nil
  | cons hstep hsteps ih =>
    obtain ⟨hreport, hleft⟩ := hstep.run (hwho _ List.mem_cons_self) hserver
    exact .cons hreport (ih (fun later hm => hwho later (List.mem_cons_of_mem _ hm)) hleft)

/-- Sessions with the same requests run alike if the rows given to them are readable and list the
same grants for the identities acted on. So it makes no difference which partial revokes and rows
of other identities a server starts with, nor where these stand. -/
theorem run_blind_to_others (steps : List Step) :
    (∀ (steps' : List Step) (server server' : Server),
      List.Forall₂ (Step.Alike (identities steps)) steps steps' →
      server.version = server'.version → server.echo = server'.echo →
      ReadAlike (identities steps) server.rows server'.rows →
      List.Forall₂ Report.Alike (run steps server) (run steps' server')) ∧
    ∀ (server : Server) (rows : List String),
      (∀ row ∈ server.rows, Row.Readable row) → (∀ row ∈ rows, Row.Readable row) →
      (∀ step ∈ steps, ∀ given, step.rows = some given → ∀ row ∈ given, Row.Readable row) →
      server.rows.filter (concerns (identities steps)) = rows.filter (concerns (identities steps)) →
      List.Forall₂ Report.Alike (run steps server) (run steps { server with rows }) := by
  have hwho : ∀ step ∈ steps, ∀ request, step.request = .ok request →
      request.identity ∈ identities steps :=
    fun _ hstep _ h => identity_mem_identities hstep h
  have hgiven : ∀ {rows rows' : List String}, ReadAlike (identities steps) rows rows' →
      ∃ given given' later, rows = given ++ later ∧ rows' = given' ++ later ∧
        ReadAlike (identities steps) given given' :=
    fun h => ⟨_, _, [], (List.append_nil _).symm, (List.append_nil _).symm, h⟩
  constructor
  · intro steps' server server' hsteps hversion hecho hrows
    exact run_alike hsteps hwho ⟨hversion, hecho, hgiven hrows⟩
  · intro server rows left right given hfilter
    have hsame : List.Forall₂ (Step.Alike (identities steps)) steps steps := by
      refine List.forall₂_same.mpr fun step hstep => ⟨rfl, rfl, rfl, ?_⟩
      cases hr : step.rows with
      | none => exact .none
      | some new => exact .some ⟨given step hstep new hr, given step hstep new hr, fun _ _ => rfl⟩
    exact run_alike hsame hwho ⟨rfl, rfl, hgiven (.of_filter left right hfilter)⟩

/-- A creation for bob from anywhere, and a look at what bob then holds. -/
def createThenRead : List Step :=
  let g : Grant := ⟨.privileges ["SELECT"] (.table "app" "users"), .user "bob" "%", false, ""⟩
  [{ request := .ok (.create g) }, { request := .ok (.read g) }]

/-- A partial revoke of bob's, and a grant to bob at another host. -/
def rowsBesideBob : List String :=
  ["REVOKE INSERT ON `mysql`.* FROM `bob`@`%`", "GRANT SELECT ON `app`.* TO `bob`@`localhost`"]

theorem readable_rowsBesideBob : ∀ row ∈ rowsBesideBob, Row.Readable row := by
  simp only [rowsBesideBob, List.forall_mem_cons]
  refine ⟨⟨.partialRevoke, rfl⟩, ⟨.grant ⟨.privileges ["SELECT"] (.table "app" "*"),
    .user "bob" "localhost", false, ""⟩, rfl⟩, by simp⟩

theorem createThenRead_blind_to_rowsBesideBob :
    List.Forall₂ Report.Alike (run createThenRead ⟨[], "8.0.32", true⟩)
      (run createThenRead ⟨rowsBesideBob, "8.0.32", true⟩) :=
  (run_blind_to_others createThenRead).2 ⟨[], "8.0.32", true⟩ rowsBesideBob (by simp)
    readable_rowsBesideBob (by simp [createThenRead]) (by decide +kernel)

end Session

end AccountGrants
