import AccountGrants.Proofs.Reconcile

/-!
What all requests have in common. A request is put together from a listing of one identity and
from the calls that execute statements, ask about roles and give notices, so what holds of these
and passes through sequences holds of every request.
-/

namespace AccountGrants

/-- The identity that a request acts on. -/
def Request.identity : Request → Identity
  | .list identity => identity
  | .hasConflict g => g.identity
  | .create g => g.identity
  | .read g => g.identity
  | .update g _ _ => g.identity
  | .delete g => g.identity
  | .find id => id.identity
  | .importGrant id => id.identity

/-- A problem that the server has no part in. -/
def Problem.IsRefusal : Problem → Prop
  | .execution .. => False
  | .database _ => False
  | _ => True

theorem Grant.isRefusal_of_partialRevocation {g : Grant} {tokens : List String} {problem : Problem}
    (h : g.partialRevocation tokens = .error problem) : problem.IsRefusal := by
  unfold Grant.partialRevocation at h
  split at h
  next => cases h
  next =>
    cases h
    trivial

/-- A property of actions that passes through sequences, and holds of refusals and of the steps that
requests are made of, listings and deletions apart. -/
structure Action.Stepwise (P : {α : Type} → Action α → Prop) : Prop where
  pure : ∀ {α : Type} (a : α), P (Pure.pure a : Action α)
  refuse : ∀ {α : Type} (f : Failure), f.problem.IsRefusal → P (MonadExcept.throw f : Action α)
  bind : ∀ {α β : Type} {m : Action α} {f : α → Action β}, P m → (∀ a, P (f a)) → P (m >>= f)
  notify : ∀ notices, P (modify (Exchange.notify notices) : Action PUnit)
  execute : ∀ sql, P (Reconcile.execute sql)
  requireRoles : P Reconcile.requireRoles

namespace Action.Stepwise

variable {P : {α : Type} → Action α → Prop}

theorem map (h : Stepwise P) {α β : Type} {m : Action α} (hm : P m) (f : α → β) : P (f <$> m) := by
  rw [map_eq_pure_bind]
  exact h.bind hm fun a => h.pure (f a)

theorem hasConflict (h : Stepwise P) {g : Grant} (hlist : P (Reconcile.list g.identity)) :
    P (Reconcile.hasConflict g) :=
  h.bind hlist fun _ => h.pure _

theorem create (h : Stepwise P) {g : Grant} (hlist : P (Reconcile.list g.identity)) :
    P (Reconcile.create g) := by
  have hunless : P (Reconcile.createUnlessConflict g) := by
    refine h.bind (h.hasConflict hlist) fun conflict => ?_
    have hexecute := h.bind (h.execute g.statement) fun _ => h.pure g.identifier
    cases conflict with
    | false => exact hexecute
    | true => exact h.bind (h.refuse _ trivial) fun _ => hexecute
  rw [Reconcile.create_eq]
  exact iteInduction (fun _ => h.bind h.requireRoles fun _ => hunless) fun _ => hunless

theorem read (h : Stepwise P) {g : Grant} (hlist : P (Reconcile.list g.identity)) :
    P (Reconcile.read g) := by
  refine h.bind hlist fun live => ?_
  split
  · exact h.bind (h.notify _) fun _ => h.pure _
  · exact h.pure _

theorem update (h : Stepwise P) (g : Grant) (old new : List String) :
    P (Reconcile.update g old new) := by
  have hgrant : P (do
      if !(PrivilegeChange.between old new).added.isEmpty then Reconcile.execute g.statement
      return PrivilegeChange.between old new) :=
    iteInduction (fun _ => h.bind (h.execute _) fun _ => h.pure _) fun _ => h.pure _
  unfold Reconcile.update
  refine iteInduction (fun _ => h.bind (h.refuse _ trivial) fun _ => ?_) fun _ => ?_
  all_goals
    refine iteInduction (fun _ => ?_) fun _ => hgrant
    cases hrevoke : g.partialRevocation (PrivilegeChange.between old new).removed with
    | ok sql => exact h.bind (h.execute sql) fun _ => hgrant
    | error problem =>
      have hrefusal := Grant.isRefusal_of_partialRevocation hrevoke
      exact h.bind (h.refuse ⟨problem, none⟩ hrefusal) fun _ => hgrant

theorem find (h : Stepwise P) {id : ImportId} (hlist : P (Reconcile.list id.identity)) :
    P (Reconcile.find id) :=
  h.bind hlist fun _ => h.pure _

/-- One case for each request. Updates and deletions list nothing. -/
theorem perform (h : Stepwise P) (request : Request)
    (hlist : P (Reconcile.list request.identity))
    (hdelete : ∀ g, request = .delete g → P (Reconcile.delete g)) : P request.perform := by
  cases request with
  | list identity => exact h.map hlist _
  | hasConflict g => exact h.map (h.hasConflict hlist) _
  | create g => exact h.map (h.create hlist) _
  | read g => exact h.map (h.read hlist) _
  | update g old new => exact h.map (h.update g old new) _
  | delete g => exact h.map (hdelete g rfl) _
  | find id => exact h.map (h.find hlist) _
  | importGrant id => exact h.map (h.bind (h.find hlist) fun _ => h.pure _) _

end Action.Stepwise

/-- A property of actions that passes through sequences and holds of every call but queries. -/
structure Action.Compositional (P : {α : Type} → Action α → Prop) : Prop where
  pure : ∀ {α : Type} (a : α), P (Pure.pure a : Action α)
  throw : ∀ {α : Type} (f : Failure), P (MonadExcept.throw f : Action α)
  bind : ∀ {α β : Type} {m : Action α} {f : α → Action β}, P m → (∀ a, P (f a)) → P (m >>= f)
  execute : ∀ sql, P (modifyGet (Exchange.execute sql) : Action (Except DatabaseError Unit))
  askRoles : P (modifyGet Exchange.askRoles : Action (Except DatabaseError Bool))
  notify : ∀ notices, P (modify (Exchange.notify notices) : Action PUnit)

namespace Action.Compositional

variable {P : {α : Type} → Action α → Prop}

theorem reconcile_execute (h : Compositional P) (sql : String) : P (Reconcile.execute sql) := by
  refine h.bind (h.execute sql) fun answer => ?_
  cases answer with
  | ok => exact h.pure ()
  | error e => exact h.throw _

theorem requireRoles (h : Compositional P) : P Reconcile.requireRoles := by
  refine h.bind h.askRoles fun answer => ?_
  cases answer with
  | ok known =>
    cases known with
    | false => exact h.throw _
    | true => exact h.pure ()
  | error e => exact h.throw _

theorem stepwise (h : Compositional P) : Stepwise P where
  pure := h.pure
  refuse f _ := h.throw f
  bind := h.bind
  notify := h.notify
  execute := h.reconcile_execute
  requireRoles := h.requireRoles

theorem delete (h : Compositional P) (g : Grant) : P (Reconcile.delete g) := by
  refine h.bind (h.execute _) fun answer => ?_
  cases answer with
  | ok => exact h.pure ()
  | error e =>
    dsimp only
    split
    · exact h.notify _
    · exact h.throw _

theorem perform (h : Compositional P) (request : Request)
    (hlist : P (Reconcile.list request.identity)) : P request.perform :=
  h.stepwise.perform request hlist fun g _ => h.delete g

end Action.Compositional

end AccountGrants
