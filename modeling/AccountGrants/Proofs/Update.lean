import AccountGrants.Proofs.PrivilegeChange
import AccountGrants.Proofs.Reconcile
import Mathlib.Data.Set.Basic

/-!
Updates. What an identity holds on an object is a set of privileges. The revocation that an update
executes takes its privileges out of that set, and the statement of the grant puts the grant's into
it. `Reconcile.update_converges` says that an update ends at the new privileges and makes no call
beyond these two.
-/

namespace AccountGrants

/-- The attempts at a statement that is executed where it is wanted. -/
inductive ExecutesIf (wanted : Prop) (sql : String) : List Attempt → Prop
  | idle (h : ¬wanted) : ExecutesIf wanted sql []
  | executed (h : wanted) (error : Option DatabaseError) :
      ExecutesIf wanted sql [⟨.execute sql, error⟩]

namespace ExecutesIf

variable {wanted : Prop} {sql : String} {made : List Attempt}

theorem calls_sublist (h : ExecutesIf wanted sql made) :
    (made.map (·.call)).Sublist [.execute sql] := by
  cases h <;> simp

theorem call_of_mem (h : ExecutesIf wanted sql made) {a : Attempt} (ha : a ∈ made) :
    a.call = .execute sql := by
  cases h with
  | idle h => cases ha
  | executed h error => rw [List.mem_singleton.mp ha]

theorem eq_nil_iff (h : ExecutesIf wanted sql made) : made = [] ↔ ¬wanted := by
  cases h with
  | idle h => simpa using h
  | executed h error => simpa using h

end ExecutesIf

/-- All of these calls were answered. -/
def Answered (made : List Attempt) : Prop :=
  ∀ a ∈ made, a.error = none

/-- What is held once some calls have been made, where `effect` says what a statement does. A
statement that fails does nothing. -/
def heldAfter (effect : String → Set String → Set String) (held : Set String) :
    List Attempt → Set String
  | [] => held
  | ⟨.execute sql, none⟩ :: made => heldAfter effect (effect sql held) made
  | _ :: made => heldAfter effect held made

namespace Reconcile

/-- Executes a statement where it is wanted. -/
def executeIf (wanted : Bool) (sql : String) : Action Unit :=
  if wanted then execute sql else pure ()

theorem on_executeIf (wanted : Bool) (sql : String) (x : Exchange) :
    ∃ made, ((executeIf wanted sql).on x).2.attempts = x.attempts ++ made ∧
      ExecutesIf (wanted = true) sql made ∧
      (((executeIf wanted sql).on x).1 = .ok () ∧ Answered made ∨
        (∃ f, ((executeIf wanted sql).on x).1 = .error f) ∧ ¬Answered made) := by
  unfold executeIf
  cases wanted with
  | false =>
    refine ⟨[], by simp, .idle Bool.false_ne_true, Or.inl ⟨rfl, by simp [Answered]⟩⟩
  | true =>
    refine ⟨[⟨.execute sql, x.script.executes.head?.join⟩], ?_, .executed rfl _, ?_⟩
    · rw [if_pos rfl, on_execute]
      rfl
    · rw [if_pos rfl, on_execute]
      cases x.script.executes.head?.join with
      | none => exact Or.inl ⟨rfl, by simp [Answered]⟩
      | some e => exact Or.inr ⟨⟨_, rfl⟩, by simp [Answered]⟩

section Update

variable {g : Grant} {tokens : List String} {object : Object}

/-- The statement by which an update takes privileges back. -/
def revokeRemoved (g : Grant) (object : Object) (change : PrivilegeChange) : String :=
  Grant.revokePrivileges change.removed object g.identity g.grantOption

theorem update_eq (hg : g.entitlement = .privileges tokens object) (old new : List String) :
    update g old new = do
      let change := PrivilegeChange.between old new
      executeIf (!change.removed.isEmpty) (revokeRemoved g object change)
      executeIf (!change.added.isEmpty) g.statement
      return change := by
  have hkind : g.kind ≠ .role := by
    unfold Grant.kind
    rw [hg]
    cases object <;> simp
  have hrevoke : ∀ change : PrivilegeChange,
      g.partialRevocation change.removed = .ok (revokeRemoved g object change) := by
    intro change
    rw [Grant.partialRevocation, hg]
    rfl
  unfold update executeIf
  rw [if_neg hkind]
  dsimp only
  rw [hrevoke]
  cases !(PrivilegeChange.between old new).removed.isEmpty <;>
    cases !(PrivilegeChange.between old new).added.isEmpty <;> rfl

/-- An update tries the revocation, and the statement of the grant unless the revocation failed. -/
theorem update_attempts (hg : g.entitlement = .privileges tokens object) (old new : List String)
    (x : Exchange) :
    ∃ revoked granted,
      ExecutesIf ((PrivilegeChange.between old new).removed ≠ [])
        (revokeRemoved g object (PrivilegeChange.between old new)) revoked ∧
      ExecutesIf ((PrivilegeChange.between old new).added ≠ []) g.statement granted ∧
      (Answered revoked ∧
          ((update g old new).on x).2.attempts = x.attempts ++ (revoked ++ granted) ∧
          (Answered granted →
            ((update g old new).on x).1 = .ok (PrivilegeChange.between old new)) ∨
        ¬Answered revoked ∧ ((update g old new).on x).2.attempts = x.attempts ++ revoked) := by
  have hwanted : ∀ tokens : List String, ((!tokens.isEmpty) = true) = (tokens ≠ []) := by
    intro tokens
    cases tokens <;> simp
  rw [update_eq hg]
  dsimp only
  generalize PrivilegeChange.between old new = change
  obtain ⟨revoked, hrevoked, hfirst, hrevoke⟩ :=
    on_executeIf (!change.removed.isEmpty) (revokeRemoved g object change) x
  rw [hwanted] at hfirst
  rw [Action.on_bind]
  generalize (executeIf (!change.removed.isEmpty) (revokeRemoved g object change)).on x = outcome
    at hrevoked hrevoke ⊢
  obtain ⟨result, y⟩ := outcome
  dsimp only at hrevoked hrevoke
  obtain ⟨granted, hgranted, hsecond, hgrant⟩ :=
    on_executeIf (!change.added.isEmpty) g.statement y
  rw [hwanted] at hsecond
  refine ⟨revoked, granted, hfirst, hsecond, ?_⟩
  rcases hrevoke with ⟨rfl, hanswered⟩ | ⟨⟨f, rfl⟩, hunanswered⟩
  · refine Or.inl ⟨hanswered, ?_⟩
    dsimp only
    rw [Action.on_bind, ← List.append_assoc, ← hrevoked, ← hgranted]
    generalize (executeIf (!change.added.isEmpty) g.statement).on y = outcome at hgrant ⊢
    obtain ⟨f | _, z⟩ := outcome
    · refine ⟨rfl, fun hall => ?_⟩
      rcases hgrant with ⟨hdone, -⟩ | ⟨-, hunanswered⟩
      · cases hdone
      · exact absurd hall hunanswered
    · exact ⟨rfl, fun _ => rfl⟩
  · exact Or.inr ⟨hunanswered, hrevoked⟩

/-- The tokens of a list in canonical form, as a set. -/
def canonicalSet (privileges : List String) : Set String :=
  {token | token ∈ Privilege.canonicalize privileges}

/-- Taking away what is gone leaves what is kept. -/
theorem diff_removed (old new : List String) :
    canonicalSet old \ {token | token ∈ (PrivilegeChange.between old new).removed} =
      canonicalSet old ∩ canonicalSet new := by
  ext token
  simp only [canonicalSet, PrivilegeChange.between, PrivilegeChange.mem_missing, Set.mem_sdiff,
    Set.mem_inter_iff, Set.mem_ofPred_eq]
  constructor
  · rintro ⟨hold, hkept⟩
    refine ⟨hold, ?_⟩
    by_contra hgone
    exact hkept ⟨hold, hgone⟩
  · rintro ⟨hold, hwanted⟩
    exact ⟨hold, fun hgone => hgone.2 hwanted⟩

theorem added_eq_nil {old new : List String} :
    (PrivilegeChange.between old new).added = [] ↔ canonicalSet new ⊆ canonicalSet old :=
  PrivilegeChange.missing_eq_nil

theorem removed_eq_nil {old new : List String} :
    (PrivilegeChange.between old new).removed = [] ↔ canonicalSet old ⊆ canonicalSet new :=
  PrivilegeChange.missing_eq_nil

/-- The calls of an update that were all answered lead to the new privileges. -/
theorem heldAfter_update {effect : String → Set String → Set String} {old new : List String}
    (hnew : {token | token ∈ tokens} = canonicalSet new)
    (hrevoke : ∀ held, effect (revokeRemoved g object (PrivilegeChange.between old new)) held =
      held \ {token | token ∈ (PrivilegeChange.between old new).removed})
    (hgrant : ∀ held, effect g.statement held = held ∪ {token | token ∈ tokens})
    {revoked granted : List Attempt}
    (hrevoked : ExecutesIf ((PrivilegeChange.between old new).removed ≠ [])
      (revokeRemoved g object (PrivilegeChange.between old new)) revoked)
    (hgranted : ExecutesIf ((PrivilegeChange.between old new).added ≠ []) g.statement granted)
    (hanswered : Answered (revoked ++ granted)) :
    heldAfter effect (canonicalSet old) (revoked ++ granted) = canonicalSet new := by
  have hkept : heldAfter effect (canonicalSet old) (revoked ++ granted) =
      heldAfter effect (canonicalSet old ∩ canonicalSet new) granted := by
    cases hrevoked with
    | idle h =>
      rw [Set.inter_eq_left.mpr (removed_eq_nil.mp (not_not.mp h))]
      rfl
    | executed h error =>
      obtain rfl : error = none := hanswered _ List.mem_cons_self
      rw [List.singleton_append, heldAfter, hrevoke, diff_removed]
  rw [hkept]
  cases hgranted with
  | idle h => exact Set.inter_eq_right.mpr (added_eq_nil.mp (not_not.mp h))
  | executed h error =>
    obtain rfl : error = none := hanswered _ (List.mem_append_right revoked List.mem_cons_self)
    rw [heldAfter, heldAfter, hgrant, hnew]
    exact Set.union_eq_right.mpr Set.inter_subset_right

theorem revokeRemoved_ne_statement (g : Grant) (object : Object) (change : PrivilegeChange) :
    revokeRemoved g object change ≠ g.statement := by
  intro h
  have hhead := congrArg (fun sql => sql.toList.head?) h
  simp [revokeRemoved, Grant.revokePrivileges, Grant.statement] at hhead

/-- On a server that takes away what a revocation lists and adds what a grant holds, an update of a
grant that holds the new privileges ends at them. It executes the revocation and the statement of
the grant at most, in this order, the first with no token that is still wanted and the second only
if the first did not fail; and it makes no call exactly if nothing changes. -/
theorem update_converges (hg : g.entitlement = .privileges tokens object) {old new : List String}
    (hnew : {token | token ∈ tokens} = canonicalSet new)
    {effect : String → Set String → Set String}
    (hrevoke : ∀ held, effect (revokeRemoved g object (PrivilegeChange.between old new)) held =
      held \ {token | token ∈ (PrivilegeChange.between old new).removed})
    (hgrant : ∀ held, effect g.statement held = held ∪ {token | token ∈ tokens})
    (x : Exchange) :
    ∃ made, ((update g old new).on x).2.attempts = x.attempts ++ made ∧
      (made.map (·.call)).Sublist
        [.execute (revokeRemoved g object (PrivilegeChange.between old new)),
          .execute g.statement] ∧
      (∀ token ∈ (PrivilegeChange.between old new).removed,
        token ∉ Privilege.canonicalize new) ∧
      (made = [] ↔ canonicalSet old = canonicalSet new) ∧
      (Answered made → ((update g old new).on x).1 = .ok (PrivilegeChange.between old new) ∧
        heldAfter effect (canonicalSet old) made = canonicalSet new) ∧
      ∀ e, ⟨.execute (revokeRemoved g object (PrivilegeChange.between old new)), some e⟩ ∈ made →
        .execute g.statement ∉ made.map (·.call) := by
  obtain ⟨revoked, granted, hrevoked, hgranted, hcourse⟩ := update_attempts hg old new x
  have hdistinct := revokeRemoved_ne_statement g object (PrivilegeChange.between old new)
  have hwanted : ∀ token ∈ (PrivilegeChange.between old new).removed,
      token ∉ Privilege.canonicalize new :=
    fun token htoken => (PrivilegeChange.mem_missing.mp htoken).2
  have hrevokedNil : revoked = [] ↔ canonicalSet old ⊆ canonicalSet new := by
    rw [hrevoked.eq_nil_iff, not_not, removed_eq_nil]
  have hgrantedNil : granted = [] ↔ canonicalSet new ⊆ canonicalSet old := by
    rw [hgranted.eq_nil_iff, not_not, added_eq_nil]
  rcases hcourse with ⟨hanswered, hmade, hdone⟩ | ⟨hunanswered, hmade⟩
  · refine ⟨revoked ++ granted, hmade, ?_, hwanted, ?_, ?_, ?_⟩
    · rw [List.map_append]
      exact hrevoked.calls_sublist.append hgranted.calls_sublist
    · rw [List.append_eq_nil_iff, hrevokedNil, hgrantedNil, Set.Subset.antisymm_iff]
    · intro hall
      exact ⟨hdone fun a ha => hall a (List.mem_append_right revoked ha),
        heldAfter_update hnew hrevoke hgrant hrevoked hgranted hall⟩
    · intro e he
      rcases List.mem_append.mp he with he | he
      · cases hanswered _ he
      · exact absurd (Call.execute.inj (hgranted.call_of_mem he)) hdistinct
  · have hne : revoked ≠ [] := by
      rintro rfl
      exact hunanswered (by simp [Answered])
    refine ⟨revoked, hmade, hrevoked.calls_sublist.trans (by simp), hwanted, ?_, ?_, ?_⟩
    · refine ⟨fun hnil => absurd hnil hne, fun hsame => ?_⟩
      exact hrevokedNil.mpr hsame.subset
    · exact fun hall => absurd hall hunanswered
    · intro e _ hcall
      obtain ⟨a, ha, hstatement⟩ := List.mem_map.mp hcall
      rw [hrevoked.call_of_mem ha] at hstatement
      exact hdistinct (Call.execute.inj hstatement)

end Update

/-- A grant that takes the place of one with other privileges. -/
def ordersGrant : Grant where
  entitlement := .privileges ["SELECT", "UPDATE"] (.table "app" "orders")
  identity := .user "bob" "%"
  grantOption := false
  tlsOption := ""

/-- What the statements of an update to `ordersGrant` do on a server. -/
def ordersEffect (sql : String) (held : Set String) : Set String :=
  if sql = "REVOKE INSERT ON `app`.`orders` FROM 'bob'@'%'" then held \ {"INSERT"}
  else if sql = "GRANT SELECT, UPDATE ON `app`.`orders` TO 'bob'@'%'" then
    held ∪ {"SELECT", "UPDATE"}
  else held

/-- The calls of an update of `ordersGrant` that no failure meets. -/
def ordersCalls : List Attempt :=
  [⟨.execute "REVOKE INSERT ON `app`.`orders` FROM 'bob'@'%'", none⟩,
    ⟨.execute "GRANT SELECT, UPDATE ON `app`.`orders` TO 'bob'@'%'", none⟩]

theorem ordersGrant_update_converges :
    ((update ordersGrant ["select", "Insert"] ["UPDATE", "usage", "SELECT"]).on
        { server := ⟨[], "8.0.32", true⟩, script := {} }).2.attempts = ordersCalls ∧
      heldAfter ordersEffect (canonicalSet ["select", "Insert"]) ordersCalls =
        canonicalSet ["UPDATE", "usage", "SELECT"] := by
  have hnew : {token | token ∈ ["SELECT", "UPDATE"]} =
      canonicalSet ["UPDATE", "usage", "SELECT"] := by
    ext token
    change token ∈ ["SELECT", "UPDATE"] ↔ token ∈ ["UPDATE", "SELECT"]
    simp [or_comm]
  have hrevoke : ∀ held, ordersEffect (revokeRemoved ordersGrant (.table "app" "orders")
      (PrivilegeChange.between ["select", "Insert"] ["UPDATE", "usage", "SELECT"])) held =
      held \ {token | token ∈ (PrivilegeChange.between ["select", "Insert"]
        ["UPDATE", "usage", "SELECT"]).removed} := by
    intro held
    change held \ {"INSERT"} = held \ {token | token ∈ ["INSERT"]}
    simp only [List.mem_singleton]
    rfl
  have hgrant : ∀ held, ordersEffect ordersGrant.statement held =
      held ∪ {token | token ∈ ["SELECT", "UPDATE"]} := by
    intro held
    change held ∪ {"SELECT", "UPDATE"} = held ∪ {token | token ∈ ["SELECT", "UPDATE"]}
    simp only [List.mem_cons, List.not_mem_nil, or_false]
    rfl
  have hcalls : ((update ordersGrant ["select", "Insert"] ["UPDATE", "usage", "SELECT"]).on
      { server := ⟨[], "8.0.32", true⟩, script := {} }).2.attempts = ordersCalls := rfl
  obtain ⟨made, hmade, -, -, -, hreached, -⟩ := update_converges (g := ordersGrant) rfl hnew
    hrevoke hgrant { server := ⟨[], "8.0.32", true⟩, script := {} }
  rw [hcalls, List.nil_append] at hmade
  subst hmade
  exact ⟨hcalls, (hreached (by simp [Answered, ordersCalls])).2⟩

end Reconcile

end AccountGrants
