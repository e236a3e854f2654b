import AccountGrants.Proofs.Privilege.Canonical
import AccountGrants.Proofs.Update
import Mathlib.Order.BooleanAlgebra.Set

/-!
The rights behind privileges. A privilege reaches over the rights it covers, and two privileges that
differ may cover the same right: all privileges cover every right, and a privilege without columns
covers those with columns. An update compares privileges by their spelling. So a revocation may take
a right that is still wanted, and only an update that grants something puts it back:
`Reconcile.update_keeps_rights_iff`.
-/

namespace AccountGrants

/-- What a privilege of one name allows on one column. -/
structure Right where
  privilege : String
  column : String
deriving DecidableEq

/-- How far a token reaches, in names and in columns, where `none` means no limit. -/
structure Reach where
  privilege : Option String
  columns : Option (List String)
deriving DecidableEq

namespace Reach

open Privilege

/-- A token with columns reaches over these, one without over every column. -/
def ofToken (token : String) : Reach :=
  if token = allPrivileges then ⟨none, none⟩
  else
    match columnList? (bare token.toList) with
    | some (name, columns) =>
      ⟨some (String.ofList name), some ((columns.splitOn ',').map String.ofList)⟩
    | none => ⟨some token, none⟩

/-- The rights within both limits. -/
def rights (r : Reach) : Set Right :=
  {right | (∀ name ∈ r.privilege, right.privilege = name) ∧
    ∀ columns ∈ r.columns, right.column ∈ columns}

/-- Whether there is a name within both limits. -/
def namesMeet : Option String → Option String → Bool
  | some p, some q => p == q
  | _, _ => true

/-- Whether there is a column within both limits. -/
def columnsMeet : Option (List String) → Option (List String) → Bool
  | some xs, some ys => xs.any ys.contains
  | some xs, none => !xs.isEmpty
  | none, some ys => !ys.isEmpty
  | none, none => true

/-- Whether two reaches have a right in common. -/
def meets (a b : Reach) : Bool :=
  namesMeet a.privilege b.privilege && columnsMeet a.columns b.columns

theorem namesMeet_iff {p q : Option String} : namesMeet p q = true ↔
    ∃ name, (∀ limit ∈ p, name = limit) ∧ ∀ limit ∈ q, name = limit := by
  cases p with
  | none =>
    cases q with
    | none => simp [namesMeet]
    | some q => simp [namesMeet]
  | some p =>
    cases q with
    | none => simp [namesMeet]
    | some q => simp [namesMeet]

theorem columnsMeet_iff {p q : Option (List String)} : columnsMeet p q = true ↔
    ∃ column, (∀ limit ∈ p, column ∈ limit) ∧ ∀ limit ∈ q, column ∈ limit := by
  cases p with
  | none =>
    cases q with
    | none => simp [columnsMeet]
    | some ys => simpa [columnsMeet] using @List.isEmpty_eq_false_iff_exists_mem _ ys
  | some xs =>
    cases q with
    | none => simpa [columnsMeet] using @List.isEmpty_eq_false_iff_exists_mem _ xs
    | some ys => simp [columnsMeet]

theorem meets_iff {a b : Reach} :
    a.meets b = true ↔ ∃ right, right ∈ a.rights ∧ right ∈ b.rights := by
  rw [meets, Bool.and_eq_true, namesMeet_iff, columnsMeet_iff]
  constructor
  · rintro ⟨⟨name, hfirst, hsecond⟩, column, hleft, hright⟩
    exact ⟨⟨name, column⟩, ⟨hfirst, hleft⟩, hsecond, hright⟩
  · rintro ⟨right, ⟨hfirst, hleft⟩, hsecond, hright⟩
    exact ⟨⟨right.privilege, hfirst, hsecond⟩, right.column, hleft, hright⟩

example : (ofToken "SELECT(a, b)").meets (ofToken "SELECT(b, c)") = true := by decide +kernel

end Reach

/-- The rights that a list of tokens covers. -/
def covered (tokens : List String) : Set Right :=
  {right | ∃ token ∈ tokens, right ∈ (Reach.ofToken token).rights}

theorem covered_mono {xs ys : List String} (h : ∀ token ∈ xs, token ∈ ys) :
    covered xs ⊆ covered ys :=
  fun _ ⟨token, htoken, hright⟩ => ⟨token, h token htoken, hright⟩

theorem covered_nil : covered [] = ∅ := by
  ext right
  simp [covered]

/-- Lists share no right exactly if none of their tokens meet. -/
theorem not_mem_covered {xs ys : List String} :
    (∀ ⦃right⦄, right ∈ covered xs → right ∉ covered ys) ↔
      ∀ x ∈ xs, ∀ y ∈ ys, (Reach.ofToken x).meets (Reach.ofToken y) = false := by
  constructor
  · intro h x hx y hy
    refine Bool.eq_false_iff.mpr fun hmeets => ?_
    obtain ⟨right, hleft, hright⟩ := Reach.meets_iff.mp hmeets
    exact h ⟨x, hx, hleft⟩ ⟨y, hy, hright⟩
  · rintro h right ⟨x, hx, hleft⟩ ⟨y, hy, hright⟩
    have hmeets := Reach.meets_iff.mpr ⟨right, hleft, hright⟩
    rw [h x hx y hy] at hmeets
    cases hmeets

/-- The statements among some calls that the server executed. -/
def executed (made : List Attempt) : List String :=
  made.filterMap fun
    | ⟨.execute sql, none⟩ => some sql
    | _ => none

/-- The rights that are held once some calls have been made, where `effect` says what a statement
does. -/
def rightsAfter (effect : String → Set Right → Set Right) (held : Set Right)
    (made : List Attempt) : Set Right :=
  (executed made).foldl (fun held sql => effect sql held) held

section RightsAfter

variable (effect : String → Set Right → Set Right) (held : Set Right)

theorem rightsAfter_append (xs ys : List Attempt) :
    rightsAfter effect held (xs ++ ys) = rightsAfter effect (rightsAfter effect held xs) ys := by
  rw [rightsAfter, executed, List.filterMap_append, List.foldl_append]
  rfl

theorem rightsAfter_executeIf (wanted : Bool) (sql : String) :
    rightsAfter effect held (if wanted then [⟨.execute sql, none⟩] else []) =
      if wanted then effect sql held else held := by
  cases wanted <;> rfl

end RightsAfter

namespace Reconcile

variable {g : Grant} {tokens old new : List String} {object : Object} {x : Exchange}

theorem attempts_of_executeIf_ok (wanted : Bool) (sql : String)
    (h : ((executeIf wanted sql).on x).1 = .ok ()) :
    ((executeIf wanted sql).on x).2.attempts =
      x.attempts ++ if wanted then [⟨.execute sql, none⟩] else [] := by
  cases wanted with
  | false => simp [executeIf]
  | true =>
    rw [executeIf, if_pos rfl, on_execute] at h ⊢
    cases he : x.script.executes.head?.join with
    | none => simp [Exchange.execute, Exchange.record, he]
    | some e => simp [he] at h

/-- An update that succeeds has executed the revocation if anything is removed, and then the
statement of the grant if anything is added. -/
theorem attempts_of_update_ok (hg : g.entitlement = .privileges tokens object)
    {change : PrivilegeChange} (h : ((update g old new).on x).1 = .ok change) :
    change = PrivilegeChange.between old new ∧
      ((update g old new).on x).2.attempts = x.attempts ++
        ((if !change.removed.isEmpty then [⟨.execute (revokeRemoved g object change), none⟩]
            else []) ++
          if !change.added.isEmpty then [⟨.execute g.statement, none⟩] else []) := by
  rw [update_eq hg] at h ⊢
  dsimp only at h ⊢
  generalize hchange : PrivilegeChange.between old new = wanted at h ⊢
  rw [Action.on_bind] at h ⊢
  have hrevoked := attempts_of_executeIf_ok (!wanted.removed.isEmpty)
    (revokeRemoved g object wanted) (x := x)
  generalize (executeIf (!wanted.removed.isEmpty) (revokeRemoved g object wanted)).on x = outcome
    at h hrevoked ⊢
  obtain ⟨f | _, y⟩ := outcome
  · cases h
  · dsimp only at h ⊢
    rw [Action.on_bind] at h ⊢
    have hgranted := attempts_of_executeIf_ok (!wanted.added.isEmpty) g.statement (x := y)
    generalize (executeIf (!wanted.added.isEmpty) g.statement).on y = outcome at h hgranted ⊢
    obtain ⟨f | _, z⟩ := outcome
    · cases h
    · cases h
      refine ⟨rfl, ?_⟩
      rw [← List.append_assoc, ← hrevoked rfl]
      exact hgranted rfl

/-- On a server whose revocations take away the rights their privileges cover, and whose grants add
those theirs cover, an update that succeeds leaves every right of the new privileges in place if
and only if it had something to add or took no privilege that meets a new one. -/
theorem update_keeps_rights_iff (old new : List String) {database name : String}
    (hg : g.entitlement = .privileges (Privilege.canonicalize new) (.table database name))
    {effect : String → Set Right → Set Right}
    (hrevoke : ∀ held, effect (revokeRemoved g (.table database name)
      (PrivilegeChange.between old new)) held =
        held \ covered (PrivilegeChange.between old new).removed)
    (hgrant : ∀ held, effect g.statement held = held ∪ covered (Privilege.canonicalize new))
    {change : PrivilegeChange} (hdone : ((update g old new).on x).1 = .ok change) :
    ∃ made, ((update g old new).on x).2.attempts = x.attempts ++ made ∧
      (covered (Privilege.canonicalize new) ⊆
          rightsAfter effect (covered (Privilege.canonicalize old)) made ↔
        change.added ≠ [] ∨ ∀ lost ∈ change.removed, ∀ token ∈ Privilege.canonicalize new,
          (Reach.ofToken lost).meets (Reach.ofToken token) = false) := by
  obtain ⟨rfl, hmade⟩ := attempts_of_update_ok hg hdone
  refine ⟨_, hmade, ?_⟩
  have hrevoked : (if !(PrivilegeChange.between old new).removed.isEmpty then
        covered (Privilege.canonicalize old) \ covered (PrivilegeChange.between old new).removed
      else covered (Privilege.canonicalize old)) =
      covered (Privilege.canonicalize old) \
        covered (PrivilegeChange.between old new).removed := by
    cases (PrivilegeChange.between old new).removed with
    | nil => rw [covered_nil, Set.sdiff_empty, ite_self]
    | cons first others => rfl
  rw [rightsAfter_append, rightsAfter_executeIf, rightsAfter_executeIf, hrevoke, hgrant, hrevoked,
    ← not_mem_covered, ← Set.disjoint_left]
  by_cases hadded : (PrivilegeChange.between old new).added = []
  · have hheld : covered (Privilege.canonicalize new) ⊆ covered (Privilege.canonicalize old) :=
      covered_mono (added_eq_nil.mp hadded)
    have hidle : ¬(!(PrivilegeChange.between old new).added.isEmpty) = true := by simp [hadded]
    rw [if_neg hidle, Set.subset_sdiff, disjoint_comm, and_iff_right hheld,
      or_iff_right (not_not_intro hadded)]
  · have hwanted : (!(PrivilegeChange.between old new).added.isEmpty) = true := by
      simpa using hadded
    rw [if_pos hwanted]
    exact iff_of_true Set.subset_union_right (Or.inl hadded)

/-- A server on which the two statements of an update do what they say, and no other does
anything. -/
def obeying (g : Grant) (object : Object) (wanted : List String) (change : PrivilegeChange)
    (sql : String) (held : Set Right) : Set Right :=
  if sql = revokeRemoved g object change then held \ covered change.removed
  else if sql = g.statement then held ∪ covered wanted
  else held

theorem obeying_revokeRemoved (wanted : List String) (change : PrivilegeChange)
    (held : Set Right) :
    obeying g object wanted change (revokeRemoved g object change) held =
      held \ covered change.removed :=
  if_pos rfl

theorem obeying_statement (wanted : List String) (change : PrivilegeChange) (held : Set Right) :
    obeying g object wanted change g.statement held = held ∪ covered wanted := by
  rw [obeying, if_neg (revokeRemoved_ne_statement g object change).symm, if_pos rfl]

/-- A grant whose privileges are fewer than those it had. -/
def readerGrant : Grant where
  entitlement := .privileges ["SELECT"] (.table "app" "orders")
  identity := .user "bob" "%"
  grantOption := false
  tlsOption := ""

/-- The call of an update to `readerGrant` that takes a privilege back. -/
def readerCalls (privilege : String) : List Attempt :=
  [⟨.execute ("REVOKE " ++ privilege ++ " ON `app`.`orders` FROM 'bob'@'%'"), none⟩]

theorem readerGrant_update_keeps_rights :
    ((update readerGrant ["select", "Insert"] ["SELECT"]).on
        { server := ⟨[], "8.0.32", true⟩, script := {} }).2.attempts = readerCalls "INSERT" ∧
      covered ["SELECT"] ⊆ rightsAfter
        (obeying readerGrant (.table "app" "orders") ["SELECT"] ⟨[], ["INSERT"]⟩)
        (covered ["SELECT", "INSERT"]) (readerCalls "INSERT") := by
  have hcalls : ((update readerGrant ["select", "Insert"] ["SELECT"]).on
      { server := ⟨[], "8.0.32", true⟩, script := {} }).2.attempts = readerCalls "INSERT" := rfl
  obtain ⟨made, hmade, hkeeps⟩ := update_keeps_rights_iff ["select", "Insert"] ["SELECT"]
    (g := readerGrant) (x := { server := ⟨[], "8.0.32", true⟩, script := {} }) rfl
    (obeying_revokeRemoved ["SELECT"] ⟨[], ["INSERT"]⟩)
    (obeying_statement ["SELECT"] ⟨[], ["INSERT"]⟩) rfl
  rw [hcalls, List.nil_append] at hmade
  subst hmade
  refine ⟨hcalls, hkeeps.mpr (Or.inr ?_)⟩
  change ∀ lost ∈ ["INSERT"], ∀ token ∈ ["SELECT"],
    (Reach.ofToken lost).meets (Reach.ofToken token) = false
  decide +kernel

/-- To take all privileges back takes the one that is still wanted, and nothing is granted again. -/
theorem readerGrant_update_loses_rights :
    ((update readerGrant ["ALL", "SELECT"] ["SELECT"]).on
        { server := ⟨[], "8.0.32", true⟩, script := {} }).1 = .ok ⟨[], ["ALL PRIVILEGES"]⟩ ∧
      ((update readerGrant ["ALL", "SELECT"] ["SELECT"]).on
        { server := ⟨[], "8.0.32", true⟩, script := {} }).2.attempts =
        readerCalls "ALL PRIVILEGES" ∧
      ¬covered (Privilege.canonicalize ["SELECT"]) ⊆ rightsAfter
        (obeying readerGrant (.table "app" "orders") ["SELECT"] ⟨[], ["ALL PRIVILEGES"]⟩)
        (covered (Privilege.canonicalize ["ALL", "SELECT"])) (readerCalls "ALL PRIVILEGES") := by
  refine ⟨rfl, rfl, fun hkept => ?_⟩
  have hselect : Reach.ofToken "SELECT" = ⟨some "SELECT", none⟩ := by decide +kernel
  have hall : Reach.ofToken "ALL PRIVILEGES" = ⟨none, none⟩ := by decide +kernel
  have hwanted : (⟨"SELECT", "id"⟩ : Right) ∈ covered (Privilege.canonicalize ["SELECT"]) :=
    ⟨"SELECT", by decide +kernel, by simp [Reach.rights, hselect]⟩
  have hheld := hkept hwanted
  change _ ∈ covered (Privilege.canonicalize ["ALL", "SELECT"]) \ covered ["ALL PRIVILEGES"]
    at hheld
  refine hheld.2 ⟨"ALL PRIVILEGES", List.mem_cons_self, ?_⟩
  simp [Reach.rights, hall]

end Reconcile

end AccountGrants
