import AccountGrants.Proofs.Declaration
import AccountGrants.Proofs.Import
import AccountGrants.Proofs.Row.Canonical

/-!
Declarations that imports yield. A grant that is read off a row has canonical privileges or some
roles, so its declaration gives it back as soon as the object can be told from the declaration's
text: `Reconcile.importGrant_toGrant`. A routine whose database or name has a dot cannot.
-/

namespace AccountGrants

/-- An entitlement whose object, if it has one, can be declared. -/
def Entitlement.IsDeclarable : Entitlement → Prop
  | .privileges _ object => object.IsDeclarable
  | .membership _ => True

theorem Declaration.entitlement_ofEntitlement {entitlement : Entitlement}
    (h : entitlement.IsCanonical) :
    (ofEntitlement entitlement).entitlement = entitlement ↔ entitlement.IsDeclarable := by
  cases entitlement with
  | privileges tokens object =>
    rw [entitlement_ofEntitlement_privileges]
    exact and_iff_right h
  | membership roles =>
    rw [entitlement_ofEntitlement_membership]
    exact iff_of_true h trivial

namespace Reconcile

theorem find_eq_some {id : ImportId} {x : Exchange} {g : Grant}
    (h : ((find id).on x).1 = .ok (some g)) :
    (grantsOf id.identity x.server.rows).find? id.selects = some g := by
  rw [on_find] at h
  cases hlisting : ((list id.identity).on x).1 with
  | error f =>
    rw [hlisting] at h
    cases h
  | ok grants =>
    rw [hlisting] at h
    have hfound : grants.find? id.selects = some g := Except.ok.inj h
    have hlisted := list_listed id.identity x
    rw [hlisting] at hlisted
    generalize hanswer : x.queryAnswer = answer at hlisted
    cases hlisted with
    | unknown => cases hfound
    | readable => rwa [(Exchange.queryAnswer_eq_ok.mp hanswer).2]

/-- On the same rows the declaration that an import yields gives the grant back that a lookup
finds, if and only if the object of the grant can be declared. -/
theorem importGrant_toGrant {id : ImportId} (huser : id.user ≠ "") (hhost : id.host ≠ "")
    {x y : Exchange} (hrows : x.server.rows = y.server.rows) {d : Declaration} {g : Grant}
    (himport : ((importGrant id).on x).1 = .ok (some d))
    (hfind : ((find id).on y).1 = .ok (some g)) :
    d.toGrant = .ok g ↔ g.entitlement.IsDeclarable := by
  have hfound := find_eq_some hfind
  obtain ⟨row, -, hparse, hid⟩ := mem_grantsOf.mp (List.mem_of_find?_eq_some hfound)
  have hd : d = Declaration.ofGrant g := by
    rw [on_importGrant] at himport
    cases hlookup : ((find id).on x).1 with
    | error f => simp [hlookup, Except.map] at himport
    | ok found =>
      cases found with
      | none => simp [hlookup, Except.map] at himport
      | some g' =>
        have hsame := find_eq_some hlookup
        rw [hrows, hfound] at hsame
        cases hsame
        simpa [hlookup, Except.map] using himport.symm
  have hnamed : g.identity.IsNamed := by
    rw [hid]
    exact ⟨huser, hhost⟩
  rw [hd, Declaration.toGrant_ofGrant,
    Declaration.entitlement_ofEntitlement (Row.isCanonical_of_parse hparse)]
  exact and_iff_right hnamed

/-- An exchange with a server that lists a routine in the database `shop`. -/
def shopExchange : Exchange where
  server := ⟨["GRANT EXECUTE ON PROCEDURE `shop`.`cleanup` TO `bob`@`%`"], "8.0.32", false⟩
  script := {}

/-- The routine that `shopExchange` lists. -/
def shopGrant : Grant where
  entitlement := .privileges ["EXECUTE"] (.routine .procedure "shop" "cleanup")
  identity := .user "bob" "%"
  grantOption := false
  tlsOption := ""

theorem shopGrant_importGrant_toGrant :
    ((importGrant ⟨"bob", "%", "shop", "", false⟩).on shopExchange).1 =
        .ok (some (Declaration.ofGrant shopGrant)) ∧
      (Declaration.ofGrant shopGrant).toGrant = .ok shopGrant := by
  have himport : ((importGrant ⟨"bob", "%", "shop", "", false⟩).on shopExchange).1 =
      .ok (some (Declaration.ofGrant shopGrant)) := rfl
  have hfind : ((find ⟨"bob", "%", "shop", "", false⟩).on shopExchange).1 =
      .ok (some shopGrant) := rfl
  have hdeclarable : shopGrant.entitlement.IsDeclarable := ⟨by decide, by decide⟩
  exact ⟨himport, (importGrant_toGrant (by decide) (by decide) rfl himport hfind).mpr hdeclarable⟩

/-- An exchange with a server that lists a routine in the database `my.db`. -/
def dottedExchange : Exchange where
  server := ⟨["GRANT EXECUTE ON PROCEDURE `my.db`.`cleanup` TO 'bob'@'%'"], "8.0.32", false⟩
  script := {}

/-- The declaration of a routine in `my.db` is read as that of all tables of a database, and to
delete what it declares would take privileges on these tables back. -/
theorem dotted_importGrant_toGrant : ∃ d g,
    ((importGrant ⟨"bob", "%", "my.db", "", false⟩).on dottedExchange).1 = .ok (some d) ∧
      ((find ⟨"bob", "%", "my.db", "", false⟩).on dottedExchange).1 = .ok (some g) ∧
      d.toGrant = .ok { g with
        entitlement := .privileges ["EXECUTE"] (.table "PROCEDURE my.db.cleanup" "") } ∧
      d.toGrant ≠ .ok g ∧
      d.toGrant.toOption.map Grant.revocation =
        some "REVOKE EXECUTE ON `PROCEDURE my.db.cleanup`.* FROM 'bob'@'%'" := by
  refine ⟨_, ⟨.privileges ["EXECUTE"] (.routine .procedure "my.db" "cleanup"), .user "bob" "%", false,
    ""⟩, rfl, rfl, rfl, ?_, rfl⟩
  intro h
  have hentitlement := congrArg Grant.entitlement (Except.ok.inj h)
  cases hentitlement

end Reconcile

end AccountGrants
