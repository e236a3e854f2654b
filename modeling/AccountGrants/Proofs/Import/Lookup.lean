import AccountGrants.Proofs.Import.Text

/-!
Lookups by an import id. `ImportId.PointsAt` says in words of the grant what an id selects, and
`Reconcile.import_first` that a lookup makes one query and yields the first listed grant that its id
points at, whatever else is listed.
-/

namespace AccountGrants

/-- The object that an id has the names of. Where there is no such name the part is empty. -/
def ImportId.Names (id : ImportId) : Entitlement → Prop
  | .privileges _ (.table database name) => database = id.database ∧ name = id.table
  | .privileges _ (.routine _ database _) => database = id.database ∧ id.table = ""
  | .membership _ => id.database = "" ∧ id.table = ""

/-- A grant that an id is meant for. -/
structure ImportId.PointsAt (id : ImportId) (g : Grant) : Prop where
  identity : g.identity = .user id.user id.host
  grantOption : g.grantOption = id.grantOption
  names : id.Names g.entitlement

/-- A row that lists a grant which an id is meant for. -/
def Row.ListsFor (id : ImportId) (row : String) : Prop :=
  ∃ g, Row.parse row = .ok (.grant g) ∧ id.PointsAt g

/-- The first grant in the order of rows that an id is meant for, if there is one. -/
structure ImportId.IsFirst (id : ImportId) (rows : List String) (found : Option Grant) : Prop where
  some_iff : ∀ g, found = some g ↔ ∃ before row after, rows = before ++ row :: after ∧
    Row.parse row = .ok (.grant g) ∧ id.PointsAt g ∧ ∀ earlier ∈ before, ¬Row.ListsFor id earlier
  none_iff : found = none ↔ ∀ row ∈ rows, ¬Row.ListsFor id row

theorem ImportId.pointsAt_iff {id : ImportId} {g : Grant} :
    id.PointsAt g ↔ g.identity = id.identity ∧ id.selects g = true := by
  have hnames : id.Names g.entitlement ↔
      agrees g.database? id.database = true ∧ agrees g.table? id.table = true := by
    obtain ⟨⟨tokens, ⟨database, name⟩ | ⟨kind, database, name⟩⟩ | roles, _, _, _⟩ := g <;>
      simp [Names, Grant.database?, Grant.table?, agrees, Object.database, eq_comm (a := "")]
  have hselects : id.selects g = true ↔ g.grantOption = id.grantOption ∧
      agrees g.database? id.database = true ∧ agrees g.table? id.table = true := by
    simp [selects, and_assoc]
  rw [hselects, ← hnames]
  exact ⟨fun h => ⟨h.identity, h.grantOption, h.names⟩, fun h => ⟨h.1, h.2.1, h.2.2⟩⟩

/-- The grant that a row lists for an id. -/
def listedFor? (id : ImportId) (row : String) : Option Grant :=
  (grantOf? id.identity row).filter id.selects

theorem listedFor?_eq_some {id : ImportId} {row : String} {g : Grant} :
    listedFor? id row = some g ↔ Row.parse row = .ok (.grant g) ∧ id.PointsAt g := by
  rw [listedFor?, Option.filter_eq_some_iff, grantOf?_eq_some, ImportId.pointsAt_iff, and_assoc]

theorem listedFor?_eq_none {id : ImportId} {row : String} :
    listedFor? id row = none ↔ ¬Row.ListsFor id row := by
  rw [Option.eq_none_iff_forall_ne_some, Row.ListsFor, not_exists]
  exact forall_congr' fun g => not_congr listedFor?_eq_some

theorem find?_grantsOf (id : ImportId) (rows : List String) :
    (grantsOf id.identity rows).find? id.selects = rows.findSome? (listedFor? id) := by
  induction rows with
  | nil => rfl
  | cons row rows ih =>
    -- Both look at the first row, and pass over it for another identity or another object.
    rw [grantsOf, List.filterMap_cons, List.findSome?_cons, listedFor?, ← ih]
    cases grantOf? id.identity row with
    | none => rfl
    | some g =>
      rw [List.find?_cons, Option.filter_some]
      cases id.selects g <;> rfl

theorem find?_grantsOf_isFirst (id : ImportId) (rows : List String) :
    id.IsFirst rows ((grantsOf id.identity rows).find? id.selects) where
  some_iff g := by
    rw [find?_grantsOf, List.findSome?_eq_some_iff]
    simp only [listedFor?_eq_some, listedFor?_eq_none, and_assoc]
  none_iff := by
    rw [find?_grantsOf, List.findSome?_eq_none_iff]
    simp only [listedFor?_eq_none]

namespace Reconcile

/-- The one call of a lookup. -/
def lookupCall (id : ImportId) : Attempt :=
  ⟨.query ("SHOW GRANTS FOR " ++ (Identity.user id.user id.host).sql), none⟩

/-- A lookup and an import by an id: each makes one call, and they yield the first grant that the id
is meant for and its declaration. -/
structure IsLookup (id : ImportId) (rows : List String) (x : Exchange) : Prop where
  find_call : ((find id).on x).2.attempts = x.attempts ++ [lookupCall id]
  import_call : ((importGrant id).on x).2.attempts = x.attempts ++ [lookupCall id]
  first : ∃ found, id.IsFirst rows found ∧ ((find id).on x).1 = .ok found ∧
    ((importGrant id).on x).1 = .ok (found.map Declaration.ofGrant)

theorem isLookup_of_answer (id : ImportId) {x : Exchange} {rows : List String}
    (hanswer : x.queryAnswer = .ok rows) (hreadable : ∀ row ∈ rows, Row.Readable row) :
    IsLookup id rows x := by
  have hcall : ((find id).on x).2.attempts = x.attempts ++ [lookupCall id] := by
    rw [on_find, list_attempts, (Exchange.queryAnswer_eq_ok.mp hanswer).1]
    rfl
  have hfound := find_of_answer id hanswer hreadable
  refine ⟨hcall, ?_, _, find?_grantsOf_isFirst id rows, hfound, ?_⟩
  · rw [on_importGrant]
    exact hcall
  · rw [on_importGrant, hfound]
    rfl

/-- A text with fewer than three or more than four signs is refused as an import id. The text of a
plain id is read as that id, and where all rows can be read it leads to the first grant that the id
is meant for. -/
theorem import_first (s : String) :
    (s.toList.count '@' < 3 ∨ 4 < s.toList.count '@' →
      ImportId.ofText s = .error (.definition (.importId s)) ∧
        (Problem.definition (.importId s)).message = "invalid grant definition: " ++
          ("wrong ID format " ++ s ++ " - expected user@host@database@table " ++
            "(and optionally ending @ to signify grant option) where some parts can be empty")) ∧
      ∀ id : ImportId, id.IsPlain → s = id.text →
        ImportId.ofText s = .ok id ∧
          ∀ (x : Exchange) (rows : List String), x.queryAnswer = .ok rows →
            (∀ row ∈ rows, Row.Readable row) → IsLookup id rows x := by
  constructor
  · intro hcount
    exact ⟨ImportId.ofText_eq_error_iff.mpr ⟨rfl, by omega, by omega⟩, rfl⟩
  · rintro id hplain rfl
    exact ⟨ImportId.ofText_text hplain, fun _ _ => isLookup_of_answer id⟩

/-- Rows that list, beside a grant of another host, two grants of bob on `users`. -/
def usersRows : List String :=
  ["GRANT SELECT ON `app`.`users` TO `bob`@`10.0.0.1`",
    "REVOKE INSERT ON `mysql`.* FROM `bob`@`%`",
    "GRANT SELECT ON `app`.`users` TO `bob`@`%` WITH GRANT OPTION",
    "GRANT UPDATE ON `app`.`users` TO `bob`@`%`"]

/-- An exchange with a server that lists `usersRows`. -/
def usersRowsExchange : Exchange where
  server := ⟨usersRows, "8.0.32", false⟩
  script := {}

theorem readable_usersRows : ∀ row ∈ usersRows, Row.Readable row := by
  simp only [usersRows, List.forall_mem_cons]
  refine ⟨⟨.grant ⟨.privileges ["SELECT"] (.table "app" "users"), .user "bob" "10.0.0.1", false,
      ""⟩, rfl⟩, ⟨.partialRevoke, rfl⟩,
    ⟨.grant ⟨.privileges ["SELECT"] (.table "app" "users"), .user "bob" "%", true, ""⟩, rfl⟩,
    ⟨.grant ⟨.privileges ["UPDATE"] (.table "app" "users"), .user "bob" "%", false, ""⟩, rfl⟩,
    by simp⟩

theorem usersRows_import_first :
    ImportId.ofText "bob@%@app@users" = .ok ⟨"bob", "%", "app", "users", false⟩ ∧
      IsLookup ⟨"bob", "%", "app", "users", false⟩ usersRows usersRowsExchange := by
  have hplain : ImportId.IsPlain ⟨"bob", "%", "app", "users", false⟩ :=
    ⟨by decide, by decide, by decide, by decide⟩
  obtain ⟨hid, hlookup⟩ := (import_first "bob@%@app@users").2 _ hplain rfl
  exact ⟨hid, hlookup usersRowsExchange usersRows rfl readable_usersRows⟩

end Reconcile

end AccountGrants
