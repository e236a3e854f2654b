import AccountGrants.Proofs.Listing

/-!
The operations as equations: what each yields in an exchange, and which exchange it leaves. What a
listing comes to is said once more by the answer to its query, in `Reconcile.list_listed`.
-/

namespace AccountGrants

namespace Exchange

/-- What the next query comes to: the rows of the server, or the error that the script has. -/
def queryAnswer (x : Exchange) : Except DatabaseError (List String) :=
  answer x.script.query x.server.rows

theorem queryAnswer_eq_error {x : Exchange} {e : DatabaseError} :
    x.queryAnswer = .error e ↔ x.script.query = some e := by
  unfold queryAnswer answer
  cases x.script.query <;> simp

theorem queryAnswer_eq_ok {x : Exchange} {rows : List String} :
    x.queryAnswer = .ok rows ↔ x.script.query = none ∧ x.server.rows = rows := by
  unfold queryAnswer answer
  cases x.script.query <;> simp

end Exchange

namespace Reconcile

/-- What a listing yields and leaves, by the fate of its query. -/
theorem on_list (identity : Identity) (x : Exchange) :
    (list identity).on x =
      match x.script.query with
      | some e =>
        (if e.isIgnorable then .ok []
          else .error ⟨.execution (listingQuery identity) e.message, some .listing⟩,
         (Exchange.query (listingQuery identity) x).2)
      | none =>
        ((readListing identity x.server.rows).2.mapError (⟨·, none⟩),
         (Exchange.query (listingQuery identity) x).2.notify
           (readListing identity x.server.rows).1) := by
  unfold list
  simp only [Action.on_bind, Action.on_modifyGet, Exchange.query]
  cases hq : x.script.query with
  | some e => by_cases hi : e.isIgnorable <;> simp [Exchange.answer, hi]
  | none =>
    simp only [Exchange.answer, Action.on_bind, Action.on_modify]
    rcases (readListing identity x.server.rows).2 with p | grants <;> rfl

theorem on_list_of_error (identity : Identity) {x : Exchange} {e : DatabaseError}
    (h : x.queryAnswer = .error e) :
    (list identity).on x =
      (if e.isIgnorable then .ok []
        else .error ⟨.execution (listingQuery identity) e.message, some .listing⟩,
       (Exchange.query (listingQuery identity) x).2) := by
  rw [on_list, Exchange.queryAnswer_eq_error.mp h]

theorem on_list_of_ok (identity : Identity) {x : Exchange} {rows : List String}
    (h : x.queryAnswer = .ok rows) :
    (list identity).on x =
      ((readListing identity rows).2.mapError (⟨·, none⟩),
       (Exchange.query (listingQuery identity) x).2.notify (readListing identity rows).1) := by
  obtain ⟨hquery, rfl⟩ := Exchange.queryAnswer_eq_ok.mp h
  rw [on_list, hquery]

/-- What a listing comes to, by the answer to its query. -/
inductive Listed (identity : Identity) :
    Except DatabaseError (List String) → Except Failure (List Grant) → Prop
  | unknown {e : DatabaseError} (absent : e.isIgnorable = true) :
      Listed identity (.error e) (.ok [])
  | refused {e : DatabaseError} (other : ¬e.isIgnorable = true) :
      Listed identity (.error e)
        (.error ⟨.execution (listingQuery identity) e.message, some .listing⟩)
  | readable {rows : List String} (readable : ∀ row ∈ rows, Row.Readable row) :
      Listed identity (.ok rows) (.ok (grantsOf identity rows))
  | unreadable {before after : List String} {row : String}
      (readable : ∀ earlier ∈ before, Row.Readable earlier) (first : ¬Row.Readable row) :
      Listed identity (.ok (before ++ row :: after))
        (.error ⟨.unreadable (String.ofList (Text.trim row.toList)), none⟩)

theorem list_listed (identity : Identity) (x : Exchange) :
    Listed identity x.queryAnswer ((list identity).on x).1 := by
  cases hanswer : x.queryAnswer with
  | error e =>
    rw [on_list_of_error identity hanswer]
    by_cases hignorable : e.isIgnorable = true
    · rw [if_pos hignorable]
      exact .unknown hignorable
    · rw [if_neg hignorable]
      exact .refused hignorable
  | ok rows =>
    rw [on_list_of_ok identity hanswer]
    rcases readable_or_first_unreadable rows with hall | ⟨before, row, after, rfl, hbefore, hrow⟩
    · rw [readListing_of_readable hall]
      exact .readable hall
    · rw [readListing_of_unreadable identity hbefore hrow]
      exact .unreadable hbefore hrow

theorem grants_of_list {identity : Identity} {x : Exchange} {rows : List String}
    {grants : List Grant} (hanswer : x.queryAnswer = .ok rows)
    (h : ((list identity).on x).1 = .ok grants) : grants = grantsOf identity rows := by
  have hlisted := list_listed identity x
  rw [hanswer, h] at hlisted
  cases hlisted with
  | readable => rfl

theorem list_attempts (identity : Identity) (x : Exchange) :
    ((list identity).on x).2.attempts =
      x.attempts ++ [⟨.query (listingQuery identity), x.script.query⟩] := by
  rw [on_list]
  split <;> rfl

theorem on_execute (sql : String) (x : Exchange) :
    (execute sql).on x =
      (match x.script.executes.head?.join with
        | some e => .error ⟨.execution sql e.message, none⟩
        | none => .ok (),
       (Exchange.execute sql x).2) := by
  unfold execute
  simp only [Action.on_bind, Action.on_modifyGet, Exchange.execute]
  cases x.script.executes.head?.join <;> simp [Exchange.answer]

theorem on_requireRoles (x : Exchange) :
    requireRoles.on x =
      (match x.askRoles.1 with
        | .ok true => .ok ()
        | .ok false => .error ⟨.unsupported .roleGrants, none⟩
        | .error e => .error ⟨.database e, some .probingRoles⟩,
       x.askRoles.2) := by
  unfold requireRoles
  rw [Action.on_bind, Action.on_modifyGet]
  rcases x.askRoles with ⟨_ | _ | _, y⟩ <;> rfl

theorem on_hasConflict (desired : Grant) (x : Exchange) :
    (hasConflict desired).on x =
      (((list desired.identity).on x).1.map (·.any (·.conflictsWith desired)),
       ((list desired.identity).on x).2) := by
  unfold hasConflict
  rw [Action.on_bind]
  rcases (list desired.identity).on x with ⟨_ | _, y⟩ <;> simp [Except.map]

/-- If a check for a grant in the way comes to an answer, this is about all the listed grants. -/
theorem hasConflict_eq_ok {desired : Grant} {x : Exchange} {rows : List String} {stands : Bool}
    (hanswer : x.queryAnswer = .ok rows) (h : ((hasConflict desired).on x).1 = .ok stands) :
    (grantsOf desired.identity rows).any (·.conflictsWith desired) = stands := by
  rw [on_hasConflict] at h
  cases hlisting : ((list desired.identity).on x).1 with
  | error f =>
    rw [hlisting] at h
    cases h
  | ok grants =>
    rw [hlisting] at h
    rw [← grants_of_list hanswer hlisting]
    exact Except.ok.inj h

/-- A creation behind the question about roles. -/
def createUnlessConflict (g : Grant) : Action String := do
  if ← hasConflict g then throw ⟨.conflict g.identity, none⟩
  execute g.statement
  return g.identifier

theorem create_eq (g : Grant) :
    create g = if g.kind = .role then requireRoles >>= fun _ => createUnlessConflict g
      else createUnlessConflict g := rfl

theorem on_createUnlessConflict (g : Grant) (x : Exchange) :
    (createUnlessConflict g).on x =
      match (hasConflict g).on x with
      | (.error f, y) => (.error f, y)
      | (.ok true, y) => (.error ⟨.conflict g.identity, none⟩, y)
      | (.ok false, y) =>
        (((execute g.statement).on y).1.map fun _ => g.identifier,
          ((execute g.statement).on y).2) := by
  unfold createUnlessConflict
  rw [Action.on_bind]
  rcases (hasConflict g).on x with ⟨f | _ | _, y⟩
  · rfl
  · simp only [Bool.false_eq_true, if_false, Action.on_bind]
    rcases (execute g.statement).on y with ⟨_ | _, z⟩ <;> rfl
  · simp only [if_true, Action.on_bind, Action.on_throw]

/-- A deletion tries the revocation of the grant. That the grant is not there is no failure. -/
theorem on_delete (g : Grant) (x : Exchange) :
    (delete g).on x =
      match x.script.executes.head?.join with
      | none => (.ok (), (Exchange.execute g.revocation x).2)
      | some e =>
        if e.isIgnorable then
          (.ok (), (Exchange.execute g.revocation x).2.notify
            [.alreadyRevoked g.revocation e.message])
        else
          (.error ⟨.execution g.revocation e.message, some .revoking⟩,
            (Exchange.execute g.revocation x).2) := by
  unfold delete
  simp only [Action.on_bind, Action.on_modifyGet, Exchange.execute]
  cases x.script.executes.head?.join with
  | none => rfl
  | some e => by_cases hi : e.isIgnorable <;> simp [Exchange.answer, hi]

end Reconcile

end AccountGrants
