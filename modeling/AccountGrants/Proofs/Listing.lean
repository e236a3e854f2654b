import AccountGrants.Proofs.Action
import AccountGrants.Proofs.Row.Outcome

/-!
What a listing says about an identity. `grantsOf` reads the grants of an identity off rows without
regard to failures, and `readListing_append` says that readable rows add exactly these grants to
what follows them. The first row that cannot be read ends the listing.
-/

namespace AccountGrants

/-- A row that is a grant or a partial revoke. -/
def Row.Readable (row : String) : Prop :=
  ∃ r, Row.parse row = .ok r

/-- The grant of an identity that a row lists, if it lists one. -/
def grantOf? (identity : Identity) (row : String) : Option Grant :=
  match Row.parse row with
  | .ok (.grant g) => if g.identity = identity then some g else none
  | _ => none

/-- The grants of an identity among rows, in their order. -/
def grantsOf (identity : Identity) (rows : List String) : List Grant :=
  rows.filterMap (grantOf? identity)

/-- The notice that a row is worth, if it is a partial revoke. -/
def revokeNotice? (row : String) : Option Notice :=
  match Row.parse row with
  | .ok .partialRevoke => some (.partialRevoke row)
  | _ => none

theorem grantOf?_eq_some {identity : Identity} {row : String} {g : Grant} :
    grantOf? identity row = some g ↔ Row.parse row = .ok (.grant g) ∧ g.identity = identity := by
  unfold grantOf?
  split
  next listed hparse =>
    rw [hparse, Option.ite_none_right_eq_some, Option.some.injEq]
    simp only [Except.ok.injEq, Row.grant.injEq]
    constructor
    · rintro ⟨hid, rfl⟩
      exact ⟨rfl, hid⟩
    · rintro ⟨rfl, hid⟩
      exact ⟨hid, rfl⟩
  next hother => exact iff_of_false nofun fun h => hother g h.1

theorem mem_grantsOf {identity : Identity} {rows : List String} {g : Grant} :
    g ∈ grantsOf identity rows ↔
      ∃ row ∈ rows, Row.parse row = .ok (.grant g) ∧ g.identity = identity := by
  rw [grantsOf, List.mem_filterMap]
  simp only [grantOf?_eq_some]

theorem grantsOf_append (identity : Identity) (rows more : List String) :
    grantsOf identity (rows ++ more) = grantsOf identity rows ++ grantsOf identity more :=
  List.filterMap_append

theorem readListing_append (identity : Identity) {rows : List String}
    (readable : ∀ row ∈ rows, Row.Readable row) (more : List String) :
    readListing identity (rows ++ more) =
      (rows.filterMap revokeNotice? ++ (readListing identity more).1,
       (readListing identity more).2.map (grantsOf identity rows ++ ·)) := by
  induction rows with
  | nil =>
    rcases h : (readListing identity more).2 with _ | _ <;>
      simp [grantsOf, Except.map, ← h]
  | cons row rows ih =>
    have hrest := ih fun row h => readable row (List.mem_cons_of_mem _ h)
    obtain ⟨r, hr⟩ := readable row List.mem_cons_self
    rw [List.cons_append, readListing, hr]
    cases r with
    | partialRevoke =>
      simp [hrest, revokeNotice?, grantsOf, grantOf?, hr]
    | grant g =>
      by_cases hid : g.identity = identity <;>
        rcases h : (readListing identity more).2 with _ | _ <;>
        simp [hrest, h, revokeNotice?, grantsOf, grantOf?, hr, hid, Except.map]

theorem readListing_of_readable {identity : Identity} {rows : List String}
    (readable : ∀ row ∈ rows, Row.Readable row) :
    readListing identity rows = (rows.filterMap revokeNotice?, .ok (grantsOf identity rows)) := by
  simpa [readListing, Except.map] using readListing_append identity readable []

/-- Some row of a listing is the first that cannot be read, unless all can. -/
theorem readable_or_first_unreadable (rows : List String) :
    (∀ row ∈ rows, Row.Readable row) ∨ ∃ before row after, rows = before ++ row :: after ∧
      (∀ earlier ∈ before, Row.Readable earlier) ∧ ¬Row.Readable row := by
  classical
  cases hfirst : rows.find? fun row => decide (¬Row.Readable row) with
  | none => exact Or.inl (by simpa using hfirst)
  | some row =>
    obtain ⟨hrow, before, after, hsplit, hbefore⟩ := List.find?_eq_some_iff_append.mp hfirst
    exact Or.inr ⟨before, row, after, hsplit, by simpa using hbefore, by simpa using hrow⟩

/-- The first row that cannot be read ends a listing with its problem. -/
theorem readListing_of_unreadable (identity : Identity) {before after : List String} {row : String}
    (readable : ∀ earlier ∈ before, Row.Readable earlier) (hrow : ¬Row.Readable row) :
    readListing identity (before ++ row :: after) =
      (before.filterMap revokeNotice?,
       .error (.unreadable (String.ofList (Text.trim row.toList)))) := by
  have hparse : Row.parse row = .error (.unreadable (String.ofList (Text.trim row.toList))) := by
    cases h : Row.parse row with
    | error problem => rw [Row.problem_of_parse h]
    | ok r => exact absurd ⟨r, h⟩ hrow
  rw [readListing_append identity readable, readListing, hparse]
  simp [Except.map]

end AccountGrants
