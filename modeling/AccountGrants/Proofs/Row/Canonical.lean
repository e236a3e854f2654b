import AccountGrants.Proofs.Privilege.Canonical
import AccountGrants.Proofs.Row.Extension

/-!
What a row grants is in canonical form: the privileges that are read off it are a canonical list,
and a membership has some roles. `Row.isCanonical_of_parse` is what later readings rely on.
-/

namespace AccountGrants

/-- An entitlement as rows hold them: its privileges are canonical, and there are roles. -/
def Entitlement.IsCanonical : Entitlement → Prop
  | .privileges tokens _ => Privilege.canonicalize tokens = tokens
  | .membership roles => roles ≠ []

namespace Row

theorem isCanonical_of_privileges? {object : List Char → Option (Object × List Char)}
    {s who : List Char} {entitlement : Entitlement}
    (h : privileges? object s = some (entitlement, who)) : entitlement.IsCanonical := by
  unfold privileges? at h
  obtain ⟨after, -, h⟩ := Option.bind_eq_some_iff.mp h
  obtain ⟨found, -, h⟩ := Option.bind_eq_some_iff.mp h
  cases h
  exact Privilege.canonicalize_of_subset (List.Subset.refl _)

theorem isCanonical_of_membership? {s who : List Char} {entitlement : Entitlement}
    (h : membership? s = some (entitlement, who)) : entitlement.IsCanonical := by
  unfold membership? at h
  obtain ⟨after, -, h⟩ := Option.bind_eq_some_iff.mp h
  obtain ⟨⟨list, rest⟩, -, h⟩ := Option.bind_eq_some_iff.mp h
  obtain ⟨who', -, h⟩ := Option.bind_eq_some_iff.mp h
  cases h
  exact mt List.map_eq_nil_iff.mp (List.splitOn_ne_nil ',' list)

/-- What a row grants is in canonical form. -/
theorem isCanonical_of_parse {row : String} {g : Grant} (h : parse row = .ok (.grant g)) :
    g.entitlement.IsCanonical := by
  obtain ⟨⟨entitlement, who⟩, hread, hg⟩ := Option.bind_eq_some_iff.mp (parse_eq_grant h).2
  obtain ⟨identity, -, hg⟩ := Option.bind_eq_some_iff.mp hg
  cases hg
  obtain ⟨s, -, hread⟩ := Option.bind_eq_some_iff.mp hread
  rcases Option.or_eq_some_iff.mp hread with hmember | ⟨-, hread⟩
  · exact isCanonical_of_membership? hmember
  · rcases Option.or_eq_some_iff.mp hread with hroutine | ⟨-, htable⟩
    · exact isCanonical_of_privileges? hroutine
    · exact isCanonical_of_privileges? htable

end Row

end AccountGrants
