import AccountGrants.PrivilegeChange
import AccountGrants.Proofs.Privilege.Canonical
import Mathlib.Data.List.Induction

/-!
The difference of two lists. `PrivilegeChange.IsDifference` fixes the tokens of one list that
another one lacks, together with their order, and leaves no choice. A change holds the differences
both ways of two canonical lists: `PrivilegeChange.between_exact`.
-/

namespace AccountGrants.PrivilegeChange

variable {xs ys tokens : List String}

theorem mem_missing {token : String} : token ∈ missing xs ys ↔ token ∈ xs ∧ token ∉ ys := by
  simp [missing]

theorem missing_eq_nil : missing xs ys = [] ↔ ∀ token ∈ xs, token ∈ ys := by
  simp [List.eq_nil_iff_forall_not_mem, mem_missing]

/-- The tokens of `xs` that `ys` lacks, in the order in which `xs` first has them. Their places
strictly increase, so each is there once. -/
structure IsDifference (xs ys tokens : List String) : Prop where
  mem_iff : ∀ token, token ∈ tokens ↔ token ∈ xs ∧ token ∉ ys
  ordered : tokens.Pairwise fun a b => xs.idxOf a < xs.idxOf b

theorem IsDifference.nodup (h : IsDifference xs ys tokens) : tokens.Nodup := by
  apply h.ordered.imp
  intro a b hlt heq
  rw [heq] at hlt
  exact Nat.lt_irrefl _ hlt

theorem IsDifference.unique {others : List String} (h : IsDifference xs ys tokens)
    (hothers : IsDifference xs ys others) : tokens = others := by
  apply List.Perm.eq_of_pairwise ?_ h.ordered hothers.ordered
  · apply (List.perm_ext_iff_of_nodup h.nodup hothers.nodup).mpr
    intro token
    rw [h.mem_iff, hothers.mem_iff]
  · intro a b _ _ hab hba
    exact absurd hab (Nat.lt_asymm hba)

/-- Without repetitions a list keeps its order. -/
theorem eraseDups_ordered (xs : List String) :
    xs.eraseDups.Pairwise fun a b => xs.idxOf a < xs.idxOf b := by
  -- From the end: the last item is dropped if it is there already, and else comes after all others.
  induction xs using List.reverseRecOn with
  | nil => exact List.Pairwise.nil
  | append_singleton xs x ih =>
    have hstay : ∀ a ∈ xs.eraseDups, (xs ++ [x]).idxOf a = xs.idxOf a := by
      intro a ha
      exact List.idxOf_append_of_mem (List.mem_eraseDups.mp ha)
    have hbefore : xs.eraseDups.Pairwise fun a b => (xs ++ [x]).idxOf a < (xs ++ [x]).idxOf b := by
      apply List.Pairwise.imp_of_mem ?_ ih
      intro a b ha hb hab
      rwa [hstay a ha, hstay b hb]
    rw [List.eraseDups_append]
    by_cases hx : x ∈ xs
    · simpa [List.removeAll, hx] using hbefore
    · have hlast : ([x].removeAll xs).eraseDups = [x] := by
        simp [List.removeAll, hx, List.eraseDups_cons]
      rw [hlast]
      apply List.pairwise_append.mpr
      refine ⟨hbefore, by simp, ?_⟩
      intro a ha b hb
      have hnew : b = x := by simpa using hb
      subst hnew
      rw [hstay a ha, List.idxOf_append_of_notMem hx]
      have hbound := List.idxOf_lt_length_iff.mpr (List.mem_eraseDups.mp ha)
      omega

theorem isDifference_missing (xs ys : List String) : IsDifference xs ys (missing xs ys) where
  mem_iff _ := mem_missing
  ordered := (eraseDups_ordered xs).filter _

theorem isDifference_iff : IsDifference xs ys tokens ↔ tokens = missing xs ys := by
  constructor
  · intro h
    exact h.unique (isDifference_missing xs ys)
  · rintro rfl
    exact isDifference_missing xs ys

/-- A change that turns one canonical list into the other and does nothing besides. -/
structure IsExact (old new : List String) (change : PrivilegeChange) : Prop where
  added : ∀ tokens, IsDifference (Privilege.canonicalize new) (Privilege.canonicalize old) tokens ↔
    tokens = change.added
  removed : ∀ tokens,
    IsDifference (Privilege.canonicalize old) (Privilege.canonicalize new) tokens ↔
      tokens = change.removed
  disjoint : change.added.Disjoint change.removed
  usage : Privilege.usage ∉ change.added ∧ Privilege.usage ∉ change.removed
  applied : ∀ token, token ∈ Privilege.canonicalize new ↔
    token ∈ Privilege.canonicalize old ∧ token ∉ change.removed ∨ token ∈ change.added
  reversed : between new old = ⟨change.removed, change.added⟩
  isEmpty_iff : change.isEmpty = true ↔
    ∀ token, token ∈ Privilege.canonicalize old ↔ token ∈ Privilege.canonicalize new
  canonical_old : between (Privilege.canonicalize old) new = change
  canonical_new : between old (Privilege.canonicalize new) = change

theorem isEmpty_between_iff (old new : List String) : (between old new).isEmpty = true ↔
    ∀ token, token ∈ Privilege.canonicalize old ↔ token ∈ Privilege.canonicalize new := by
  rw [isEmpty, Bool.and_eq_true, List.isEmpty_iff, List.isEmpty_iff, between, missing_eq_nil,
    missing_eq_nil]
  constructor
  · rintro ⟨hadded, hremoved⟩ token
    exact ⟨hremoved token, hadded token⟩
  · intro h
    exact ⟨fun token => (h token).mpr, fun token => (h token).mp⟩

/-- The change between two lists of any texts is exact: it adds the tokens that only the new list
has and removes those that only the old list has, each once and in the order of its list. -/
theorem between_exact (old new : List String) : IsExact old new (between old new) where
  added _ := isDifference_iff
  removed _ := isDifference_iff
  disjoint := by
    intro token hadded hremoved
    exact (mem_missing.mp hadded).2 (mem_missing.mp hremoved).1
  usage := by
    have hnone : ∀ privileges, Privilege.usage ∉ Privilege.canonicalize privileges :=
      fun _ h => Privilege.ne_usage_of_mem_canonicalize h rfl
    exact ⟨fun h => hnone new (mem_missing.mp h).1, fun h => hnone old (mem_missing.mp h).1⟩
  applied := by
    intro token
    simp only [between, mem_missing]
    constructor
    · intro hnew
      by_cases hold : token ∈ Privilege.canonicalize old
      · exact Or.inl ⟨hold, fun hremoved => hremoved.2 hnew⟩
      · exact Or.inr ⟨hnew, hold⟩
    · rintro (⟨hold, hkept⟩ | ⟨hnew, -⟩)
      · by_contra hnew
        exact hkept ⟨hold, hnew⟩
      · exact hnew
  reversed := rfl
  isEmpty_iff := isEmpty_between_iff old new
  canonical_old := by
    rw [between, Privilege.canonicalize_of_subset (List.Subset.refl _)]
    rfl
  canonical_new := by
    rw [between, Privilege.canonicalize_of_subset (List.Subset.refl _)]
    rfl

end AccountGrants.PrivilegeChange
