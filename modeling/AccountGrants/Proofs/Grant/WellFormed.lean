import AccountGrants.Proofs.Grant.Addressee
import AccountGrants.Proofs.Row.Canonical
import AccountGrants.Proofs.Row.Carried
import AccountGrants.Proofs.Row.Outcome

/-!
What is promised of every row, whatever its text. `Row.parse_conforms` says when a row is a partial
revoke and how a row that cannot be read is reported, and `Grant.IsWellFormed` is what holds of
every grant that is read: each part is shown of the reader that the part comes from.
-/

namespace AccountGrants

open Text

/-- A name with no character of a class at either end. -/
def EndsOutside (p : Char → Bool) (name : String) : Prop :=
  (∀ c ∈ name.toList.head?, p c = false) ∧ ∀ c ∈ name.toList.getLast?, p c = false

theorem endsOutside_strip (p : Char → Bool) (s : List Char) :
    EndsOutside p (String.ofList (strip p s)) := by
  unfold EndsOutside
  rw [String.toList_ofList]
  exact ⟨head_strip p s, last_strip p s⟩

theorem endsOutside_empty (p : Char → Bool) : EndsOutside p "" :=
  endsOutside_strip p []

/-- The database of an object and its name in there. -/
def Object.names : Object → List String
  | .table database name => [database, name]
  | .routine _ database name => [database, name]

/-- An entitlement as every row lists it. -/
def Entitlement.IsWellFormed : Entitlement → Prop
  | .privileges tokens object =>
    Privilege.canonicalize tokens = tokens ∧ Privilege.usage ∉ tokens ∧
      ∀ name ∈ object.names, EndsOutside isNameMark name
  | .membership roles =>
    roles ≠ [] ∧ ∀ role ∈ roles, (∀ c ∈ role.toList, c ≠ ',' ∧ c ≠ '(' ∧ c ≠ ')') ∧
      EndsOutside Row.isRoleMark role

/-- A grant as every row lists it. -/
structure Grant.IsWellFormed (row : String) (g : Grant) : Prop where
  entitlement : g.entitlement.IsWellFormed
  identity : g.identity.IsUnmarked
  named : g.identity ≠ .role ""
  tlsOption_line : '\n' ∉ g.tlsOption.toList
  tlsOption_startsInk : StartsInk g.tlsOption.toList
  tlsOption_empty : Row.LacksRequire row.toList → g.tlsOption = ""

namespace Row

/-! What is held on an object. -/

theorem splitReference_names (reference : List Char) :
    EndsOutside isNameMark (splitReference reference).1 ∧
      ∀ name ∈ (splitReference reference).2, EndsOutside isNameMark name := by
  unfold splitReference
  rcases cutAtDot false reference with ⟨database, _ | name⟩ <;> simp [endsOutside_strip]

theorem table?_names {s who : List Char} {object : Object} (h : table? s = some (object, who)) :
    ∀ name ∈ object.names, EndsOutside isNameMark name := by
  obtain ⟨_, reference, _, -, rfl, -⟩ := table?_eq_some.mp h
  obtain ⟨hdatabase, hname⟩ := splitReference_names reference
  rw [tableOf, Object.names]
  cases hcut : (splitReference reference).2 with
  | none => simp [hdatabase, endsOutside_empty]
  | some name => simp [hdatabase, hname name hcut]

theorem routine?_names {s who : List Char} {object : Object}
    (h : routine? s = some (object, who)) :
    ∀ name ∈ object.names, EndsOutside isNameMark name := by
  obtain ⟨_, kind, _, reference, _, -, rfl, -⟩ := routine?_eq_some.mp h
  obtain ⟨hdatabase, hname⟩ := splitReference_names reference
  rw [routineOf, Object.names]
  cases hcut : (splitReference reference).2 with
  | none => simp [hdatabase]
  | some name => simp [hdatabase, hname name hcut]

theorem privileges?_isWellFormed {read : List Char → Option (Object × List Char)}
    (hread : ∀ {s who object}, read s = some (object, who) →
      ∀ name ∈ object.names, EndsOutside isNameMark name)
    {s who : List Char} {entitlement : Entitlement}
    (h : privileges? read s = some (entitlement, who)) : entitlement.IsWellFormed := by
  have hcanonical := isCanonical_of_privileges? h
  obtain ⟨tokens, object, rest, rfl, -, hrest⟩ := privileges?_object h
  refine ⟨hcanonical, fun husage => ?_, hread hrest⟩
  rw [← show Privilege.canonicalize tokens = tokens from hcanonical] at husage
  exact Privilege.ne_usage_of_mem_canonicalize husage rfl

/-! Membership in roles. -/

theorem roleList?_chars {place : RolePlace} {s list rest : List Char}
    (h : roleList? place s = some (list, rest)) :
    ∀ c ∈ list, isRoleChar c = true ∨ c = ',' ∨ isBlank c = true := by
  induction s generalizing place list with
  | nil =>
    rw [roleList?] at h
    split at h <;> cases h
    simp
  | cons c s ih =>
    have hgrown : ∀ {next : RolePlace}, (roleList? next s).map (grow c) = some (list, rest) →
        (isRoleChar c = true ∨ c = ',' ∨ isBlank c = true) →
          ∀ d ∈ list, isRoleChar d = true ∨ d = ',' ∨ isBlank d = true := by
      intro next hnext hc
      obtain ⟨⟨taken, left⟩, htaken, hgrow⟩ := Option.map_eq_some_iff.mp hnext
      cases hgrow
      exact List.forall_mem_cons.mpr ⟨hc, ih htaken⟩
    rw [roleList?] at h
    -- A character of a role, a comma or a blank lengthens the list. It ends at any other.
    split at h
    next hrole => exact hgrown h (Or.inl (Bool.and_eq_true_iff.mp hrole).1)
    split at h
    next hcomma =>
      exact hgrown h (Or.inr (Or.inl (of_decide_eq_true (Bool.and_eq_true_iff.mp hcomma).1)))
    split at h
    next hblank => exact hgrown h (Or.inr (Or.inr (Bool.and_eq_true_iff.mp hblank).1))
    split at h
    next hblank => exact hgrown h (Or.inr (Or.inr (Bool.and_eq_true_iff.mp hblank).1))
    split at h <;> cases h
    simp

theorem not_parenthesis_of_roleList? {place : RolePlace} {s list rest : List Char}
    (h : roleList? place s = some (list, rest)) : '(' ∉ list ∧ ')' ∉ list := by
  have hchars := roleList?_chars h
  exact ⟨fun hopen => absurd (hchars _ hopen) (by decide),
    fun hclose => absurd (hchars _ hclose) (by decide)⟩

theorem membership?_isWellFormed {s who : List Char} {entitlement : Entitlement}
    (h : membership? s = some (entitlement, who)) : entitlement.IsWellFormed := by
  have hcanonical := isCanonical_of_membership? h
  obtain ⟨_, list, _, -, rfl, -, -, hlist, -⟩ := membership?_eq_some.mp h
  obtain ⟨hopen, hclose⟩ := not_parenthesis_of_roleList? hlist
  refine ⟨hcanonical, fun role hrole => ?_⟩
  obtain ⟨item, hitem, rfl⟩ := List.mem_map.mp hrole
  obtain ⟨hcomma, hwithin⟩ := not_mem_of_mem_splitOn hitem
  refine ⟨fun c hc => ?_, endsOutside_strip isRoleMark item⟩
  rw [String.toList_ofList] at hc
  obtain ⟨front, behind, hsplit, -⟩ := strip_split isRoleMark item
  have hc : c ∈ item := by
    rw [hsplit]
    exact List.mem_append_right front (List.mem_append_left behind hc)
  exact ⟨fun heq => hcomma (heq ▸ hc), fun heq => hopen (heq ▸ hwithin c hc),
    fun heq => hclose (heq ▸ hwithin c hc)⟩

theorem entitlement?_isWellFormed {s who : List Char} {entitlement : Entitlement}
    (h : entitlement? s = some (entitlement, who)) : entitlement.IsWellFormed := by
  rcases Option.or_eq_some_iff.mp h with hmember | ⟨-, hprivileges⟩
  · exact membership?_isWellFormed hmember
  rcases Option.or_eq_some_iff.mp hprivileges with hroutine | ⟨-, htable⟩
  · exact privileges?_isWellFormed routine?_names hroutine
  · exact privileges?_isWellFormed table?_names htable

/-! The requirement. -/

theorem requirement_line (s : List Char) : '\n' ∉ requirement s := by
  rw [requirement_eq]
  intro h
  simpa using List.mem_takeWhile_imp h

theorem requirement_startsInk (s : List Char) : StartsInk (requirement s) := by
  rw [requirement_eq]
  cases hclause : clause? s with
  | none => simp [StartsInk]
  | some clause =>
    obtain ⟨_, -, -, hink⟩ := clause?_behind_gap hclause
    intro c hc
    rw [Option.getD_some, List.head?_takeWhile] at hc
    exact hink c (Option.filter_eq_some_iff.mp hc).1

theorem trim_within (s : List Char) : trim s <:+: s := by
  obtain ⟨front, behind, hsplit, -⟩ := strip_split isBlank s
  exact ⟨front, behind, by rw [List.append_assoc]; exact hsplit.symm⟩

theorem grant?_isWellFormed {row : String} {g : Grant} (h : grant? (trim row.toList) = some g) :
    g.IsWellFormed row := by
  obtain ⟨s, who, -, hread, hidentity, -, hrequirement⟩ := grant?_eq_some.mp h
  obtain ⟨hnamed, -⟩ := identity?_stands hidentity
  have htls : g.tlsOption.toList = requirement (trim row.toList) := by
    rw [← hrequirement, String.toList_ofList]
  refine ⟨entitlement?_isWellFormed hread, isUnmarked_of_identity? hidentity, hnamed, ?_, ?_, ?_⟩
  · rw [htls]
    exact requirement_line _
  · rw [htls]
    exact requirement_startsInk _
  · intro hlacks
    have hnone := (requirement_eq_nil (endsInk_trim row.toList)).mpr
      (hlacks.within (trim_within row.toList))
    rw [← hrequirement, hnone, String.ofList_nil]

end Row

/-- A reading of a row that keeps what is promised of every row. -/
structure Row.Conforms (row : String) (result : Except Problem Row) : Prop where
  revoke_iff : result = .ok .partialRevoke ↔ "REVOKE".toList <+: trim row.toList
  problem : ∀ problem, result = .error problem →
    problem = .unreadable (String.ofList (trim row.toList))
  grant : ∀ g, result = .ok (.grant g) → g.IsWellFormed row

/-- The word in front of the name of a routine always names a kind. -/
theorem RoutineKind.ofName_sql (kind : RoutineKind) : RoutineKind.ofName kind.sql = .ok kind := by
  cases kind <;> rfl

/-- Whatever the text of a row, its reading keeps what is promised, and no word for a kind of routine
that is taken from it is refused. -/
theorem Row.parse_conforms (row : String) :
    Row.Conforms row (Row.parse row) ∧
      ∀ s kind rest, Row.routineKind? s = some (kind, rest) →
        ∃ word : String, s = word.toList ++ rest ∧ RoutineKind.ofName word = .ok kind := by
  refine ⟨⟨Row.parse_eq_partialRevoke, fun _ => Row.problem_of_parse, fun g hparse => ?_⟩, ?_⟩
  · exact Row.grant?_isWellFormed (Row.parse_eq_grant hparse).2
  · intro s kind rest hkind
    exact ⟨kind.sql, Row.routineKind?_eq_some.mp hkind, kind.ofName_sql⟩

end AccountGrants
