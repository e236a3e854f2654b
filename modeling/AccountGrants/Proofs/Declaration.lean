import AccountGrants.Declaration
import AccountGrants.Proofs.Privilege.Canonical

/-!
Declarations of grants. The fields of a declaration have one text for the database of a table and
for a routine with its database, so not every object can be told from the text that is written for
it. `Declaration.toGrant_ofGrant` says which grants a declaration gives back.
-/

namespace AccountGrants

open Text

/-- An identity whose names are given. -/
def Identity.IsNamed : Identity → Prop
  | .user name host => name ≠ "" ∧ host ≠ ""
  | .role name => name ≠ ""

/-- A text that names a routine: the word of a kind, one space, and names with one dot at most. -/
def NamesRoutine (text : String) : Prop :=
  ∃ kind word names, RoutineKind.ofKeyword? word = some kind ∧
    text.toList = word ++ ' ' :: names ∧ names.count '.' ≤ 1

/-- An object whose text in a declaration stands for nothing else. -/
def Object.IsDeclarable : Object → Prop
  | .table database _ => ¬NamesRoutine database
  | .routine _ database name => '.' ∉ database.toList ∧ '.' ∉ name.toList

/-- A word that is the keyword of a kind in any letter case of ASCII. -/
def RoutineKind.IsSpelled (kind : RoutineKind) (word : List Char) : Prop :=
  word.map Char.toLower = kind.sql.toList.map Char.toLower

section Target

variable {kind : RoutineKind} {word names : List Char} {database table : String}

theorem ofKeyword?_eq_some_iff : RoutineKind.ofKeyword? word = some kind ↔ kind.IsSpelled word := by
  constructor
  · intro h
    unfold RoutineKind.ofKeyword? at h
    dsimp only at h
    split at h
    next hfunction =>
      cases h
      exact hfunction
    next =>
      split at h
      next hprocedure =>
        cases h
        exact hprocedure
      next => cases h
  · intro h
    unfold RoutineKind.ofKeyword?
    rw [h]
    cases kind <;> rfl

theorem not_space_of_ofKeyword? (h : RoutineKind.ofKeyword? word = some kind) : ' ' ∉ word := by
  intro hspace
  have hlower : ' ' ∈ word.map Char.toLower := List.mem_map.mpr ⟨' ', hspace, rfl⟩
  rw [ofKeyword?_eq_some_iff.mp h] at hlower
  revert hlower
  cases kind <;> decide

theorem span_space (h : ' ' ∉ word) (names : List Char) :
    (word ++ ' ' :: names).span (· != ' ') = (word, ' ' :: names) := by
  have hword := forall_bne h
  rw [List.span_eq_takeWhile_dropWhile, List.takeWhile_append_of_pos hword,
    List.dropWhile_append_of_pos hword]
  simp

/-- The routine behind the word of a kind, from the names between its dots. -/
theorem routineTarget?_of_keyword (hword : RoutineKind.ofKeyword? word = some kind)
    (hdatabase : database.toList = word ++ ' ' :: names) (table : String) :
    routineTarget? database table =
      match names.splitOn '.' with
      | [database] => some (.routine kind (String.ofList database) table)
      | [database, name] => some (.routine kind (String.ofList database) (String.ofList name))
      | _ => none := by
  rw [routineTarget?, hdatabase, span_space (not_space_of_ofKeyword? hword)]
  dsimp only
  generalize RoutineKind.ofKeyword? word = found at hword
  subst hword
  rfl

theorem routineTarget?_eq_some {object : Object} (h : routineTarget? database table = some object) :
    NamesRoutine database ∧ ∃ kind database name, object = .routine kind database name := by
  unfold routineTarget? at h
  rw [List.span_eq_takeWhile_dropWhile] at h
  dsimp only at h
  have hsplit := List.takeWhile_append_dropWhile (p := fun c => c != ' ') (l := database.toList)
  have hhead : ∀ c names, database.toList.dropWhile (· != ' ') = c :: names → c = ' ' := by
    intro c names hdrop
    have hfails := List.head?_dropWhile_not (fun c => c != ' ') database.toList
    simpa [hdrop] using hfails
  split at h
  next kind c names hword hrest =>
    obtain rfl := hhead c names hrest
    rw [hrest] at hsplit
    have hlength := length_splitOn '.' names
    split at h
    next hnames =>
      rw [hnames] at hlength
      cases h
      exact ⟨⟨kind, _, names, hword, hsplit.symm, by simp at hlength; omega⟩, _, _, _, rfl⟩
    next hnames =>
      rw [hnames] at hlength
      cases h
      exact ⟨⟨kind, _, names, hword, hsplit.symm, by simp at hlength; omega⟩, _, _, _, rfl⟩
    next => cases h
  next => cases h

theorem routineTarget?_eq_none (database table : String) :
    routineTarget? database table = none ↔ ¬NamesRoutine database := by
  constructor
  · rintro hnone ⟨kind, word, names, hword, hdatabase, hdots⟩
    rw [routineTarget?_of_keyword hword hdatabase] at hnone
    have hlength := length_splitOn '.' names
    rcases hsplit : names.splitOn '.' with _ | ⟨first, _ | ⟨second, _ | ⟨third, rest⟩⟩⟩ <;>
      rw [hsplit] at hnone hlength
    · simp at hlength
    · cases hnone
    · cases hnone
    · simp at hlength
      omega
  · intro hnames
    exact Option.eq_none_iff_forall_ne_some.mpr fun object hsome =>
      hnames (routineTarget?_eq_some hsome).1

end Target

namespace Declaration

/-- The object that a declaration of privileges is about. -/
def target (d : Declaration) : Object :=
  (routineTarget? d.database d.table).getD (.table d.database d.table)

theorem target_table (tokens : List String) (database name : String) :
    (ofEntitlement (.privileges tokens (.table database name))).target = .table database name ↔
      ¬NamesRoutine database := by
  rw [← routineTarget?_eq_none database name]
  change (routineTarget? database name).getD (.table database name) = .table database name ↔ _
  cases h : routineTarget? database name with
  | none => simp
  | some object =>
    obtain ⟨-, kind, other, routine, rfl⟩ := routineTarget?_eq_some h
    simp

theorem target_routine (tokens : List String) (kind : RoutineKind) (database name : String) :
    (ofEntitlement (.privileges tokens (.routine kind database name))).target =
      .routine kind database name ↔ '.' ∉ database.toList ∧ '.' ∉ name.toList := by
  have hword : RoutineKind.ofKeyword? kind.sql.toList = some kind := by
    cases kind <;> decide
  have htext : (kind.sql ++ " " ++ database ++ "." ++ name).toList =
      kind.sql.toList ++ ' ' :: (database.toList ++ '.' :: name.toList) := by
    simp
  change (routineTarget? (kind.sql ++ " " ++ database ++ "." ++ name) "").getD
    (.table (kind.sql ++ " " ++ database ++ "." ++ name) "") = _ ↔ _
  rw [routineTarget?_of_keyword hword htext, List.splitOn_append_cons_self]
  by_cases hdots : '.' ∉ database.toList ∧ '.' ∉ name.toList
  · rw [List.splitOn_eq_singleton hdots.1, List.splitOn_eq_singleton hdots.2]
    simp [hdots]
  · -- with more dots the text is that of a table
    refine iff_of_false (fun htarget => ?_) hdots
    have hlength : 2 < (database.toList.splitOn '.' ++ name.toList.splitOn '.').length := by
      rw [List.length_append, length_splitOn, length_splitOn]
      have hcount : 0 < database.toList.count '.' ∨ 0 < name.toList.count '.' := by
        rw [List.count_pos_iff, List.count_pos_iff]
        rwa [not_and_or, not_not, not_not] at hdots
      omega
    split at htarget
    next hsplit => simp [hsplit] at hlength
    next hsplit => simp [hsplit] at hlength
    next => cases htarget

theorem target_ofEntitlement (tokens : List String) (object : Object) :
    (ofEntitlement (.privileges tokens object)).target = object ↔ object.IsDeclarable := by
  cases object with
  | table database name => exact target_table tokens database name
  | routine kind database name => exact target_routine tokens kind database name

theorem entitlement_ofEntitlement_privileges (tokens : List String) (object : Object) :
    (ofEntitlement (.privileges tokens object)).entitlement = .privileges tokens object ↔
      Privilege.canonicalize tokens = tokens ∧ object.IsDeclarable := by
  have hread : (ofEntitlement (.privileges tokens object)).entitlement =
      .privileges (Privilege.canonicalize tokens)
        (ofEntitlement (.privileges tokens object)).target := by
    cases object <;> rfl
  rw [hread, ← target_ofEntitlement tokens object, Entitlement.privileges.injEq]

theorem entitlement_ofEntitlement_membership (roles : List String) :
    (ofEntitlement (.membership roles)).entitlement = .membership roles ↔ roles ≠ [] := by
  cases roles with
  | nil => exact iff_of_false (fun h => by cases h) (by simp)
  | cons role roles => exact iff_of_true rfl (by simp)

theorem identity_ofGrant (g : Grant) :
    (ofGrant g).identity = .ok g.identity ↔ g.identity.IsNamed := by
  have hrole : (ofEntitlement g.entitlement).role = none := by
    rcases g.entitlement with ⟨tokens, _ | _⟩ | roles <;> rfl
  have huser : (ofEntitlement g.entitlement).user = none := by
    rcases g.entitlement with ⟨tokens, _ | _⟩ | roles <;> rfl
  cases hid : g.identity with
  | user name host =>
    by_cases hnamed : name ≠ "" ∧ host ≠ ""
    · simp [ofGrant, identity, hid, Identity.IsNamed, hnamed, Option.filter]
    · have hunnamed : (name != "" && host != "") = false := by
        rw [Bool.eq_false_iff, ne_eq, Bool.and_eq_true, bne_iff_ne, bne_iff_ne]
        exact hnamed
      simp [ofGrant, identity, hid, Identity.IsNamed, hunnamed, hnamed, hrole, Option.filter]
  | role name =>
    by_cases hnamed : name = "" <;>
      simp [ofGrant, identity, hid, Identity.IsNamed, hnamed, huser, Option.filter]

/-- The declaration of a grant gives the grant back if its holder is named and what it gives can be
told from its fields. -/
theorem toGrant_ofGrant (g : Grant) : (ofGrant g).toGrant = .ok g ↔
    g.identity.IsNamed ∧ (ofEntitlement g.entitlement).entitlement = g.entitlement := by
  have hentitlement : (ofGrant g).entitlement = (ofEntitlement g.entitlement).entitlement := by
    unfold ofGrant
    cases g.identity <;> rfl
  have hgrantOption : (ofGrant g).grantOption = g.grantOption := by
    unfold ofGrant
    cases g.identity <;> rfl
  have htlsOption : (ofGrant g).tlsOption = g.tlsOption := by
    unfold ofGrant
    cases g.identity <;> rfl
  rw [← identity_ofGrant, toGrant, hentitlement, hgrantOption, htlsOption]
  cases (ofGrant g).identity with
  | error problem => simp [bind, Except.bind]
  | ok identity =>
    obtain ⟨entitlement, holder, grantOption, tlsOption⟩ := g
    simp [bind, Except.bind, pure, Except.pure, and_comm]

end Declaration

end AccountGrants
