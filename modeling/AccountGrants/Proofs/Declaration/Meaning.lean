import AccountGrants.Proofs.Declaration.Domain

/-!
What a declaration stands for, whatever its fields hold. Its holder is read off three fields
(`IsHolder`), what is held off the others (`Declares`), and a declaration fails only where no holder
is named: `Declaration.toGrant_exact`. The word of a kind is recognized in any letter case of ASCII
and named by its upper case, and the two never disagree.
-/

namespace AccountGrants

open Text

theorem RoutineKind.IsSpelled.ofName {kind : RoutineKind} {word : List Char}
    (h : kind.IsSpelled word) : RoutineKind.ofName (String.ofList word) = .ok kind := by
  have hascii : ∀ c ∈ kind.sql.toList.map Char.toLower, c.toNat < 128 := by
    cases kind <;> simp [RoutineKind.sql]
  have hcapitals : (kind.sql.toList.map Char.toLower).map Char.toUpper = kind.sql.toList := by
    cases kind <;> rfl
  have hupper : upper word = kind.sql.toList := by
    rw [← h] at hascii
    rw [upper_of_toLower hascii, h, hcapitals]
  rw [RoutineKind.ofName, String.toList_ofList, hupper, String.ofList_toList]
  cases kind <;> rfl

namespace Declaration

variable {d : Declaration}

/-! Who holds what is declared. -/

/-- The user of a login that is declared with its host. -/
def HasLogin (d : Declaration) (name : String) : Prop :=
  d.user = some name ∧ name ≠ "" ∧ d.host ≠ ""

/-- A role that is declared. -/
def HasRole (d : Declaration) (name : String) : Prop :=
  d.role = some name ∧ name ≠ ""

/-- The holder that a declaration names. A login comes before a role. -/
inductive IsHolder (d : Declaration) : Identity → Prop
  | login {name : String} (h : d.HasLogin name) : IsHolder d (.user name d.host)
  | role {name : String} (hlogin : ∀ user, ¬d.HasLogin user) (h : d.HasRole name) :
      IsHolder d (.role name)

theorem IsHolder.unique {identity other : Identity} (h : d.IsHolder identity)
    (hother : d.IsHolder other) : identity = other := by
  cases h with
  | login h =>
    cases hother with
    | login hother => rw [Option.some.inj (h.1.symm.trans hother.1)]
    | role hlogin _ => exact absurd h (hlogin _)
  | role hlogin h =>
    cases hother with
    | login hother => exact absurd hother (hlogin _)
    | role _ hother => rw [Option.some.inj (h.1.symm.trans hother.1)]

theorem holder_or_none (d : Declaration) :
    (∃ identity, d.IsHolder identity ∧ d.identity = .ok identity) ∨
      ((∀ name, ¬d.HasLogin name) ∧ (∀ name, ¬d.HasRole name) ∧
        d.identity = .error (.definition .noIdentity)) := by
  have hlogin : ∀ name, d.user.filter (fun user => user != "" && d.host != "") = some name ↔
      d.HasLogin name := by
    simp [Option.filter_eq_some_iff, HasLogin]
  have hrole : ∀ name, d.role.filter (· != "") = some name ↔ d.HasRole name := by
    simp [Option.filter_eq_some_iff, HasRole]
  unfold identity
  simp only [← hlogin, ← hrole]
  cases huser : d.user.filter (fun user => user != "" && d.host != "") with
  | some name => exact Or.inl ⟨.user name d.host, .login ((hlogin name).mp huser), rfl⟩
  | none =>
    cases hname : d.role.filter (· != "") with
    | some name =>
      refine Or.inl ⟨.role name, .role ?_ ((hrole name).mp hname), rfl⟩
      intro user h
      rw [(hlogin user).mpr h] at huser
      cases huser
    | none => exact Or.inr ⟨by simp, by simp, rfl⟩

theorem identity_eq_ok_iff {identity : Identity} :
    d.identity = .ok identity ↔ d.IsHolder identity := by
  rcases d.holder_or_none with ⟨holder, hholder, hread⟩ | ⟨hlogin, hrole, hread⟩
  · rw [hread, Except.ok.injEq]
    constructor
    · rintro rfl
      exact hholder
    · exact hholder.unique
  · rw [hread]
    refine iff_of_false (by simp) fun h => ?_
    cases h with
    | login h => exact hlogin _ h
    | role _ h => exact hrole _ h

theorem identity_eq_error_iff {problem : Problem} :
    d.identity = .error problem ↔ problem = .definition .noIdentity ∧
      (∀ name, ¬d.HasLogin name) ∧ ∀ name, ¬d.HasRole name := by
  rcases d.holder_or_none with ⟨holder, hholder, hread⟩ | ⟨hlogin, hrole, hread⟩
  · rw [hread]
    refine iff_of_false (by simp) ?_
    rintro ⟨-, hlogin, hrole⟩
    cases hholder with
    | login h => exact hlogin _ h
    | role _ h => exact hrole _ h
  · rw [hread, Except.error.injEq, eq_comm]
    exact (and_iff_left ⟨hlogin, hrole⟩).symm

/-! What is declared to be held. -/

/-- What a declaration gives: membership if it has any roles, and else privileges on a routine or a
table, as the text of its database says. -/
inductive Declares (d : Declaration) : Entitlement → Prop
  | membership {roles : List String} (hroles : d.roles = some roles) (hne : roles ≠ []) :
      Declares d (.membership roles)
  /-- A routine with its database in front of a dot. -/
  | routineOf {kind : RoutineKind} {word : List Char} {database name : String}
      (hroles : d.roles.getD [] = []) (hword : kind.IsSpelled word)
      (htext : d.database.toList = word ++ ' ' :: (database.toList ++ '.' :: name.toList))
      (hdatabase : '.' ∉ database.toList) (hname : '.' ∉ name.toList) :
      Declares d (.privileges (Privilege.canonicalize d.privileges) (.routine kind database name))
  /-- A database, whose routine is named in the field for tables. -/
  | routineIn {kind : RoutineKind} {word : List Char} {database : String}
      (hroles : d.roles.getD [] = []) (hword : kind.IsSpelled word)
      (htext : d.database.toList = word ++ ' ' :: database.toList)
      (hdatabase : '.' ∉ database.toList) :
      Declares d (.privileges (Privilege.canonicalize d.privileges) (.routine kind database d.table))
  | table (hroles : d.roles.getD [] = []) (htext : ¬ReadsAsRoutine d.database) :
      Declares d (.privileges (Privilege.canonicalize d.privileges) (.table d.database d.table))

theorem entitlement_of_roles {roles : List String} (hroles : d.roles = some roles)
    (hne : roles ≠ []) : d.entitlement = .membership roles := by
  simp [entitlement, hroles, hne, Option.filter]

theorem entitlement_of_no_roles (h : d.roles.getD [] = []) :
    d.entitlement = .privileges (Privilege.canonicalize d.privileges) d.target := by
  have hnone : d.roles.filter (· != []) = none := by
    cases hroles : d.roles with
    | none => rfl
    | some roles =>
      rw [hroles, Option.getD_some] at h
      simp [h, Option.filter]
  rw [entitlement, hnone]
  rfl

theorem Declares.eq {entitlement : Entitlement} (h : d.Declares entitlement) :
    d.entitlement = entitlement := by
  cases h with
  | membership hroles hne => exact entitlement_of_roles hroles hne
  | routineOf hroles hword htext hdatabase hname =>
    have hkind := ofKeyword?_eq_some_iff.mpr hword
    rw [entitlement_of_no_roles hroles, target, routineTarget?_of_keyword hkind htext,
      List.splitOn_append_cons_self, List.splitOn_eq_singleton hdatabase,
      List.splitOn_eq_singleton hname]
    simp
  | routineIn hroles hword htext hdatabase =>
    have hkind := ofKeyword?_eq_some_iff.mpr hword
    rw [entitlement_of_no_roles hroles, target, routineTarget?_of_keyword hkind htext,
      List.splitOn_eq_singleton hdatabase]
    simp
  | table hroles htext =>
    have hnone := (routineTarget?_eq_none d.database d.table).mpr
      (mt (namesRoutine_iff d.database).mp htext)
    rw [entitlement_of_no_roles hroles, target, hnone]
    rfl

/-- A text with one dot at most has none, or is cut in two by it. -/
theorem dot_cases {names : List Char} (h : names.count '.' ≤ 1) : '.' ∉ names ∨
    ∃ database name, names = database ++ '.' :: name ∧ '.' ∉ database ∧ '.' ∉ name := by
  by_cases hdot : '.' ∈ names
  · obtain ⟨database, name, rfl⟩ := List.append_of_mem hdot
    rw [List.count_append, List.count_cons_self] at h
    have hdatabase : database.count '.' = 0 := by omega
    have hname : name.count '.' = 0 := by omega
    exact Or.inr ⟨database, name, rfl, List.count_eq_zero.mp hdatabase, List.count_eq_zero.mp hname⟩
  · exact Or.inl hdot

theorem exists_declares (d : Declaration) : ∃ entitlement, d.Declares entitlement := by
  by_cases hroles : d.roles.getD [] = []
  · by_cases htext : ReadsAsRoutine d.database
    · obtain ⟨kind, word, names, hkind, hwhole, hdots⟩ := (namesRoutine_iff d.database).mpr htext
      have hword := ofKeyword?_eq_some_iff.mp hkind
      rcases dot_cases hdots with hdot | ⟨database, name, rfl, hdatabase, hname⟩
      · have hdeclared : d.Declares (.privileges (Privilege.canonicalize d.privileges)
            (.routine kind (String.ofList names) d.table)) :=
          .routineIn hroles hword (by simpa using hwhole) (by simpa using hdot)
        exact ⟨_, hdeclared⟩
      · have hdeclared : d.Declares (.privileges (Privilege.canonicalize d.privileges)
            (.routine kind (String.ofList database) (String.ofList name))) :=
          .routineOf hroles hword (by simpa using hwhole) (by simpa using hdatabase)
            (by simpa using hname)
        exact ⟨_, hdeclared⟩
    · exact ⟨_, .table hroles htext⟩
  · cases hlist : d.roles with
    | none => simp [hlist] at hroles
    | some roles =>
      rw [hlist, Option.getD_some] at hroles
      exact ⟨_, .membership hlist hroles⟩

theorem declares_iff {entitlement : Entitlement} :
    d.Declares entitlement ↔ d.entitlement = entitlement := by
  constructor
  · exact Declares.eq
  · rintro rfl
    obtain ⟨other, h⟩ := d.exists_declares
    rwa [h.eq]

/-- A declaration fails if and only if it names no holder, and with no other problem. Else its grant
is the one grant with this holder, what the fields declare, and both options as they are. Every
word that is taken for the keyword of a kind is the name of that kind. -/
theorem toGrant_exact (d : Declaration) :
    (∀ problem, d.toGrant = .error problem ↔ problem = .definition .noIdentity ∧
      (∀ name, ¬d.HasLogin name) ∧ ∀ name, ¬d.HasRole name) ∧
    (∀ g, d.toGrant = .ok g ↔ d.IsHolder g.identity ∧ d.Declares g.entitlement ∧
      g.grantOption = d.grantOption ∧ g.tlsOption = d.tlsOption) ∧
    ∀ (kind : RoutineKind) (word : List Char), kind.IsSpelled word →
      RoutineKind.ofName (String.ofList word) = .ok kind := by
  refine ⟨fun problem => ?_, fun g => ?_, fun kind word => RoutineKind.IsSpelled.ofName⟩
  · rw [← identity_eq_error_iff, toGrant]
    cases d.identity <;> simp [bind, Except.bind, pure, Except.pure]
  · rw [← identity_eq_ok_iff, declares_iff, toGrant]
    obtain ⟨entitlement, identity, grantOption, tlsOption⟩ := g
    cases d.identity with
    | error problem => simp [bind, Except.bind]
    | ok holder => simp [bind, Except.bind, pure, Except.pure, eq_comm, and_left_comm]

-- a letter that only upper case makes an I of stands in a name of the kind, but not in its keyword
example : RoutineKind.ofName "funct\u0131on" = .ok .function ∧
    routineTarget? "funct\u0131on shop" "total" = none := by decide +kernel

end Declaration

end AccountGrants
