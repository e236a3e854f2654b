import AccountGrants.Proofs.Grant.Layout
import AccountGrants.Proofs.Privilege.Canonical
import AccountGrants.Proofs.Session.Refusal

/-!
What the statements of a declared grant name. A creation executes the statement of its grant and a
deletion the revocation, both with the list that is declared. The list is written whether or not
anything is left in it: `Declaration.applied_names_some_iff` says which declarations fill it.
-/

namespace AccountGrants

open Text

/-- A text that names something: there is more to it than white space and commas. -/
def NamesSome (s : List Char) : Prop :=
  ∃ c ∈ s, c.isWhitespace = false ∧ c ≠ ','

theorem namesSome_append {s t : List Char} : NamesSome (s ++ t) ↔ NamesSome s ∨ NamesSome t := by
  simp only [NamesSome, List.mem_append, or_and_right, exists_or]

/-- A list names something exactly if one of its items does. -/
theorem namesSome_commaList {items : List (List Char)} :
    NamesSome (commaList items) ↔ ∃ item ∈ items, NamesSome item := by
  constructor
  · rintro ⟨c, hc, hink, hcomma⟩
    rcases mem_commaList hc with rfl | rfl | ⟨item, hitem, hc⟩
    · exact absurd rfl hcomma
    · cases hink
    · exact ⟨item, hitem, c, hc, hink, hcomma⟩
  · rintro ⟨item, hitem, hnames⟩
    induction items with
    | nil => cases hitem
    | cons first items ih =>
      by_cases hnil : items = []
      · rw [hnil, List.mem_singleton] at hitem
        rwa [hnil, commaList_singleton, ← hitem]
      · rw [commaList_cons hnil, namesSome_append]
        rcases List.mem_cons.mp hitem with rfl | hitem
        · exact Or.inl hnames
        · obtain ⟨c, hc, hink⟩ := ih hitem
          exact Or.inr ⟨c, by simp [hc], hink⟩

namespace Privilege

/-- A privilege that a list of privileges names: not USAGE in any spelling, and something behind
the padding. -/
def IsNamed (privilege : String) : Prop :=
  String.ofList (upper (bare privilege.toList)) ≠ usage ∧ NamesSome (bare privilege.toList)

theorem isMark_comma : IsMark ',' := isMark_of_ascii (by decide) rfl

/-- Upper case leaves something to name exactly where there was something. -/
theorem namesSome_upper {s : List Char} : NamesSome (upper s) ↔ NamesSome s := by
  constructor
  · rintro ⟨d, hd, hink, hcomma⟩
    obtain ⟨c, hc, hupper⟩ := List.mem_flatMap.mp hd
    refine ⟨c, hc, Bool.eq_false_iff.mpr fun hblank => ?_, ?_⟩
    · rw [(isMark_of_isWhitespace hblank).fixed, List.mem_singleton] at hupper
      rw [hupper, hblank] at hink
      cases hink
    · rintro rfl
      rw [isMark_comma.fixed, List.mem_singleton] at hupper
      exact hcomma hupper
  · rintro ⟨c, hc, hink, hcomma⟩
    obtain ⟨d, hd⟩ := List.exists_mem_of_ne_nil _ (upperChar_ne_nil c)
    refine ⟨d, List.mem_flatMap.mpr ⟨c, hc, hd⟩, Bool.eq_false_iff.mpr fun hblank => ?_, ?_⟩
    · rw [(isMark_of_isWhitespace hblank).mem_upperChar.mp hd, hblank] at hink
      cases hink
    · rintro rfl
      exact hcomma (isMark_comma.mem_upperChar.mp hd)

/-- The canonical spelling is the one of USAGE, and names something, as the bare text does. -/
theorem canonical_isNamed {privilege : String} :
    canonical privilege ≠ usage ∧ NamesSome (canonical privilege).toList ↔ IsNamed privilege := by
  rw [canonical_eq, IsNamed]
  generalize bare privilege.toList = s
  unfold spelling
  cases hcolumns : columnList? s with
  | some found =>
    obtain ⟨name, columns⟩ := found
    obtain ⟨-, -, rfl⟩ := columnList?_eq_some.mp hcolumns
    have hopen : ∀ front behind : List Char, NamesSome (front ++ '(' :: behind) :=
      fun front behind => ⟨'(', by simp, rfl, by decide⟩
    have hupper : '(' ∈ upper (name ++ '(' :: (columns ++ [')'])) :=
      isMark_open.mem_upper.mpr (by simp)
    refine iff_of_true ⟨fun h => ?_, ?_⟩ ⟨fun h => ?_, hopen _ _⟩
    · have hmem : '(' ∈ usage.toList := by rw [← h]; simp
      revert hmem
      decide
    · simpa using hopen (upper name) _
    · have hmem : '(' ∈ usage.toList := by rw [← h]; simpa using hupper
      revert hmem
      decide
  | none =>
    dsimp only
    rw [expandAll]
    split
    next hall =>
      have hnames : NamesSome (upper s) := by
        have hword : ∀ word ∈ ["ALL", "ALLPRIVILEGES"], NamesSome word.toList := by
          intro word hword
          refine ⟨'A', ?_, rfl, by decide⟩
          revert word
          decide
        have hspelled := hword (String.ofList (upper s)) (by simpa using hall)
        rwa [String.toList_ofList] at hspelled
      refine iff_of_true ⟨by decide, 'A', by decide, rfl, by decide⟩ ⟨?_, namesSome_upper.mp hnames⟩
      rintro husage
      rw [husage] at hall
      revert hall
      decide
    next => rw [String.toList_ofList, namesSome_upper]

/-- A canonical list names something exactly if the list it is made of has a privilege to name. -/
theorem namesSome_canonicalize {privileges : List String} :
    (∃ token ∈ canonicalize privileges, NamesSome token.toList) ↔
      ∃ privilege ∈ privileges, IsNamed privilege := by
  simp only [canonicalize, List.mem_filter, List.mem_map, bne_iff_ne, ← canonical_isNamed]
  constructor
  · rintro ⟨_, ⟨⟨privilege, hmem, rfl⟩, husage⟩, hnames⟩
    exact ⟨privilege, hmem, husage, hnames⟩
  · rintro ⟨privilege, hmem, husage, hnames⟩
    exact ⟨_, ⟨⟨privilege, hmem, rfl⟩, husage⟩, hnames⟩

end Privilege

namespace Grant

/-- What stands behind the list of a revocation: the object, where there is one, the identity, and
the option that goes with privileges. -/
def formerHolder (g : Grant) : List Char :=
  match g.entitlement with
  | .privileges _ object =>
    "ON".toList ++ ' ' :: (object.sql.toList ++ ' ' :: ("FROM".toList ++
      ' ' :: (g.identity.sql.toList ++ (grantOptionClause g.grantOption).toList)))
  | .membership _ => "FROM".toList ++ ' ' :: g.identity.sql.toList

theorem toList_revocation (g : Grant) :
    g.revocation.toList =
      "REVOKE".toList ++ ' ' :: (g.entitlement.list ++ ' ' :: g.formerHolder) := by
  unfold revocation formerHolder Entitlement.list
  cases g.entitlement with
  | privileges tokens object =>
    simp [revokePrivileges, Entitlement.sql, Entitlement.items, Privilege.toList_join]
  | membership roles => simp [Entitlement.sql, Entitlement.items, commaList]

/-- A statement about a grant with a list between its first word and ON, TO or FROM. -/
inductive Lists (g : Grant) (list : List Char) : String → Prop
  | grant {sql : String} (h : sql.toList =
      "GRANT".toList ++ ' ' :: (list ++ ' ' :: (g.holder ++ g.clauses))) : Lists g list sql
  | revoke {sql : String} (h : sql.toList =
      "REVOKE".toList ++ ' ' :: (list ++ ' ' :: g.formerHolder)) : Lists g list sql

theorem lists_statement (g : Grant) : g.Lists g.entitlement.list g.statement :=
  .grant (by rw [toList_statement, body]; simp)

theorem lists_revocation (g : Grant) : g.Lists g.entitlement.list g.revocation :=
  .revoke (toList_revocation g)

theorem eq_list_of_lists_revocation {g : Grant} {list : List Char} (h : g.Lists list g.revocation) :
    list = g.entitlement.list := by
  cases h with
  | grant h =>
    rw [toList_revocation] at h
    cases h
  | revoke h =>
    rw [toList_revocation] at h
    simpa using h.symm

end Grant

/-- An exchange after another in which no statement but `sql` was executed in between. -/
def Exchange.ExecutedOnly (sql : String) (x y : Exchange) : Prop :=
  ∃ made, y.attempts = x.attempts ++ made ∧
    ∀ a ∈ made, ∀ other, a.call = .execute other → other = sql

namespace Exchange.ExecutedOnly

variable {sql : String}

theorem of_asked {x y : Exchange} (h : Asked x y) : ExecutedOnly sql x y := by
  obtain ⟨made, hmade, hquiet⟩ := h.attempts
  exact ⟨made, hmade, fun a ha other hcall => absurd hcall (hquiet a ha other)⟩

theorem trans (x y z : Exchange) (hxy : ExecutedOnly sql x y) (hyz : ExecutedOnly sql y z) :
    ExecutedOnly sql x z := by
  obtain ⟨first, hfirst, honlyFirst⟩ := hxy
  obtain ⟨second, hsecond, honlySecond⟩ := hyz
  refine ⟨first ++ second, by rw [hsecond, hfirst, List.append_assoc], fun a ha => ?_⟩
  rcases List.mem_append.mp ha with ha | ha
  · exact honlyFirst a ha
  · exact honlySecond a ha

theorem execute (x : Exchange) : ExecutedOnly sql x (x.execute sql).2 := by
  refine ⟨[⟨.execute sql, x.script.executes.head?.join⟩], rfl, fun a ha other hcall => ?_⟩
  rw [List.mem_singleton.mp ha] at hcall
  exact (Call.execute.inj hcall).symm

end Exchange.ExecutedOnly

namespace Reconcile

open Exchange

theorem execute_executes (sql : String) : (execute sql).Moves (ExecutedOnly sql) := by
  intro x
  rw [on_execute]
  exact ExecutedOnly.execute x

theorem createUnlessConflict_executes (g : Grant) :
    (createUnlessConflict g).Moves (ExecutedOnly g.statement) := by
  intro x
  have hasked : ExecutedOnly g.statement x ((hasConflict g).on x).2 :=
    .of_asked (hasConflict_asks g x)
  rw [on_createUnlessConflict]
  rcases hc : (hasConflict g).on x with ⟨f | _ | _, y⟩ <;> rw [hc] at hasked
  · exact hasked
  · exact ExecutedOnly.trans _ _ _ hasked (execute_executes g.statement y)
  · exact hasked

/-- A creation executes nothing but the statement of its grant. -/
theorem create_executes (g : Grant) : (create g).Moves (ExecutedOnly g.statement) := by
  rw [create_eq]
  split
  · refine Action.Moves.bind ExecutedOnly.trans (fun x => ?_) fun _ =>
      createUnlessConflict_executes g
    exact ExecutedOnly.of_asked (requireRoles_asks x)
  · exact createUnlessConflict_executes g

theorem delete_attempts (g : Grant) (x : Exchange) :
    ((delete g).on x).2.attempts =
      x.attempts ++ [⟨.execute g.revocation, x.script.executes.head?.join⟩] := by
  rw [on_delete]
  cases he : x.script.executes.head?.join with
  | none => simp [Exchange.execute, Exchange.record, he]
  | some e =>
    dsimp only
    split <;> simp [Exchange.execute, Exchange.record, Exchange.notify, he]

end Reconcile

/-- A statement that is executed when a grant is created or deleted in an exchange. -/
def Grant.Executes (g : Grant) (x : Exchange) (sql : String) : Prop :=
  ∃ made error, ⟨.execute sql, error⟩ ∈ made ∧
    (((Reconcile.create g).on x).2.attempts = x.attempts ++ made ∨
      ((Reconcile.delete g).on x).2.attempts = x.attempts ++ made)

theorem Grant.Executes.eq {g : Grant} {x : Exchange} {sql : String} (h : g.Executes x sql) :
    sql = g.statement ∨ sql = g.revocation := by
  obtain ⟨made, error, hmem, hcreate | hdelete⟩ := h
  · obtain ⟨made', hmade', honly⟩ := Reconcile.create_executes g x
    rw [hmade', List.append_cancel_left_eq] at hcreate
    exact Or.inl (honly _ (hcreate ▸ hmem) sql rfl)
  · rw [Reconcile.delete_attempts, List.append_cancel_left_eq] at hdelete
    rw [← hdelete, List.mem_singleton] at hmem
    exact Or.inr (Call.execute.inj (congrArg Attempt.call hmem))

namespace Declaration

/-- A declaration with something to hold: one of its roles, or one of its privileges where it has
no roles. -/
def HoldsSome (d : Declaration) : Prop :=
  match d.roles.filter (· != []) with
  | some roles => ∃ role ∈ roles, NamesSome role.toList
  | none => ∃ privilege ∈ d.privileges, Privilege.IsNamed privilege

theorem namesSome_entitlement {d : Declaration} :
    NamesSome d.entitlement.list ↔ d.HoldsSome := by
  unfold entitlement HoldsSome Entitlement.list
  cases d.roles.filter (· != []) with
  | some roles => simp [namesSome_commaList, Entitlement.items]
  | none =>
    rw [namesSome_commaList, ← Privilege.namesSome_canonicalize]
    simp [Entitlement.items]

theorem entitlement_of_toGrant {d : Declaration} {g : Grant} (h : d.toGrant = .ok g) :
    g.entitlement = d.entitlement := by
  unfold toGrant at h
  cases hidentity : d.identity with
  | error problem =>
    rw [hidentity] at h
    cases h
  | ok identity =>
    rw [hidentity] at h
    cases h
    rfl

/-- Whatever a creation or a deletion of a declared grant executes names a privilege or a role,
exactly if the declaration does. -/
theorem applied_names_some_iff {d : Declaration} {g : Grant} (h : d.toGrant = .ok g) :
    (∀ x sql, g.Executes x sql → ∃ list, g.Lists list sql ∧ NamesSome list) ↔
      d.HoldsSome := by
  rw [← namesSome_entitlement, ← entitlement_of_toGrant h]
  constructor
  · intro hall
    obtain ⟨list, hlists, hnames⟩ := hall ⟨⟨[], "", false⟩, {}, [], []⟩ g.revocation
      ⟨_, none, List.mem_singleton_self _, Or.inr (Reconcile.delete_attempts g _)⟩
    rwa [Grant.eq_list_of_lists_revocation hlists] at hnames
  · intro hnames x sql hexecutes
    rcases hexecutes.eq with rfl | rfl
    · exact ⟨_, g.lists_statement, hnames⟩
    · exact ⟨_, g.lists_revocation, hnames⟩

/-- A declaration of a privilege in a spelling of its own. -/
def reporting : Declaration where
  user := some "bob"
  host := "%"
  database := "app"
  privileges := ["usage", "`select`"]
  tlsOption := ""

theorem reporting_applied_names_some : ∃ g, reporting.toGrant = .ok g ∧
    ∀ x sql, g.Executes x sql → ∃ list, g.Lists list sql ∧ NamesSome list :=
  ⟨⟨.privileges ["SELECT"] (.table "app" "*"), .user "bob" "%", false, ""⟩, rfl,
    (applied_names_some_iff (d := reporting) rfl).mpr
      ⟨"`select`", by decide, by decide +kernel, 's', by decide, rfl, by decide⟩⟩

/-- A declaration of nothing but the name for no privilege. -/
def idle : Declaration where
  user := some "bob"
  host := "%"
  database := "app"
  privileges := ["usage"]
  tlsOption := ""

theorem idle_applied_names_none : ∃ g, idle.toGrant = .ok g ∧
    ((Reconcile.create g).on { server := ⟨[], "8.0.32", true⟩, script := {} }).2.attempts =
      [⟨.query "SHOW GRANTS FOR 'bob'@'%'", none⟩,
        ⟨.execute "GRANT  ON `app`.* TO 'bob'@'%'", none⟩] ∧
    ((Reconcile.delete g).on { server := ⟨[], "8.0.32", true⟩, script := {} }).2.attempts =
      [⟨.execute "REVOKE  ON `app`.* FROM 'bob'@'%'", none⟩] ∧
    g.Lists [] "GRANT  ON `app`.* TO 'bob'@'%'" ∧ g.Lists [] "REVOKE  ON `app`.* FROM 'bob'@'%'" :=
  ⟨⟨.privileges [] (.table "app" "*"), .user "bob" "%", false, ""⟩, rfl, rfl, rfl,
    .grant rfl, .revoke rfl⟩

end Declaration

end AccountGrants
