import AccountGrants.Proofs.Grant.RoundTrip
import AccountGrants.Proofs.Row.Divider

/-!
What the name of a table does to the reading of its statement. The reference to the table is read as
a whole, whatever blanks, dots and words the name holds. Still the option and the requirement are
looked for in the whole row, the name included, so two tables are read alike up to what their names
say there (`Grant.parse_onTable`).
-/

namespace AccountGrants

open Text

/-- Text without blanks and without marks, such as letters and digits. -/
def IsLabel (name : List Char) : Prop :=
  ∀ c ∈ name, isBlank c = false ∧ isNameMark c = false

theorem IsLabel.unmarked {name : List Char} (h : IsLabel name) :
    ∀ c ∈ name, isNameMark c = false :=
  fun c hc => (h c hc).2

/-- A name that holds ON, the keyword of a kind, a reference and TO, with blanks around each. Such a
name is itself taken for the object of a grant on a routine. -/
def MentionsRoutine (name : List Char) : Prop :=
  ∃ (before : List Char) (blank : Char) (gap : List Char) (kind : RoutineKind)
    (gap' reference mid behind : List Char),
    name = before ++ blank :: ("ON".toList ++ (gap ++ (kind.sql.toList ++
      (gap' ++ (reference ++ (mid ++ behind)))))) ∧
    isBlank blank = true ∧ IsGap gap ∧ IsGap gap' ∧ Row.IsReference reference ∧ Row.IsTo mid

/-- A name that a table can be given so that its grant is read as one on a table. -/
structure IsTableName (name : List Char) : Prop where
  ne_nil : name ≠ []
  line : '\n' ∉ name
  unmarked : ∀ c ∈ name, isNameMark c = false
  noRoutine : ¬MentionsRoutine name

/-- At least one privilege, on an object in a database that is a label. -/
def Entitlement.IsLabelled : Entitlement → Prop
  | .privileges tokens object =>
    tokens ≠ [] ∧ (∀ token ∈ tokens, IsToken token.toList) ∧ IsLabel object.database.toList
  | .membership _ => False

/-- An identity whose names are labels. That of a role is not empty. -/
def Identity.IsLabelled : Identity → Prop
  | .user name host => IsLabel name.toList ∧ IsLabel host.toList
  | .role name => IsLabel name.toList ∧ name ≠ ""

theorem Identity.IsLabelled.sql_char {identity : Identity} (h : identity.IsLabelled) :
    ∀ c ∈ identity.sql.toList, isBlank c = false ∧ c ≠ backTick := by
  have hname : ∀ {name : String}, IsLabel name.toList →
      ∀ c ∈ (singleQuoted name).toList, isBlank c = false ∧ c ≠ backTick := by
    intro name hlabel c hc
    simp only [toList_singleQuoted, List.mem_cons, List.mem_append, List.not_mem_nil,
      or_false] at hc
    rcases hc with rfl | hc | rfl
    · exact ⟨rfl, by decide⟩
    · exact ⟨(hlabel c hc).1, fun htick => backTick_not_mem hlabel.unmarked (htick ▸ hc)⟩
    · exact ⟨rfl, by decide⟩
  intro c hc
  cases identity with
  | user name host =>
    have hat : "@".toList = ['@'] := rfl
    simp only [Identity.sql, String.toList_append, hat, List.mem_append, List.mem_singleton] at hc
    rcases hc with (hc | rfl) | hc
    · exact hname h.1 c hc
    · exact ⟨rfl, by decide⟩
    · exact hname h.2 c hc
  | role name => exact hname h.1 c hc

theorem Identity.IsLabelled.isUnmarked {identity : Identity} (h : identity.IsLabelled) :
    identity.IsUnmarked := by
  have hname : ∀ {name : List Char}, IsLabel name →
      ∀ c ∈ name, Row.isIdentityMark c = false := by
    intro name hlabel c hc
    have hmark := hlabel.unmarked c hc
    simp only [isNameMark, Bool.or_eq_false_iff] at hmark
    simp [Row.isIdentityMark, hmark]
  cases identity with
  | user name host => exact ⟨hname h.1, hname h.2⟩
  | role name => exact hname h.1

theorem ink_quoteDatabase {database : String} (h : IsLabel database.toList) :
    ∀ c ∈ (quoteDatabase database).toList, isBlank c = false := by
  intro c hc
  rw [quoteDatabase_of_unmarked h.unmarked] at hc
  split at hc
  next =>
    cases List.mem_singleton.mp hc
    rfl
  next =>
    simp only [toList_backTicked, List.mem_cons, List.mem_append, List.not_mem_nil,
      or_false] at hc
    rcases hc with rfl | hc | rfl
    · rfl
    · exact (h c hc).1
    · rfl

/-- The reference to a table up to the name of the table. -/
def databaseReference (database : String) : List Char :=
  "ON".toList ++ ' ' :: ((quoteDatabase database).toList ++ ['.'])

section DatabaseReference

variable {database : String}

theorem kind_not_head {kind : RoutineKind} {c : Char} {s : List Char} (hc : c ≠ 'F' ∧ c ≠ 'P') :
    ¬kind.sql.toList <+: c :: s := by
  intro hopens
  cases kind with
  | procedure =>
    have hword : RoutineKind.procedure.sql.toList = 'P' :: "ROCEDURE".toList := rfl
    rw [hword, List.cons_prefix_cons] at hopens
    exact hc.2 hopens.1.symm
  | function =>
    have hword : RoutineKind.function.sql.toList = 'F' :: "UNCTION".toList := rfl
    rw [hword, List.cons_prefix_cons] at hopens
    exact hc.1 hopens.1.symm

theorem noKind_databaseReference (h : IsLabel database.toList) {kind : RoutineKind} {s : List Char}
    (hs : Row.NoKind kind s) : Row.NoKind kind (' ' :: (databaseReference database ++ s)) := by
  have hdot : Row.NoKind kind ('.' :: s) := hs.cons fun hblank => by cases hblank
  have hquoted := hdot.ink_append (ink_quoteDatabase h)
  have hspace : Row.NoKind kind (' ' :: ((quoteDatabase database).toList ++ '.' :: s)) := by
    obtain ⟨c, rest, hhead, hc⟩ := head_quoteDatabase h.unmarked
    refine hquoted.cons fun _ => ?_
    rw [hhead]
    rcases hc with rfl | rfl
    · exact kind_not_head (by decide)
    · exact kind_not_head (by decide)
  have hon : ∀ c ∈ "ON".toList, isBlank c = false := forall_eq_false rfl
  have hword := (hspace.ink_append hon).cons (c := ' ') fun _ => kind_not_head (by decide)
  simpa [databaseReference] using hword

theorem noRequire_databaseReference (h : IsLabel database.toList) :
    Row.NoRequire (databaseReference database) := by
  have hink : ∀ c ∈ (quoteDatabase database).toList ++ ['.'], isBlank c = false := by
    intro c hc
    rcases List.mem_append.mp hc with hc | hc
    · exact ink_quoteDatabase h c hc
    · cases List.mem_singleton.mp hc
      rfl
  refine (Row.noRequire_of_lacks (by decide)).append_space
    (Row.noRequire_of_ink hink fun hword => ?_)
  have hnil := suffix_append_cons (by decide) hword
  cases List.suffix_nil.mp hnil

theorem noOption_databaseReference (h : IsLabel database.toList) :
    Row.NoOption (databaseReference database) := by
  have hspace : ' ' ∉ (quoteDatabase database).toList ++ ['.'] := by
    intro hc
    rcases List.mem_append.mp hc with hc | hc
    · have hink := ink_quoteDatabase h ' ' hc
      cases hink
    · cases List.mem_singleton.mp hc
  obtain ⟨c, rest, hhead, hc⟩ := head_quoteDatabase h.unmarked
  refine (Row.noOption_of_lacks (by decide)).append_space (Row.noOption_of_not_space hspace ?_)
  rw [hhead]
  rcases hc with rfl | rfl
  · exact not_prefix_cons (by decide) (by decide)
  · exact not_prefix_cons (by decide) (by decide)

theorem line_databaseReference (h : IsLabel database.toList) :
    '\n' ∉ databaseReference database := by
  have hquoted := line_of_ink (ink_quoteDatabase h)
  simp [databaseReference, hquoted]

end DatabaseReference

namespace Grant

variable {g : Grant}

/-- A grant of privileges without a requirement, all of whose names are labels but that of the
table. -/
structure IsLabelled (g : Grant) : Prop where
  entitlement : g.entitlement.IsLabelled
  identity : g.identity.IsLabelled
  requirement : requireClause g.tlsOption = ""

/-- The statement behind the name of the table. -/
def behindTable (g : Grant) : List Char :=
  ' ' :: (g.identity.recipient ++ g.clauses)

theorem IsLabelled.clauses_eq (h : g.IsLabelled) : g.clauses = g.optionClause.toList := by
  rw [clauses, h.requirement]
  rfl

theorem IsLabelled.not_mem_behindTable (h : g.IsLabelled) {c : Char}
    (hc : c = '\n' ∨ c = backTick) : c ∉ g.behindTable := by
  have hclauses : c ∉ g.clauses := by
    rw [h.clauses_eq]
    rcases g.optionClause_eq with ⟨he, -⟩ | ⟨he | he, -⟩ <;> rw [he] <;>
      rcases hc with rfl | rfl <;> decide
  have hto : c ∉ ' ' :: ("TO".toList ++ [' ']) := by rcases hc with rfl | rfl <;> decide
  have hsql : c ∉ g.identity.sql.toList := by
    intro hmem
    obtain ⟨hink, htick⟩ := h.identity.sql_char c hmem
    rcases hc with rfl | rfl
    · cases hink
    · exact htick rfl
  simp only [behindTable, Identity.recipient, List.mem_cons, List.mem_append, List.not_mem_nil,
    or_false, not_or] at hto ⊢
  exact ⟨hto.1, ⟨hto.2.1, hto.2.2, hsql⟩, hclauses⟩

theorem IsLabelled.noKind_behindTable (h : g.IsLabelled) (kind : RoutineKind) :
    Row.NoKind kind g.behindTable := by
  have hclauses : Row.NoKind kind g.clauses := by
    rw [h.clauses_eq]
    rcases g.optionClause_lacks kind with hoption | ⟨words, hoption, hwords⟩ <;> rw [hoption]
    · exact Row.noKind_nil
    · exact Row.noKind_of_lacks hwords
  have hsql := hclauses.ink_append fun c hc => (h.identity.sql_char c hc).1
  have hspace : Row.NoKind kind (' ' :: (g.identity.sql.toList ++ g.clauses)) := by
    refine hsql.cons fun _ => ?_
    obtain ⟨s, hs⟩ := List.head?_eq_some_iff.mp g.identity.sql_head
    rw [hs]
    exact kind_not_head (by decide)
  have hto : ∀ c ∈ "TO".toList, isBlank c = false := forall_eq_false rfl
  have hword := (hspace.ink_append hto).cons (c := ' ') fun _ => kind_not_head (by decide)
  simpa [behindTable, Identity.recipient] using hword

theorem IsLabelled.noRequire_behindTable (h : g.IsLabelled) : Row.NoRequire g.behindTable := by
  have hsql : Row.NoRequire g.identity.sql.toList := by
    refine Row.noRequire_of_ink (fun c hc => (h.identity.sql_char c hc).1) fun hword => ?_
    obtain ⟨s, hs⟩ := g.identity.sql_last
    rw [hs] at hword
    cases List.suffix_nil.mp (suffix_append_cons (by decide) hword)
  have hidentity : Row.NoRequire (g.identity.sql.toList ++ g.clauses) := by
    rw [h.clauses_eq]
    rcases g.optionClause_eq with ⟨hoption, -⟩ | ⟨hoption | hoption, -⟩ <;> rw [hoption]
    · simpa using hsql
    · exact hsql.append_space (Row.noRequire_of_lacks (by decide))
    · exact hsql.append_space (Row.noRequire_of_lacks (by decide))
  have hempty : Row.NoRequire [] := Row.noRequire_of_lacks (by decide)
  have hto : Row.NoRequire "TO".toList := Row.noRequire_of_lacks (by decide)
  simpa [behindTable, Identity.recipient] using hempty.append_space (hto.append_space hidentity)

theorem IsLabelled.hasOption_behindTable (h : g.IsLabelled) :
    Row.hasOption g.behindTable = g.grantOption := by
  have hsql : Row.NoOption g.identity.sql.toList := by
    refine Row.noOption_of_not_space (fun hc => ?_) ?_
    · cases (h.identity.sql_char ' ' hc).1
    · obtain ⟨s, hs⟩ := List.head?_eq_some_iff.mp g.identity.sql_head
      rw [hs]
      exact not_prefix_cons (by decide) (by decide)
  have hempty : Row.NoOption [] := Row.noOption_of_lacks (by decide)
  have hto : Row.NoOption "TO".toList := Row.noOption_of_lacks (by decide)
  have hfront := hempty.append_space (hto.append_space hsql)
  have hsplit : g.behindTable =
      [] ++ ' ' :: ("TO".toList ++ ' ' :: g.identity.sql.toList) ++ g.optionClause.toList := by
    simp [behindTable, Identity.recipient, h.clauses_eq]
  rw [hsplit]
  exact hasOption_append_optionClause hfront.phrases

end Grant

/-! The reading of the statement. -/

theorem IsEntry.hasOption_list {list holder : List Char} (hlist : IsEntry list)
    (hholder : Row.NoOption holder) :
    Row.hasOption ("GRANT".toList ++ ' ' :: (list ++ ' ' :: holder)) = false := by
  have hopens : ¬"OPTION".toList <+: holder := fun hword =>
    hholder (List.cons_prefix_cons.mpr ⟨rfl, hword⟩).isInfix
  refine Row.optionWithin_eq_false false fun phrase hphrase => ?_
  have hinside := hholder.phrases phrase hphrase
  simp only [Row.optionPhrases, List.mem_cons, List.not_mem_nil, or_false] at hphrase
  rcases hphrase with rfl | rfl
  · exact phrase_list (Or.inl (rfl : "GRANT".toList = _)) hlist hinside hopens
  · exact phrase_list (Or.inr (rfl : "ADMIN".toList = _)) hlist hinside hopens

theorem backTick_not_mem_gap {gap : List Char} (h : IsGap gap) : backTick ∉ gap := by
  intro hc
  have hblank := h.2 backTick hc
  cases hblank

theorem backTick_not_mem_to {mid : List Char} (h : Row.IsTo mid) : backTick ∉ mid := by
  obtain ⟨gap, gap', rfl, hgap, hgap'⟩ := h
  have hto : backTick ∉ "TO".toList := by decide
  simp only [List.mem_append, not_or]
  exact ⟨backTick_not_mem_gap hgap, hto, backTick_not_mem_gap hgap'⟩

/-- The name of a table in its statement: an asterisk, or the name between two back-ticks. -/
theorem quoteTable_append {name : String} (h : IsTableName name.toList) (behind : List Char) :
    (name = "*" ∧ (quoteTable name).toList ++ behind = '*' :: behind) ∨
      (quoteTable name).toList ++ behind = backTick :: (name.toList ++ backTick :: behind) := by
  have hne : name ≠ "" := fun hempty => h.ne_nil (String.toList_eq_nil_iff.mpr hempty)
  by_cases hall : name = "*"
  · exact Or.inl ⟨hall, by simp [quoteTable, hall]⟩
  · exact Or.inr (by simp [quoteTable, hall, hne, toList_backTicked])

/-- A routine that begins in a quoted name is mentioned there as a whole: a reference cannot go on
behind the back-tick that ends the name. -/
theorem mentionsRoutine_of_start {name behind before gap gap' reference mid who y : List Char}
    {blank : Char} {kind : RoutineKind} (hblank : isBlank blank = true) (hgap : IsGap gap)
    (hgap' : IsGap gap') (href : Row.IsReference reference) (hmid : Row.IsTo mid)
    (hname : backTick ∉ name) (hbehind : backTick ∉ behind)
    (hstart : name = before ++ (blank :: ("ON".toList ++ (gap ++ kind.sql.toList)) ++ y))
    (hrest : gap' ++ (reference ++ (mid ++ who)) = y ++ backTick :: behind) :
    MentionsRoutine name := by
  obtain ⟨y₁, rfl, hrest₁⟩ := append_cons_eq_of_start (backTick_not_mem_gap hgap') hrest
  have hy₁ : backTick ∉ y₁ := by
    intro hc
    rw [hstart] at hname
    exact hname (by simp [hc])
  obtain ⟨y₂, rfl, hrest₂⟩ := href.before_backTick hy₁ hbehind hrest₁
  obtain ⟨y₃, rfl, -⟩ := append_cons_eq_of_start (backTick_not_mem_to hmid) hrest₂
  refine ⟨before, blank, gap, kind, gap', reference, mid, y₃, ?_, hblank, hgap, hgap', href, hmid⟩
  rw [hstart]
  simp only [List.append_assoc, List.cons_append]

/-- What is read as a routine would stand in the name of the table, since no blank comes before the
keyword of a kind in front of the name or behind it, save in the list. -/
theorem routine?_eq_none_of_table {list behind gap u : List Char} {database name : String}
    (hlist : IsEntry list) (hdatabase : IsLabel database.toList) (hname : IsTableName name.toList)
    (hkind : ∀ kind, Row.NoKind kind behind) (htick : backTick ∉ behind) (hgap : IsGap gap)
    (hu : gap ++ u <:+ list ++
      ' ' :: (databaseReference database ++ ((quoteTable name).toList ++ behind))) :
    Row.routine? u = none := by
  rw [Option.eq_none_iff_forall_ne_some]
  rintro ⟨object, who⟩ hread
  obtain ⟨gap₁, kind, gap₂, reference, mid, rfl, -, hgap₁, hgap₂, href, hmid, -⟩ :=
    Row.routine?_eq_some.mp hread
  obtain ⟨p, hp⟩ := hu
  rcases quoteTable_append hname behind with ⟨-, htext⟩ | htext <;> rw [htext] at hp
  · have hstar : Row.NoKind kind ('*' :: behind) := (hkind kind).cons fun hblank => by cases hblank
    have hcut : list ++ ' ' :: (databaseReference database ++ '*' :: behind) =
        p ++ gap ++ ("ON".toList ++ gap₁) ++
          (kind.sql.toList ++ (gap₂ ++ (reference ++ (mid ++ who)))) := by
      rw [← hp]
      simp only [List.append_assoc]
    exact list_names_no_routine hlist (noKind_databaseReference hdatabase hstar) hgap₁ hcut
  · obtain ⟨front, blank, rfl⟩ := (List.eq_nil_or_concat' gap).resolve_left hgap.1
    have hblank : isBlank blank = true := hgap.2 blank (by simp)
    have hword : backTick ∉ blank :: ("ON".toList ++ (gap₁ ++ kind.sql.toList)) := by
      have hkindTick : backTick ∉ kind.sql.toList := by cases kind <;> decide
      have hon : backTick ∉ "ON".toList := by decide
      have hne : blank ≠ backTick := ne_of_isBlank hblank rfl
      simp only [List.mem_cons, List.mem_append, not_or]
      exact ⟨hne.symm, hon, backTick_not_mem_gap hgap₁, hkindTick⟩
    have hcut : (list ++ ' ' :: databaseReference database) ++
        backTick :: (name.toList ++ backTick :: behind) =
          (p ++ front) ++ (blank :: ("ON".toList ++ (gap₁ ++ kind.sql.toList)) ++
            (gap₂ ++ (reference ++ (mid ++ who)))) := by
      simpa using hp.symm
    rcases append_cons_eq hword hcut with ⟨y, hy⟩ | ⟨x, -, hrest⟩
    · -- in front of the name
      have hfront : Row.NoKind kind (' ' :: (databaseReference database ++ [])) :=
        noKind_databaseReference hdatabase Row.noKind_nil
      rw [List.append_nil] at hfront
      refine list_names_no_routine (p := p ++ front ++ [blank]) (y := y) hlist hfront hgap₁ ?_
      rw [hy]
      simp only [List.append_assoc, List.cons_append, List.nil_append]
    rcases append_cons_eq hword hrest with ⟨y, hy⟩ | ⟨x', -, hend⟩
    · -- in the name
      rw [hy, List.append_assoc, List.append_assoc, List.append_cancel_left_eq,
        List.append_cancel_left_eq] at hrest
      exact hname.noRoutine (mentionsRoutine_of_start hblank hgap₁ hgap₂ href hmid
        (backTick_not_mem hname.unmarked) htick hy hrest.symm)
    · -- behind the name
      obtain ⟨gap', last, rfl⟩ := (List.eq_nil_or_concat' gap₁).resolve_left hgap₁.1
      have hink := hkind kind (x' ++ blank :: ("ON".toList ++ gap')) last
        (gap₂ ++ (reference ++ (mid ++ who))) (by rw [hend]; simp)
      rw [hgap₁.2 last (by simp)] at hink
      cases hink

/-- The same entitlement with its privileges in their canonical form. -/
def Entitlement.canonical : Entitlement → Entitlement
  | .privileges tokens object => .privileges (Privilege.canonicalize tokens) object
  | .membership roles => .membership roles

/-- The same privileges on a table of the same database. -/
def Entitlement.onTable : Entitlement → String → Entitlement
  | .privileges tokens object, table => .privileges tokens (.table object.database table)
  | .membership roles, _ => .membership roles

theorem Entitlement.onTable_onTable (entitlement : Entitlement) (table table' : String) :
    (entitlement.onTable table).onTable table' = entitlement.onTable table' := by
  cases entitlement <;> rfl

namespace Grant

variable {g : Grant}

/-- The same grant on a table of the same database. -/
def onTable (g : Grant) (table : String) : Grant :=
  { g with entitlement := g.entitlement.onTable table }

/-- What the statement for a table is read as. An option that the name of the table states counts as
one of the grant, and a requirement that the name states takes in the rest of the statement. -/
def listedOn (g : Grant) (table : String) : Grant where
  entitlement := g.entitlement.canonical.onTable table
  identity := g.identity
  grantOption := Row.hasOption table.toList || g.grantOption
  tlsOption := String.ofList (((Row.requirementOnLine? table.toList).map
    (· ++ backTick :: g.behindTable)).getD [])

/-- The statement in front of the name of the table. -/
def beforeTable (tokens : List String) (database : String) : List Char :=
  "GRANT".toList ++
    ' ' :: (commaList (tokens.map String.toList) ++ ' ' :: databaseReference database)

section Table

variable {tokens : List String} {database name : String} (h : g.IsLabelled)
  (he : g.entitlement = .privileges tokens (.table database name))
  (hname : IsTableName name.toList)

theorem toList_statement_table (he : g.entitlement = .privileges tokens (.table database name)) :
    g.statement.toList =
      beforeTable tokens database ++ ((quoteTable name).toList ++ g.behindTable) := by
  have hsplit := g.toList_statement
  rw [body, List.append_assoc, List.cons_append, List.append_assoc, List.cons_append,
    list_holder_privileges he] at hsplit
  simpa [beforeTable, Object.sql, databaseReference, behindTable, Identity.recipient] using hsplit

include h he

theorem IsLabelled.privileges : tokens ≠ [] ∧ (∀ token ∈ tokens, IsToken token.toList) ∧
    IsLabel database.toList ∧ IsEntry (commaList (tokens.map String.toList)) := by
  have hentitlement := h.entitlement
  rw [he] at hentitlement
  obtain ⟨hne, htoken, hdatabase⟩ := hentitlement
  refine ⟨hne, htoken, hdatabase, isEntry_commaList (by simpa using hne) ?_⟩
  simpa using fun token hmem => (htoken token hmem).isEntry

theorem IsLabelled.hasOption_beforeTable : Row.hasOption (beforeTable tokens database) = false := by
  obtain ⟨-, -, hdatabase, hlist⟩ := h.privileges he
  exact hlist.hasOption_list (noOption_databaseReference hdatabase)

theorem IsLabelled.clauseOnLine?_beforeTable :
    Row.clauseOnLine? (beforeTable tokens database) = none := by
  obtain ⟨-, -, hdatabase, hlist⟩ := h.privileges he
  exact clauseOnLine?_list hlist fun _ _ _ hsplit =>
    (noRequire_databaseReference hdatabase).behind hsplit

theorem IsLabelled.line_beforeTable : '\n' ∉ beforeTable tokens database := by
  obtain ⟨-, -, hdatabase, hlist⟩ := h.privileges he
  have hline := hlist.line
  have hreference := line_databaseReference hdatabase
  simp [beforeTable, hline, hreference]

include hname

theorem IsLabelled.hasOption_statement_table :
    Row.hasOption g.statement.toList = (Row.hasOption name.toList || g.grantOption) := by
  have hbefore := h.hasOption_beforeTable he
  have hbehind := h.hasOption_behindTable
  rw [toList_statement_table he]
  rcases quoteTable_append hname g.behindTable with ⟨hall, htext⟩ | htext
  · rw [htext, Row.hasOption_append_cons Row.isDivider_asterisk, hbefore, hbehind, hall]
    rfl
  · rw [htext, Row.hasOption_append_cons Row.isDivider_backTick,
      Row.hasOption_append_cons Row.isDivider_backTick, hbefore, hbehind, Bool.false_or]

theorem IsLabelled.line_statement_table : '\n' ∉ g.statement.toList := by
  have hbefore := h.line_beforeTable he
  have hbehind : '\n' ∉ g.behindTable := h.not_mem_behindTable (Or.inl rfl)
  have hline := hname.line
  rw [toList_statement_table he]
  rcases quoteTable_append hname g.behindTable with ⟨-, htext⟩ | htext <;> rw [htext]
  · simp [hbefore, hbehind]
  · simp [hbefore, hbehind, hline, backTick]

theorem IsLabelled.clause?_statement_table : Row.clause? g.statement.toList =
    (Row.clauseOnLine? name.toList).map (· ++ backTick :: g.behindTable) := by
  have hbefore := h.clauseOnLine?_beforeTable he
  have hline := h.line_beforeTable he
  have hbehind := h.noRequire_behindTable.clauseOnLine?_eq_none
  have hbelow := Row.clauseBelow?_of_line (h.line_statement_table he hname)
  rw [Row.clause?, hbelow, Option.or_none, toList_statement_table he]
  rcases quoteTable_append hname g.behindTable with ⟨hall, htext⟩ | htext
  · rw [htext, Row.clauseOnLine?_append_cons Row.isDivider_asterisk hline, hbefore, hbehind, hall]
    rfl
  · rw [htext, Row.clauseOnLine?_append_cons Row.isDivider_backTick hline,
      Row.clauseOnLine?_append_cons Row.isDivider_backTick hname.line, hbefore, hbehind,
      Option.none_or, Option.map_none, Option.or_none]

theorem IsLabelled.requirement_statement_table :
    Row.requirement g.statement.toList = ((Row.requirementOnLine? name.toList).map
      (· ++ backTick :: g.behindTable)).getD [] := by
  have hwhole : ∀ {s : List Char}, '\n' ∉ s → s.takeWhile (· != '\n') = s := by
    intro s hline
    exact List.takeWhile_eq_self_iff.mpr (forall_bne hline)
  have hbehind : '\n' ∉ g.behindTable := h.not_mem_behindTable (Or.inl rfl)
  rw [Row.requirement_eq, h.clause?_statement_table he hname, Row.requirementOnLine?_eq]
  cases hclause : Row.clauseOnLine? name.toList with
  | none => rfl
  | some clause =>
    have hline : '\n' ∉ clause := fun hc =>
      hname.line ((Row.clauseOnLine?_suffix hclause).subset hc)
    have hall : '\n' ∉ clause ++ backTick :: g.behindTable := by
      simp [hline, hbehind, backTick]
    simp only [Option.map_some, Option.getD_some, hwhole hline, hwhole hall]

theorem IsLabelled.entitlement?_statement_table :
    Row.entitlement? (' ' :: (commaList (tokens.map String.toList) ++
      ' ' :: (databaseReference database ++ ((quoteTable name).toList ++ g.behindTable)))) =
      some (.privileges (Privilege.canonicalize tokens) (.table database name),
        g.identity.sql.toList ++ g.clauses) := by
  obtain ⟨hne, htoken, hdatabase, hlist⟩ := h.privileges he
  have htick : backTick ∉ g.behindTable := h.not_mem_behindTable (Or.inr rfl)
  have hwho : Row.IsRecipient (g.identity.sql.toList ++ g.clauses) := by
    refine g.isRecipient_identity fun hc => h.not_mem_behindTable (Or.inl rfl) ?_
    rw [behindTable, Identity.recipient, List.append_assoc]
    exact List.mem_cons_of_mem _ (List.mem_append_right _ (List.mem_cons_of_mem _ hc))
  have hroutine := privileges?_eq_none_of_gap Row.routine?
    (startsInk_append hlist.startsInk hlist.ne_nil) fun gap u hgap hu =>
      routine?_eq_none_of_table hlist hdatabase hname h.noKind_behindTable htick hgap hu
  have htable := privileges?_statement Row.table? hne htoken table?_needsOn (startsInk_on _)
    (table?_sql hdatabase.unmarked hname.unmarked hwho) (table?_on_sql hdatabase.unmarked name _)
  have hsplit : databaseReference database ++ ((quoteTable name).toList ++ g.behindTable) =
      "ON".toList ++ ' ' :: ((Object.table database name).sql.toList ++
        ' ' :: ("TO".toList ++ ' ' :: (g.identity.sql.toList ++ g.clauses))) := by
    simp [databaseReference, behindTable, Object.sql, Identity.recipient]
  have hnonempty : name ≠ "" := fun hempty => hname.ne_nil (String.toList_eq_nil_iff.mpr hempty)
  rw [hsplit] at hroutine ⊢
  rw [Row.entitlement?, membership?_privileges hne htoken, Option.none_or, hroutine,
    Option.none_or, htable, if_neg hnonempty]

theorem IsLabelled.parse_statement_table :
    Row.parse g.statement = .ok (.grant (g.listedOn name)) := by
  have htrim : trim g.statement.toList = g.statement.toList := by
    refine trim_of_ink ?_ ?_
    · rw [toList_statement, body, List.append_assoc]
      exact startsInk_of_head rfl rfl
    · rw [toList_statement, h.clauses_eq]
      rcases g.optionClause_eq with ⟨hoption, -⟩ | ⟨hoption | hoption, -⟩ <;> rw [hoption]
      · simpa using g.body_endsInk
      · exact endsInk_append (endsInk_of_last rfl rfl) (by decide)
      · exact endsInk_append (endsInk_of_last rfl rfl) (by decide)
  have hrevoke : after? "REVOKE" g.statement.toList = none := by
    rw [toList_statement, body, List.append_assoc]
    rfl
  have hword : after? "GRANT" g.statement.toList = some (' ' :: (commaList
      (tokens.map String.toList) ++ ' ' :: (databaseReference database ++
        ((quoteTable name).toList ++ g.behindTable)))) := by
    rw [toList_statement_table he, after?_eq_some]
    simp only [beforeTable, List.append_assoc, List.cons_append]
  have hidentity : Row.identity? (g.identity.sql.toList ++ g.clauses) = some g.identity := by
    rw [h.identity.isUnmarked.identity? g.after?_at_clauses, if_neg]
    intro hrole
    have hlabelled := h.identity
    rw [hrole] at hlabelled
    exact hlabelled.2 rfl
  rw [Row.parse_eq htrim hrevoke]
  simp only [Row.grant?, hword, h.entitlement?_statement_table he hname, hidentity,
    h.hasOption_statement_table he hname, h.requirement_statement_table he hname,
    Option.bind_eq_bind, Option.bind_some]
  rw [listedOn, he]
  rfl

end Table

theorem IsLabelled.onTable (h : g.IsLabelled) (table : String) : (g.onTable table).IsLabelled where
  entitlement := by
    have hentitlement := h.entitlement
    unfold Grant.onTable
    cases he : g.entitlement <;> rw [he] at hentitlement
    · exact hentitlement
    · exact hentitlement.elim
  identity := h.identity
  requirement := h.requirement

theorem listedOn_onTable (g : Grant) (table : String) :
    (g.onTable table).listedOn table = g.listedOn table := by
  unfold listedOn onTable behindTable clauses optionClause
  cases g.entitlement <;> rfl

/-- The statements of a grant for two tables are read as grants on these tables. The two are the
same save for the table, provided that the names of the tables agree in whether they state an option
and in the requirement that they state. -/
theorem parse_onTable (h : g.IsLabelled) {table table' : String} (htable : IsTableName table.toList)
    (htable' : IsTableName table'.toList) :
    Row.parse (g.onTable table).statement = .ok (.grant (g.listedOn table)) ∧
      Row.parse (g.onTable table').statement = .ok (.grant (g.listedOn table')) ∧
      (Row.hasOption table.toList = Row.hasOption table'.toList →
        Row.requirementOnLine? table.toList = Row.requirementOnLine? table'.toList →
          g.listedOn table' = (g.listedOn table).onTable table') := by
  have hparse : ∀ {name : String}, IsTableName name.toList →
      Row.parse (g.onTable name).statement = .ok (.grant (g.listedOn name)) := by
    intro name hname
    obtain ⟨tokens, object, he⟩ :
        ∃ tokens object, g.entitlement = .privileges tokens object := by
      have hentitlement := h.entitlement
      cases he : g.entitlement with
      | privileges tokens object => exact ⟨tokens, object, rfl⟩
      | membership roles =>
        rw [he] at hentitlement
        exact hentitlement.elim
    have hon : (g.onTable name).entitlement =
        .privileges tokens (.table object.database name) := by
      rw [Grant.onTable, he]
      rfl
    rw [(h.onTable name).parse_statement_table hon hname, listedOn_onTable]
  refine ⟨hparse htable, hparse htable', fun hoption hrequirement => ?_⟩
  unfold listedOn
  rw [hoption, hrequirement, Grant.onTable, Entitlement.onTable_onTable]

theorem not_mentionsRoutine {name : List Char}
    (h : ∀ kind : RoutineKind, ¬kind.sql.toList <:+: name) : ¬MentionsRoutine name := by
  rintro ⟨before, blank, gap, kind, gap', reference, mid, behind, rfl, -⟩
  refine h kind
    ⟨before ++ blank :: ("ON".toList ++ gap), gap' ++ (reference ++ (mid ++ behind)), ?_⟩
  simp only [List.append_assoc, List.cons_append]

/-- A grant that may not be passed on. -/
def auditGrant : Grant where
  entitlement := .privileges ["SELECT"] (.table "app" "users")
  identity := .user "bob" "prod1"
  grantOption := false
  tlsOption := ""

theorem auditGrant_parse_onTable :
    Row.parse (auditGrant.onTable "a.b ON c TO d").statement =
        .ok (.grant (auditGrant.listedOn "a.b ON c TO d")) ∧
      Row.parse (auditGrant.onTable "REQUIRED GRANT OPTIONS").statement =
        .ok (.grant (auditGrant.listedOn "REQUIRED GRANT OPTIONS")) ∧
      auditGrant.listedOn "REQUIRED GRANT OPTIONS" =
        (auditGrant.listedOn "a.b ON c TO d").onTable "REQUIRED GRANT OPTIONS" := by
  have hlabel : ∀ {name : String}, (name.toList.all fun c => !isBlank c) = true →
      (name.toList.all fun c => !isNameMark c) = true → IsLabel name.toList :=
    fun hink hmark c hc => ⟨forall_eq_false hink c hc, forall_eq_false hmark c hc⟩
  have htoken : ∀ token ∈ ["SELECT"], IsToken token.toList := by
    intro token hmem
    cases List.mem_singleton.mp hmem
    exact IsToken.name ⟨by decide, by decide, by decide⟩ (List.all_eq_true.mp rfl)
  have hlabelled : auditGrant.IsLabelled :=
    ⟨⟨by decide, htoken, hlabel rfl rfl⟩, ⟨hlabel rfl rfl, hlabel rfl rfl⟩, rfl⟩
  have htable : IsTableName "a.b ON c TO d".toList :=
    ⟨by decide, by decide, forall_eq_false rfl, not_mentionsRoutine (by rintro (_ | _) <;> decide)⟩
  have htable' : IsTableName "REQUIRED GRANT OPTIONS".toList :=
    ⟨by decide, by decide, forall_eq_false rfl, not_mentionsRoutine (by rintro (_ | _) <;> decide)⟩
  obtain ⟨hread, hread', hsame⟩ := parse_onTable hlabelled htable htable'
  exact ⟨hread, hread', hsame (by decide) (by decide)⟩

/-- Two tables whose names hold no marks, of which one names the option. -/
theorem auditGrant_not_opaque : ∃ read read' : Grant,
    Row.parse (auditGrant.onTable "users").statement = .ok (.grant read) ∧
      Row.parse (auditGrant.onTable "GRANT OPTION").statement = .ok (.grant read') ∧
      read.table? = some "users" ∧ read'.table? = some "GRANT OPTION" ∧
      read.grantOption = false ∧ read'.grantOption = true :=
  ⟨auditGrant, { auditGrant.onTable "GRANT OPTION" with grantOption := true }, rfl, rfl, rfl, rfl,
    rfl, rfl⟩

-- a name that mentions a routine is not read as that of a table
example : Row.parse (auditGrant.onTable "a ON FUNCTION b TO ").statement =
    .ok (.grant ⟨.privileges ["SELECTONAPP.A"] (.routine .function "b" "b"), .role " TO ", false,
      ""⟩) := rfl

end Grant

end AccountGrants
