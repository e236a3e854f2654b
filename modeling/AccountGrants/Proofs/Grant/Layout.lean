import AccountGrants.Proofs.Grant.Ordinary
import AccountGrants.Proofs.Row.Clause

/-!
How the statement of an ordinary grant is laid out: a list, the holder behind it, and the clauses.
Whatever the names are, the list and the holder hold no requirement and no option, so that the
clauses say what the grant says.
-/

namespace AccountGrants

open Text

/-- A list in a statement, or an item of one: one line with ink at its ends, where no blank can be
the end of the words ON and REQUIRE or the middle of an option. -/
structure IsEntry (s : List Char) : Prop extends IsItem s where
  startsInk : StartsInk s
  endsInk : EndsInk s
  packed : Packed s
  line : '\n' ∉ s

theorem isEntry_commaList {items : List (List Char)} (hne : items ≠ [])
    (h : ∀ item ∈ items, IsEntry item) : IsEntry (commaList items) := by
  induction items with
  | nil => exact absurd rfl hne
  | cons item items ih =>
    have hitem := h item List.mem_cons_self
    have hrest : ∀ other ∈ items, IsEntry other :=
      fun other hother => h other (List.mem_cons_of_mem item hother)
    by_cases hnil : items = []
    · rwa [hnil, commaList_singleton]
    have htail := ih hnil hrest
    have hpacked : Packed (commaList (item :: items)) :=
      packed_commaList fun other hother => ⟨(h other hother).startsInk, (h other hother).packed⟩
    have hstarts : StartsInk (commaList (item :: items)) :=
      startsInk_commaList fun other hother => (h other hother).startsInk
    rw [commaList_cons hnil] at hpacked hstarts ⊢
    refine ⟨⟨by simp, ?_, ?_⟩, hstarts, ?_, hpacked, ?_⟩
    · intro hword
      have hsplit : item ++ ',' :: ' ' :: commaList items =
          (item ++ [',']) ++ ' ' :: commaList items := by simp
      rw [hsplit] at hword
      exact htail.notRequire (suffix_append_cons (by decide) hword)
    · exact fun hword => hitem.notOption (prefix_append_cons (by decide) hword)
    · exact endsInk_append (endsInk_append (s := [',', ' ']) htail.endsInk htail.ne_nil) (by simp)
    · have htailLine := htail.line
      have hitemLine := hitem.line
      simp_all

theorem isRoleChar_iff {c : Char} :
    Row.isRoleChar c = true ↔ isBlank c = false ∧ c ≠ ',' ∧ c ≠ '(' ∧ c ≠ ')' := by
  simp [Row.isRoleChar, and_assoc]

theorem ink_of_roleChar {s : List Char} (h : ∀ c ∈ s, Row.isRoleChar c = true) :
    ∀ c ∈ s, isBlank c = false :=
  fun c hc => (isRoleChar_iff.mp (h c hc)).1

theorem line_of_ink {s : List Char} (h : ∀ c ∈ s, isBlank c = false) : '\n' ∉ s := by
  intro hc
  have hink := h '\n' hc
  cases hink

theorem startsInk_of_ink {s : List Char} (h : ∀ c ∈ s, isBlank c = false) : StartsInk s :=
  fun c hc => h c (List.mem_of_mem_head? hc)

theorem endsInk_of_ink {s : List Char} (h : ∀ c ∈ s, isBlank c = false) : EndsInk s :=
  fun c hc => h c (List.mem_of_getLast? hc)

theorem IsItem.isEntry {s : List Char} (hitem : IsItem s) (h : ∀ c ∈ s, isBlank c = false) :
    IsEntry s where
  toIsItem := hitem
  startsInk := startsInk_of_ink h
  endsInk := endsInk_of_ink h
  packed := packed_of_ink h
  line := line_of_ink h

theorem IsRole.isEntry {role : List Char} (h : IsRole role) : IsEntry role :=
  h.item.isEntry (ink_of_roleChar h.char)

theorem IsToken.isEntry {token : List Char} (h : IsToken token) : IsEntry token := by
  cases h with
  | all =>
    refine ⟨⟨by decide, by decide, by decide⟩, startsInk_of_head rfl rfl, endsInk_of_last rfl rfl,
      ?_, by decide⟩
    unfold Packed
    decide
  | name hitem hchar => exact hitem.isEntry (ink_of_roleChar hchar)
  | @columns name columns hitem hchar hcolumns =>
    have hname := hitem.isEntry (ink_of_roleChar hchar)
    have hink : ∀ column ∈ columns, ∀ c ∈ column, isBlank c = false :=
      fun column hcolumn => ink_of_roleChar (hcolumns column hcolumn)
    have hstarts : StartsInk (commaList columns ++ [')']) := by
      have hlist : StartsInk (commaList columns) :=
        startsInk_commaList fun column hcolumn => startsInk_of_ink (hink column hcolumn)
      by_cases hnil : commaList columns = []
      · rw [hnil]
        exact startsInk_of_head rfl rfl
      · exact startsInk_append hlist hnil
    have hpacked : Packed (commaList columns ++ [')']) := by
      refine Packed.append ?_ (List.isChain_singleton ')') (startsInk_of_head rfl rfl)
      exact packed_commaList fun column hcolumn =>
        ⟨startsInk_of_ink (hink column hcolumn), packed_of_ink (hink column hcolumn)⟩
    have hsplit : name ++ '(' :: (commaList columns ++ [')']) =
        (name ++ '(' :: commaList columns) ++ [')'] := by simp
    refine ⟨⟨by simp, ?_, ?_⟩, startsInk_append hname.startsInk hitem.ne_nil, ?_, ?_, ?_⟩
    · intro hword
      rw [hsplit] at hword
      have hnil := suffix_append_cons (by decide) hword
      rw [List.suffix_nil] at hnil
      cases hnil
    · exact fun hword => hitem.notOption (prefix_append_cons (by decide) hword)
    · rw [hsplit]
      exact endsInk_append (endsInk_of_last rfl rfl) (List.cons_ne_nil ')' [])
    · exact hname.packed.append (hpacked.cons hstarts) (startsInk_of_head rfl rfl)
    · have hcolumnsLine : '\n' ∉ commaList columns := by
        intro hc
        rcases mem_commaList hc with hc | hc | ⟨column, hcolumn, hc⟩
        · cases hc
        · cases hc
        · exact line_of_ink (hink column hcolumn) hc
      have hnameLine := hname.line
      simp_all

/-- What an entitlement gives, item by item. -/
def Entitlement.items : Entitlement → List String
  | .privileges tokens _ => tokens
  | .membership roles => roles

/-- The list that a statement begins with. -/
def Entitlement.list (entitlement : Entitlement) : List Char :=
  commaList (entitlement.items.map String.toList)

theorem Entitlement.IsOrdinary.isEntry {entitlement : Entitlement} (h : entitlement.IsOrdinary) :
    IsEntry entitlement.list := by
  cases entitlement with
  | privileges tokens object =>
    obtain ⟨hne, -, htokens, -⟩ := h
    refine isEntry_commaList (by simpa [items] using hne) ?_
    simpa [items] using fun token htoken => (htokens token htoken).isEntry
  | membership roles =>
    obtain ⟨hne, hroles⟩ := h
    refine isEntry_commaList (by simpa [items] using hne) ?_
    simpa [items] using fun role hrole => (hroles role hrole).isEntry

/-! Names behind the list. -/

theorem not_mem_searchedWord {word : String} (hword : word ∈ searchedWords) :
    ' ' ∉ word.toList ∧ singleQuote ∉ word.toList ∧ backTick ∉ word.toList ∧ '@' ∉ word.toList ∧
      '.' ∉ word.toList ∧ word.toList ≠ [] := by
  revert word
  decide

theorem not_mark_of_isName {name : List Char} (h : IsName name) {c : Char} (hc : c ∈ name) :
    c ≠ backTick ∧ c ≠ doubleQuote ∧ c ≠ singleQuote := by
  have hunmarked := h.unmarked c hc
  simpa [isNameMark, and_assoc] using hunmarked

theorem toList_backTicked (name : String) :
    (backTicked name).toList = backTick :: (name.toList ++ [backTick]) := by
  simp [backTicked]

theorem toList_singleQuoted (name : String) :
    (singleQuoted name).toList = singleQuote :: (name.toList ++ [singleQuote]) := by
  simp [singleQuoted]

/-- A name that does not end in a back-tick is written between two of them. -/
theorem quoteDatabase_of_last {name : String} (h : name.toList.getLast? ≠ some backTick) :
    quoteDatabase name = if name = "*" then "*" else backTicked name := by
  unfold quoteDatabase
  by_cases hall : name = "*"
  · rw [if_pos (Or.inl hall), if_pos hall, hall]
  · rw [if_neg hall, if_neg fun hquoted => hquoted.elim hall h]

theorem quoteDatabase_of_unmarked {name : String} (h : ∀ c ∈ name.toList, isNameMark c = false) :
    quoteDatabase name = if name = "*" then "*" else backTicked name := by
  refine quoteDatabase_of_last fun hlast => ?_
  have hmark := h backTick (List.mem_of_getLast? hlast)
  cases hmark

/-- A name in a reference: between back-ticks, or an asterisk that stands for all names. -/
inductive IsPart : String → String → Prop
  | quoted {name : String} (h : IsName name.toList) : IsPart name (backTicked name)
  | all : IsPart "*" "*"

theorem isPart_quoteDatabase {name : String} (h : IsName name.toList) :
    IsPart name (quoteDatabase name) := by
  rw [quoteDatabase_of_unmarked h.unmarked]
  split
  next hall =>
    rw [hall]
    exact .all
  next => exact .quoted h

theorem isPart_quoteTable {name : String} (h : IsName name.toList) :
    IsPart (if name = "" then "*" else name) (quoteTable name) := by
  unfold quoteTable
  by_cases hall : name = "*" ∨ name = ""
  · rw [if_pos hall]
    rcases hall with rfl | rfl <;> exact .all
  · rw [if_neg hall, if_neg fun hempty => hall (Or.inr hempty)]
    exact .quoted h

theorem IsPart.line {name text : String} (h : IsPart name text) : '\n' ∉ text.toList := by
  cases h with
  | quoted h =>
    have hline := h.line
    simp [toList_backTicked, backTick, hline]
  | all => decide

section Lacks

variable {word : String}

theorem IsPart.lacks {name text : String} (h : IsPart name text) (hword : word ∈ searchedWords) :
    ¬word.toList <:+: text.toList := by
  cases h with
  | quoted h =>
    obtain ⟨-, -, hmark, -, -, hne⟩ := not_mem_searchedWord hword
    rw [toList_backTicked, infix_cons hmark hne, infix_append_cons hmark, List.infix_nil]
    rintro (hname | hnil)
    · exact h.noWord word hword hname
    · exact hne hnil
  | all =>
    revert word
    decide

theorem lacks_singleQuoted (hword : word ∈ searchedWords) {name : String} (h : IsName name.toList) :
    ¬word.toList <:+: (singleQuoted name).toList := by
  obtain ⟨-, hmark, -, -, -, hne⟩ := not_mem_searchedWord hword
  rw [toList_singleQuoted, infix_cons hmark hne, infix_append_cons hmark, List.infix_nil]
  rintro (hname | hnil)
  · exact h.noWord word hword hname
  · exact hne hnil

/-- An object holds none of the words, save the keyword of its own kind. -/
theorem Object.IsOrdinary.lacks {object : Object} (h : object.IsOrdinary)
    (hword : word ∈ searchedWords)
    (hkind : ∀ kind database name, object = .routine kind database name →
      ¬word.toList <:+: kind.sql.toList) : ¬word.toList <:+: object.sql.toList := by
  obtain ⟨hblank, -, -, -, hdot, -⟩ := not_mem_searchedWord hword
  cases object with
  | table database name =>
    obtain ⟨hdatabase, hname⟩ := h
    simp only [Object.sql, String.toList_append, List.append_assoc]
    have hsplit : (quoteDatabase database).toList ++ (".".toList ++ (quoteTable name).toList) =
        (quoteDatabase database).toList ++ '.' :: (quoteTable name).toList := rfl
    rw [hsplit, infix_append_cons hdot, not_or]
    exact ⟨(isPart_quoteDatabase hdatabase).lacks hword, (isPart_quoteTable hname).lacks hword⟩
  | routine kind database name =>
    obtain ⟨hdatabase, hname, -⟩ := h
    simp only [Object.sql, String.toList_append, List.append_assoc]
    have hsplit : kind.sql.toList ++ (" ".toList ++ ((quoteDatabase database).toList ++
        (".".toList ++ name.toList))) =
        kind.sql.toList ++ ' ' :: ((quoteDatabase database).toList ++ '.' :: name.toList) := rfl
    rw [hsplit, infix_append_cons hblank, infix_append_cons hdot, not_or, not_or]
    exact ⟨hkind kind database name rfl, (isPart_quoteDatabase hdatabase).lacks hword,
      hname.noWord word hword⟩

theorem Identity.IsOrdinary.lacks {identity : Identity} (h : identity.IsOrdinary)
    (hword : word ∈ searchedWords) : ¬word.toList <:+: identity.sql.toList := by
  obtain ⟨-, -, -, hat, -, -⟩ := not_mem_searchedWord hword
  cases identity with
  | user name host =>
    simp only [Identity.sql, String.toList_append, List.append_assoc]
    have hsplit : (singleQuoted name).toList ++ ("@".toList ++ (singleQuoted host).toList) =
        (singleQuoted name).toList ++ '@' :: (singleQuoted host).toList := rfl
    rw [hsplit, infix_append_cons hat, not_or]
    exact ⟨lacks_singleQuoted hword h.1, lacks_singleQuoted hword h.2⟩
  | role name => exact lacks_singleQuoted hword h.1

end Lacks

/-- TO and the identity. -/
def Identity.recipient (identity : Identity) : List Char :=
  "TO".toList ++ ' ' :: identity.sql.toList

namespace Grant

/-- What stands behind the list: the object, where there is one, and the identity. -/
def holder (g : Grant) : List Char :=
  match g.entitlement with
  | .privileges _ object => "ON".toList ++ ' ' :: (object.sql.toList ++ ' ' :: g.identity.recipient)
  | .membership _ => g.identity.recipient

/-- The statement without its clauses. -/
def body (g : Grant) : List Char :=
  "GRANT".toList ++ ' ' :: (g.entitlement.list ++ ' ' :: g.holder)

/-- The clauses behind the identity. -/
def clauses (g : Grant) : List Char :=
  (requireClause g.tlsOption).toList ++ g.optionClause.toList

theorem toList_statement (g : Grant) : g.statement.toList = g.body ++ g.clauses := by
  unfold statement body clauses holder Identity.recipient Entitlement.list
  cases g.entitlement with
  | privileges tokens object =>
    simp [Entitlement.sql, Entitlement.items, Privilege.toList_join]
  | membership roles => simp [Entitlement.sql, Entitlement.items, commaList]

end Grant

end AccountGrants
