import AccountGrants.Proofs.Grant.RoundTrip
import AccountGrants.Proofs.Spelling.Privilege

/-!
The rows that servers list. Such a row differs from the statement of its grant in the spelling of
privileges and in the quotes around names, and it is read as the grant that is meant.
-/

namespace AccountGrants.Spelling

open Text

/-! References. -/

section Parts

variable {name database databaseText nameText word : String}

/-- A database and a name in it, as a reference. -/
def object (databaseText nameText : String) : List Char :=
  databaseText.toList ++ '.' :: nameText.toList

theorem isReference_object (hdatabase : IsPart database databaseText)
    (hname : IsPart name nameText) : Row.IsReference (object databaseText nameText) := by
  have hread := hname.isQuoted.reference? reference?_nil
  rw [List.append_nil] at hread
  exact hdatabase.isQuoted.isReference hread

theorem splitReference_object (hdatabase : IsPart database databaseText)
    (hname : IsPart name nameText) :
    splitReference (object databaseText nameText) = (database, some name) := by
  rw [object, hdatabase.isQuoted.splitReference, hname.isQuoted.strip_eq, String.ofList_toList]

theorem object_lacks (hdatabase : IsPart database databaseText) (hname : IsPart name nameText)
    (hword : word ∈ searchedWords) : ¬word.toList <:+: object databaseText nameText := by
  obtain ⟨-, -, -, -, hdot, -⟩ := not_mem_searchedWord hword
  rw [object, infix_append_cons hdot, not_or]
  exact ⟨hdatabase.lacks hword, hname.lacks hword⟩

theorem isQuiet_object (hdatabase : IsPart database databaseText) (hname : IsPart name nameText) :
    Row.IsQuiet (object databaseText nameText) := by
  refine Row.isQuiet_of_lacks ?_ fun word hword => object_lacks hdatabase hname ?_
  · simp [object, hdatabase.line, hname.line]
  · revert word
    decide

theorem table?_object (hdatabase : IsPart database databaseText) (hname : IsPart name nameText)
    {who : List Char} (hwho : Row.IsRecipient who) :
    Row.table? ("ON".toList ++ ' ' :: (object databaseText nameText ++
      ' ' :: ("TO".toList ++ ' ' :: who))) = some (.table database name, who) := by
  refine Row.table?_eq_some.mpr ⟨[' '], object databaseText nameText, " TO ".toList, by simp, ?_,
    isGap_space, isReference_object hdatabase hname, Row.isTo_space, hwho⟩
  rw [Row.tableOf, splitReference_object hdatabase hname]
  rfl

theorem routine?_object (kind : RoutineKind) (hdatabase : IsPart database databaseText)
    (hname : IsPart name nameText) {who : List Char} (hwho : Row.IsRecipient who) :
    Row.routine? ("ON".toList ++ ' ' :: (kind.sql.toList ++ ' ' :: (object databaseText nameText ++
      ' ' :: ("TO".toList ++ ' ' :: who)))) = some (.routine kind database name, who) := by
  refine Row.routine?_eq_some.mpr ⟨[' '], kind, [' '], object databaseText nameText,
    " TO ".toList, by simp, ?_, isGap_space, isGap_space, isReference_object hdatabase hname,
    Row.isTo_space, hwho⟩
  rw [Row.routineOf, splitReference_object hdatabase hname]
  rfl

end Parts

/-! Roles. -/

/-- The name that is left of a role when the marks at its ends are gone. -/
def bareRole (role : String) : String :=
  String.ofList (strip Row.isRoleMark role.toList)

/-- Nothing is missing of a name without marks at its ends. -/
theorem bareRole_of_unmarked {role : String}
    (hhead : ∀ c ∈ role.toList.head?, Row.isRoleMark c = false)
    (hlast : ∀ c ∈ role.toList.getLast?, Row.isRoleMark c = false) : bareRole role = role := by
  rw [bareRole, strip_of_ink hhead hlast, String.ofList_toList]

/-- A role in a list, with the host that stands for all hosts or without a host. -/
inductive SpellsRole : String → String → Prop
  | bare {role : String} (h : ∀ c ∈ role.toList, Row.isRoleChar c = true) :
      SpellsRole (backTicked role) (bareRole role)
  | anyHost {role : String} (h : ∀ c ∈ role.toList, Row.isRoleChar c = true) :
      SpellsRole (backTicked role ++ "@" ++ backTicked "%") (bareRole role)

section Roles

variable {text role : String} {texts roles : List String}

/-- The marks around the name of a role. -/
theorem SpellsRole.marks (h : SpellsRole text role) : ∃ name marks,
    text.toList = [backTick] ++ name ++ (marks ++ [backTick]) ∧
      role = String.ofList (strip Row.isRoleMark name) ∧ (∀ c ∈ name, Row.isRoleChar c = true) ∧
      ∀ c ∈ marks, Row.isRoleChar c = true ∧ Row.isRoleMark c = true := by
  cases h with
  | @bare role h =>
    exact ⟨role.toList, [], toList_backTicked role, rfl, h, by simp⟩
  | @anyHost role h =>
    have hmarks : ([backTick, '@', backTick, '%'].all fun c =>
        Row.isRoleChar c && Row.isRoleMark c) = true := rfl
    refine ⟨role.toList, [backTick, '@', backTick, '%'], by simp [toList_backTicked], rfl, h, ?_⟩
    simpa using hmarks

theorem SpellsRole.char (h : SpellsRole text role) :
    text.toList.head? = some backTick ∧ ∀ c ∈ text.toList, Row.isRoleChar c = true := by
  obtain ⟨name, marks, htext, -, hname, hmarks⟩ := h.marks
  have htick : Row.isRoleChar backTick = true := by decide
  rw [htext]
  refine ⟨rfl, ?_⟩
  simp only [List.mem_append, List.mem_singleton]
  rintro c ((rfl | hc) | hc | rfl)
  · exact htick
  · exact hname c hc
  · exact (hmarks c hc).1
  · exact htick

theorem SpellsRole.strip_eq (h : SpellsRole text role) :
    String.ofList (strip Row.isRoleMark text.toList) = role := by
  obtain ⟨name, marks, htext, hrole, -, hmarks⟩ := h.marks
  have htick : ∀ c ∈ [backTick], Row.isRoleMark c = true := List.all_eq_true.mp rfl
  have hbehind : ∀ c ∈ marks ++ [backTick], Row.isRoleMark c = true := by
    intro c hc
    rcases List.mem_append.mp hc with hc | hc
    · exact (hmarks c hc).2
    · exact htick c hc
  rw [htext, strip_append_all htick hbehind, hrole]

theorem SpellsRole.isRun (h : SpellsRole text role) : Row.IsRun text.toList := by
  have hink := ink_of_roleChar h.char.2
  obtain ⟨name, marks, htext, -⟩ := h.marks
  have hsplit : text.toList = backTick :: (name ++ marks ++ [backTick]) := by
    rw [htext]
    simp
  rw [hsplit] at hink ⊢
  refine .one (Row.isSegment_of_stop isStop_backTick
    (fun c hc => hink c (List.mem_cons_of_mem backTick hc)) fun hword => ?_)
  cases List.suffix_nil.mp (suffix_append_cons (by decide) hword)

theorem spelled_item (h : List.Forall₂ SpellsRole texts roles) {item : List Char}
    (hitem : item ∈ texts.map String.toList) :
    Row.IsRun item ∧ item.head? = some backTick ∧ ∀ c ∈ item, Row.isRoleChar c = true := by
  induction h with
  | nil => cases hitem
  | cons hrole _ ih =>
    rcases List.mem_cons.mp hitem with rfl | hitem
    · exact ⟨hrole.isRun, hrole.char⟩
    · exact ih hitem

/-- Without the marks around them, the texts of a list are its roles. -/
theorem strip_texts (h : List.Forall₂ SpellsRole texts roles) :
    texts.map (fun text => String.ofList (strip Row.isRoleMark text.toList)) = roles := by
  induction h with
  | nil => rfl
  | cons hrole _ ih => rw [List.map_cons, hrole.strip_eq, ih]

end Roles

/-! Logins. -/

/-- A login with its names between back-ticks. -/
def login (user host : String) : String :=
  backTicked user ++ "@" ++ backTicked host

section Logins

variable {user host word : String}

theorem toList_login (user host : String) :
    (login user host).toList = (backTicked user).toList ++ '@' :: (backTicked host).toList := by
  simp [login]

theorem identity?_login (huser : IsName user.toList) (hhost : IsName host.toList)
    (rest : List Char) :
    Row.identity? ((login user host).toList ++ rest) = some (.user user host) := by
  have hsplit : (login user host).toList ++ rest =
      (backTicked user).toList ++ ("@".toList ++ ((backTicked host).toList ++ rest)) := by
    rw [toList_login, List.append_assoc]
    rfl
  rw [hsplit]
  simp only [Row.identity?, Option.bind_eq_bind, markedName?_backTicked huser, Option.bind_some,
    after?_eq_some.mpr rfl, markedName?_backTicked hhost, String.ofList_toList]

theorem login_lacks (huser : IsName user.toList) (hhost : IsName host.toList)
    (hword : word ∈ searchedWords) : ¬word.toList <:+: (login user host).toList := by
  obtain ⟨-, -, -, hat, -, -⟩ := not_mem_searchedWord hword
  rw [toList_login, infix_append_cons hat, not_or]
  exact ⟨(IsPart.quoted huser).lacks hword, (IsPart.quoted hhost).lacks hword⟩

theorem login_line (huser : IsName user.toList) (hhost : IsName host.toList) :
    '\n' ∉ (login user host).toList := by
  have htick := (IsPart.quoted huser).line
  have htick' := (IsPart.quoted hhost).line
  rw [toList_login]
  simp [htick, htick']

theorem login_startsInk (user host : String) : StartsInk (login user host).toList := by
  rw [toList_login, toList_backTicked]
  exact startsInk_of_head rfl rfl

theorem login_endsInk (user host : String) : EndsInk (login user host).toList := by
  rw [toList_login, toList_backTicked, toList_backTicked]
  refine endsInk_append (s := _) ?_ (List.cons_ne_nil '@' _)
  exact endsInk_append (s := '@' :: backTick :: host.toList) (endsInk_of_last rfl rfl) (by simp)

theorem isRecipient_login (huser : IsName user.toList) (hhost : IsName host.toList) (g : Grant) :
    Row.IsRecipient ((login user host).toList ++ g.optionClause.toList) where
  ne_nil := by simp [login, backTicked]
  startsInk := startsInk_append (login_startsInk user host) (by simp [login, backTicked])
  line := by
    have hlogin := login_line huser hhost
    have hoption : '\n' ∉ g.optionClause.toList := by
      rcases g.optionClause_eq with ⟨he, -⟩ | ⟨he | he, -⟩ <;> rw [he] <;> decide
    simp [hlogin, hoption]

end Logins

/-! Lists of what is granted. -/

/-- What stands between GRANT and TO. -/
inductive Spells : String → Entitlement → Prop
  | table {raws : List String} {database name databaseText nameText : String} (hne : raws ≠ [])
      (hraw : ∀ raw ∈ raws, IsPrivilege raw.toList) (hdatabase : IsPart database databaseText)
      (hname : IsPart name nameText) :
      Spells (Privilege.join raws ++ " ON " ++ databaseText ++ "." ++ nameText)
        (.privileges (Privilege.canonicalize raws) (.table database name))
  | routine {raws : List String} {kind : RoutineKind} {database name databaseText nameText : String}
      (hne : raws ≠ []) (hraw : ∀ raw ∈ raws, IsPrivilege raw.toList)
      (hdatabase : IsPart database databaseText) (hname : IsPart name nameText) :
      Spells (Privilege.join raws ++ " ON " ++ kind.sql ++ " " ++ databaseText ++ "." ++ nameText)
        (.privileges (Privilege.canonicalize raws) (.routine kind database name))
  | membership {sep : String} {texts roles : List String} (hne : texts ≠ [])
      (hsep : IsComma sep.toList) (h : List.Forall₂ SpellsRole texts roles) :
      Spells (sep.intercalate texts) (.membership roles)

section Lists

variable {raws : List String} {rest who : List Char}

theorem isRun_raws (hne : raws ≠ []) (hraw : ∀ raw ∈ raws, IsPrivilege raw.toList) :
    Row.IsRun (commaList (raws.map String.toList)) := by
  refine isRun_commaList (by simpa using hne) ?_
  simpa using fun raw hmem => (hraw raw hmem).isRun

theorem privileges?_raws (object : List Char → Option (Object × List Char)) {read : Object}
    (hne : raws ≠ []) (hraw : ∀ raw ∈ raws, IsPrivilege raw.toList) (hobject : NeedsOn object)
    (hrest : StartsInk rest) (hfound : object rest = some (read, who)) :
    Row.privileges? object (' ' :: (commaList (raws.map String.toList) ++ ' ' :: rest)) =
      some (.privileges (Privilege.canonicalize raws) read, who) := by
  have hlist := isRun_raws hne hraw
  have hinside : ∀ gap u, IsGap gap → gap ++ u <:+ commaList (raws.map String.toList) → u ≠ [] →
      object (u ++ ' ' :: rest) = none := by
    intro gap u hgap hu _
    rw [Option.eq_none_iff_forall_ne_some]
    intro found hread
    obtain ⟨d, t, hon, hblank⟩ := hobject hread
    -- the list may hold the letters of ON, but not as a word of its own
    rw [hlist.ink_behind_on hgap hu hon] at hblank
    cases hblank
  exact privileges?_list object hne (fun raw hmem => (hraw raw hmem).isPiece) hlist.isQuiet.line
    hlist.endsInk hrest hfound hinside

theorem membership?_raws (hne : raws ≠ []) (hraw : ∀ raw ∈ raws, IsPrivilege raw.toList)
    (rest : List Char) :
    Row.membership? (' ' :: (commaList (raws.map String.toList) ++ ' ' :: ("ON".toList ++ rest))) =
      none := by
  have hlist := isRun_raws hne hraw
  have hne' : raws.map String.toList ≠ [] := by simpa using hne
  have hraw' : ∀ raw ∈ raws.map String.toList, IsPrivilege raw := by simpa using hraw
  obtain ⟨list, left, hread, hleft⟩ := roleList?_privileges hne' hraw' ('N' :: rest)
  exact membership?_eq_none (startsInk_append hlist.startsInk hlist.ne_nil) hread hleft

/-- Behind a run, a routine can only be named where its kind stands. -/
theorem routine?_eq_none_of_lacks {list t gap u : List Char} (hlist : Row.IsRun list)
    (ht : ∀ kind : RoutineKind, ¬kind.sql.toList <:+: t) (hgap : IsGap gap)
    (hu : gap ++ u <:+ list ++ ' ' :: t) : Row.routine? u = none := by
  rw [Option.eq_none_iff_forall_ne_some]
  intro found hread
  obtain ⟨gap', kind, gap'', reference, mid, rfl, -, ⟨hne, hblank⟩, -⟩ :=
    Row.routine?_eq_some.mp hread
  obtain ⟨p, hp⟩ := hu
  have hcut : list ++ ' ' :: t = (p ++ (gap ++ ("ON".toList ++ gap'))) ++
      (kind.sql.toList ++ (gap'' ++ (reference ++ (mid ++ found.2)))) := by
    rw [← hp]
    simp only [List.append_assoc]
  obtain ⟨hspace, -⟩ := not_mem_searchedWord (kind_mem_searchedWords kind)
  rcases append_cons_eq hspace hcut with ⟨y, hy⟩ | ⟨x, -, rfl⟩
  · cases gap' with
    | nil => exact hne rfl
    | cons d gap' =>
      have hsuffix : gap ++ ("ON".toList ++ d :: (gap' ++ (kind.sql.toList ++ y))) <:+ list :=
        ⟨p, by rw [hy]; simp⟩
      have hon : ("ON".toList ++ d :: (gap' ++ (kind.sql.toList ++ y))) ++ [' '] =
          "ON".toList ++ d :: (gap' ++ (kind.sql.toList ++ (y ++ [' ']))) := by simp
      have hink := hlist.ink_behind_on hgap hsuffix hon
      rw [hblank d List.mem_cons_self] at hink
      cases hink
  · exact ht kind ⟨x, _, List.append_assoc ..⟩

end Lists

/-! Whole rows. -/

section Rows

variable {text : String} {entitlement : Entitlement} {who : List Char}

theorem entitlement?_table {raws : List String} {database name databaseText nameText : String}
    (hne : raws ≠ []) (hraw : ∀ raw ∈ raws, IsPrivilege raw.toList)
    (hdatabase : IsPart database databaseText) (hname : IsPart name nameText)
    (hwho : Row.IsRecipient who) (hlacks : ∀ kind : RoutineKind, ¬kind.sql.toList <:+: who) :
    Row.entitlement? (' ' :: (commaList (raws.map String.toList) ++ ' ' :: ("ON".toList ++
      ' ' :: (object databaseText nameText ++ ' ' :: ("TO".toList ++ ' ' :: who))))) =
      some (.privileges (Privilege.canonicalize raws) (.table database name), who) := by
  have hlist := isRun_raws hne hraw
  have hkind : ∀ kind : RoutineKind, ¬kind.sql.toList <:+: "ON".toList ++
      ' ' :: (object databaseText nameText ++ ' ' :: ("TO".toList ++ ' ' :: who)) := by
    intro kind
    have hword := kind_mem_searchedWords kind
    obtain ⟨hblank, -⟩ := not_mem_searchedWord hword
    rw [infix_append_cons hblank, infix_append_cons hblank, infix_append_cons hblank]
    simp only [not_or]
    exact ⟨by cases kind <;> decide, object_lacks hdatabase hname hword,
      by cases kind <;> decide, hlacks kind⟩
  have hroutine := privileges?_eq_none_of_gap Row.routine?
    (startsInk_append hlist.startsInk hlist.ne_nil)
    fun gap u hgap hu => routine?_eq_none_of_lacks hlist hkind hgap hu
  rw [Row.entitlement?, membership?_raws hne hraw, Option.none_or, hroutine, Option.none_or]
  exact privileges?_raws Row.table? hne hraw table?_needsOn (startsInk_on _)
    (table?_object hdatabase hname hwho)

theorem entitlement?_routine {raws : List String} (kind : RoutineKind)
    {database name databaseText nameText : String} (hne : raws ≠ [])
    (hraw : ∀ raw ∈ raws, IsPrivilege raw.toList) (hdatabase : IsPart database databaseText)
    (hname : IsPart name nameText) (hwho : Row.IsRecipient who) :
    Row.entitlement? (' ' :: (commaList (raws.map String.toList) ++ ' ' :: ("ON".toList ++
      ' ' :: (kind.sql.toList ++ ' ' :: (object databaseText nameText ++
        ' ' :: ("TO".toList ++ ' ' :: who)))))) =
      some (.privileges (Privilege.canonicalize raws) (.routine kind database name), who) := by
  have hroutine := privileges?_raws Row.routine? hne hraw routine?_needsOn (startsInk_on _)
    (routine?_object kind hdatabase hname hwho)
  rw [Row.entitlement?, membership?_raws hne hraw, Option.none_or, hroutine]
  rfl

theorem isRun_texts {sep : List Char} {texts roles : List String} (hne : texts ≠ [])
    (hsep : IsComma sep) (h : List.Forall₂ SpellsRole texts roles) :
    Row.IsRun (sep.intercalate (texts.map String.toList)) := by
  refine (isRun_intercalate hsep (by simpa using hne) fun item hitem => ?_).1
  obtain ⟨hrun, hhead, -⟩ := spelled_item h hitem
  exact ⟨hrun, hhead⟩

theorem roles_texts {gap : List Char} {texts roles : List String} (hgap : ∀ c ∈ gap, c = ' ')
    (hne : texts ≠ []) (h : List.Forall₂ SpellsRole texts roles) :
    Row.roles ((',' :: gap).intercalate (texts.map String.toList)) = roles := by
  have hlead : ∀ c ∈ ([] : List Char), c = ' ' := by simp
  have hcomma : ∀ item ∈ texts.map String.toList, ',' ∉ item := by
    intro item hitem hc
    obtain ⟨-, -, hchar⟩ := spelled_item h hitem
    exact (isRoleChar_iff.mp (hchar ',' hc)).2.1 rfl
  have hsplit := map_strip_splitOn hgap hlead (by simpa using hne) hcomma
  have hmap := congrArg (List.map String.ofList) hsplit
  rw [List.map_map, List.map_map, List.map_map] at hmap
  exact hmap.trans (strip_texts h)

theorem entitlement?_membership {sep : List Char} {texts roles : List String} (hne : texts ≠ [])
    (hsep : IsComma sep) (h : List.Forall₂ SpellsRole texts roles) (hwho : Row.IsRecipient who) :
    Row.entitlement? (' ' :: (sep.intercalate (texts.map String.toList) ++
      ' ' :: ("TO".toList ++ ' ' :: who))) = some (.membership roles, who) := by
  have hlist := isRun_texts hne hsep h
  obtain ⟨gap, rfl, hgap⟩ := hsep.eq_cons
  have hroles := roles_texts hgap hne h
  have hread : Row.roleList? .beforeRole ((',' :: gap).intercalate (texts.map String.toList) ++
      ' ' :: 'T' :: 'O' :: ' ' :: who) =
        some ((',' :: gap).intercalate (texts.map String.toList),
          ' ' :: 'T' :: 'O' :: ' ' :: who) := by
    refine roleList?_intercalate hgap (by simpa using hne) (fun item hitem => ?_) _
    obtain ⟨hrun, -, hchar⟩ := spelled_item h hitem
    exact ⟨hrun.ne_nil, hchar⟩
  have hmember : Row.membership? (' ' :: ((',' :: gap).intercalate (texts.map String.toList) ++
      ' ' :: ("TO".toList ++ ' ' :: who))) = some (.membership roles, who) :=
    Row.membership?_eq_some.mpr ⟨[' '], (',' :: gap).intercalate (texts.map String.toList),
      " TO ".toList, by simp, by rw [hroles], isGap_space,
      startsInk_append hlist.startsInk hlist.ne_nil, hread, Row.isTo_space, hwho⟩
  rw [Row.entitlement?, hmember]
  rfl

theorem Spells.entitlement? (h : Spells text entitlement) (hwho : Row.IsRecipient who)
    (hlacks : ∀ kind : RoutineKind, ¬kind.sql.toList <:+: who) :
    Row.entitlement? (' ' :: (text.toList ++ ' ' :: ("TO".toList ++ ' ' :: who))) =
      some (entitlement, who) := by
  cases h with
  | @table raws database name databaseText nameText hne hraw hdatabase hname =>
    have hread := entitlement?_table hne hraw hdatabase hname hwho hlacks
    simpa [object, Privilege.toList_join] using hread
  | @routine raws kind database name databaseText nameText hne hraw hdatabase hname =>
    have hread := entitlement?_routine kind hne hraw hdatabase hname hwho
    simpa [object, Privilege.toList_join] using hread
  | @membership sep texts roles hne hsep h =>
    have hread := entitlement?_membership hne hsep h hwho
    simpa [String.toList_intercalate] using hread

theorem Spells.isQuiet (h : Spells text entitlement) : Row.IsQuiet text.toList := by
  have hon : Row.IsQuiet "ON".toList := Row.isQuiet_of_lacks (by decide) (by decide)
  cases h with
  | @table raws database name databaseText nameText hne hraw hdatabase hname =>
    have hquiet := (isRun_raws hne hraw).isQuiet.append_space
      (hon.append_space (isQuiet_object hdatabase hname))
    simpa [object, Privilege.toList_join] using hquiet
  | @routine raws kind database name databaseText nameText hne hraw hdatabase hname =>
    have hkind : Row.IsQuiet kind.sql.toList := by
      cases kind <;> exact Row.isQuiet_of_lacks (by decide) (by decide)
    have hquiet := (isRun_raws hne hraw).isQuiet.append_space
      (hon.append_space (hkind.append_space (isQuiet_object hdatabase hname)))
    simpa [object, Privilege.toList_join] using hquiet
  | @membership sep texts roles hne hsep h =>
    have hquiet := (isRun_texts hne hsep h).isQuiet
    simpa [String.toList_intercalate] using hquiet

theorem login_clause_lacks {user host : String} (huser : IsName user.toList)
    (hhost : IsName host.toList) (g : Grant) (kind : RoutineKind) :
    ¬kind.sql.toList <:+: (login user host).toList ++ g.optionClause.toList := by
  have hword := kind_mem_searchedWords kind
  have hlogin := login_lacks huser hhost hword
  obtain ⟨hblank, -⟩ := not_mem_searchedWord hword
  rcases g.optionClause_lacks kind with he | ⟨words, he, hwords⟩ <;> rw [he]
  · rwa [List.append_nil]
  · rw [infix_append_cons hblank, not_or]
    exact ⟨hlogin, hwords⟩

/-- A row up to the clause behind its login. -/
def body (text user host : String) : List Char :=
  "GRANT".toList ++ ' ' :: (text.toList ++ ' ' :: ("TO".toList ++ ' ' :: (login user host).toList))

theorem body_endsInk (text user host : String) : EndsInk (body text user host) := by
  have hsplit : body text user host = ("GRANT".toList ++ ' ' :: (text.toList ++
      ' ' :: ("TO".toList ++ [' ']))) ++ (login user host).toList := by simp [body]
  rw [hsplit]
  exact endsInk_append (login_endsInk user host) (by simp [login, backTicked])

theorem isQuiet_body {user host : String} (h : Spells text entitlement)
    (huser : IsName user.toList) (hhost : IsName host.toList) :
    Row.IsQuiet (body text user host) := by
  have hlogin : Row.IsQuiet (login user host).toList := by
    refine Row.isQuiet_of_lacks (login_line huser hhost) fun word hword => ?_
    refine login_lacks huser hhost ?_
    revert word
    decide
  have hgrant : Row.IsQuiet "GRANT".toList := Row.isQuiet_of_lacks (by decide) (by decide)
  have hto : Row.IsQuiet "TO".toList := Row.isQuiet_of_lacks (by decide) (by decide)
  exact hgrant.append_space (h.isQuiet.append_space (hto.append_space hlogin))

/-- An option behind a row that requires nothing does not make it require anything. -/
theorem requirement_append_optionClause {s : List Char} (hs : Row.IsQuiet s) (g : Grant) :
    Row.requirement (s ++ g.optionClause.toList) = [] := by
  have hclause : ∀ words : List Char, '\n' ∉ words → ¬"REQUIRE".toList <:+: words →
      Row.requirement (s ++ ' ' :: words) = [] := by
    intro words hline hwords
    refine (hs.noRequire.append_space (Row.noRequire_of_lacks hwords)).requirement_eq_nil ?_
    simp [hs.line, hline]
  rcases g.optionClause_eq with ⟨he, -⟩ | ⟨he | he, -⟩ <;> rw [he]
  · rw [String.toList_empty, List.append_nil]
    exact hs.noRequire.requirement_eq_nil hs.line
  · exact hclause "WITH GRANT OPTION".toList (by decide) (by decide)
  · exact hclause "WITH ADMIN OPTION".toList (by decide) (by decide)

/-- A row that a server lists is read as the grant that it spells. -/
theorem parse_spelled {g : Grant} {text user host : String} (htext : Spells text g.entitlement)
    (hlogin : g.identity = .user user host) (huser : IsName user.toList)
    (hhost : IsName host.toList) (htls : g.tlsOption = "") :
    Row.parse ("GRANT " ++ text ++ " TO " ++ login user host ++ g.optionClause) =
      .ok (.grant g) := by
  have hsplit : ("GRANT " ++ text ++ " TO " ++ login user host ++ g.optionClause).toList =
      body text user host ++ g.optionClause.toList := by
    simp [body]
  have hquiet := isQuiet_body htext huser hhost
  have hstarts : StartsInk (body text user host ++ g.optionClause.toList) := by
    rw [body, List.append_assoc]
    exact startsInk_of_head rfl rfl
  have hends : EndsInk (body text user host ++ g.optionClause.toList) := by
    rcases g.optionClause_eq with ⟨he, -⟩ | ⟨he | he, -⟩ <;> rw [he]
    · simpa using body_endsInk text user host
    · exact endsInk_append (endsInk_of_last rfl rfl) (by decide)
    · exact endsInk_append (endsInk_of_last rfl rfl) (by decide)
  have hread : (after? "GRANT" (body text user host ++ g.optionClause.toList)).bind
      Row.entitlement? =
        some (g.entitlement, (login user host).toList ++ g.optionClause.toList) := by
    have hentitlement := htext.entitlement? (isRecipient_login huser hhost g)
      (login_clause_lacks huser hhost g)
    rw [body, List.append_assoc, after?_eq_some.mpr rfl, Option.bind_some]
    simpa using hentitlement
  have hrevoke : after? "REVOKE" (body text user host ++ g.optionClause.toList) = none := rfl
  have hgrant : Row.grant? (body text user host ++ g.optionClause.toList) = some g := by
    simp only [Row.grant?, Option.bind_eq_bind, hread, Option.bind_some,
      identity?_login huser hhost, requirement_append_optionClause hquiet,
      g.hasOption_append_optionClause hquiet.noOption.phrases]
    have hnone : String.ofList [] = g.tlsOption := htls.symm
    rw [hnone, ← hlogin]
  rw [Row.parse_eq (by rw [hsplit, trim_of_ink hstarts hends]) (by rw [hsplit, hrevoke]), hsplit,
    hgrant]

end Rows

/-- A grant on columns, in a database whose name holds a word of its row. -/
def listedGrant : Grant where
  entitlement := .privileges ["SELECT(id, name)", "CREATEROUTINE"] (.table "a ON b" "*")
  identity := .user "bob" "%"
  grantOption := true
  tlsOption := ""

theorem canonicalize_listedGrant :
    Privilege.canonicalize ["SELECT (`id`, `name`)", "CREATE ROUTINE"] =
      ["SELECT(id, name)", "CREATEROUTINE"] := by
  have hcolumns : ("id,name".toList.splitOn ',').map String.ofList = ["id", "name"] := rfl
  have hsort : Privilege.sortColumns "id,name".toList = "id, name" :=
    Privilege.sortColumns_of_pairwise hcolumns (by decide)
  have hselect : Privilege.canonical "SELECT (`id`, `name`)" =
      "SELECT(" ++ Privilege.sortColumns "id,name".toList ++ ")" := rfl
  have hroutine : Privilege.canonical "CREATE ROUTINE" = "CREATEROUTINE" := rfl
  rw [Privilege.canonicalize, List.map_cons, List.map_cons, hselect, hroutine, hsort]
  decide

theorem spells_listedGrant :
    Spells "SELECT (`id`, `name`), CREATE ROUTINE ON `a ON b`.*" listedGrant.entitlement := by
  have hword : ∀ word ∈ ["SELECT".toList, "CREATE".toList, "ROUTINE".toList], IsWord word := by
    simp only [List.mem_cons, List.not_mem_nil, or_false, forall_eq_or_imp, forall_eq]
    refine ⟨?_, ?_, ?_⟩ <;>
      exact ⟨⟨by decide, by decide, by decide⟩, List.all_eq_true.mp rfl, by decide, by decide⟩
  have hcolumn : ∀ column ∈ ["id".toList, "name".toList], ∀ c ∈ column,
      Row.isRoleChar c = true := by
    simp only [List.mem_cons, List.not_mem_nil, or_false, forall_eq_or_imp, forall_eq]
    exact ⟨List.all_eq_true.mp rfl, List.all_eq_true.mp rfl⟩
  have hselect : IsPrivilege ([' '].intercalate ["SELECT".toList] ++ ([' '] ++
      '(' :: ([',', ' '].intercalate (["id".toList, "name".toList].map ticked) ++ [')']))) :=
    .columns (by decide) (fun word h => hword word (by simp_all)) (Or.inr rfl) (Or.inr rfl)
      hcolumn
  have hroutine : IsPrivilege ([' '].intercalate ["CREATE".toList, "ROUTINE".toList]) :=
    .words (by decide) fun word h => hword word (List.mem_cons_of_mem _ h)
  have hraw : ∀ raw ∈ ["SELECT (`id`, `name`)", "CREATE ROUTINE"], IsPrivilege raw.toList := by
    simp only [List.mem_cons, List.not_mem_nil, or_false, forall_eq_or_imp, forall_eq]
    exact ⟨hselect, hroutine⟩
  have hname : IsName "a ON b".toList := ⟨by decide, forall_eq_false rfl, by decide⟩
  have hspells := Spells.table (by decide) hraw (.quoted hname) .all
  rw [canonicalize_listedGrant] at hspells
  exact hspells

theorem listedGrant_parse_spelled : Row.parse
    "GRANT SELECT (`id`, `name`), CREATE ROUTINE ON `a ON b`.* TO `bob`@`%` WITH GRANT OPTION" =
      .ok (.grant listedGrant) := by
  have hrow : "GRANT " ++ "SELECT (`id`, `name`), CREATE ROUTINE ON `a ON b`.*" ++ " TO " ++
      login "bob" "%" ++ listedGrant.optionClause =
    "GRANT SELECT (`id`, `name`), CREATE ROUTINE ON `a ON b`.* TO `bob`@`%` WITH GRANT OPTION" :=
    by decide
  have hread := parse_spelled spells_listedGrant rfl ⟨by decide, forall_eq_false rfl, by decide⟩
    ⟨by decide, forall_eq_false rfl, by decide⟩ rfl
  rw [hrow] at hread
  exact hread

end AccountGrants.Spelling
