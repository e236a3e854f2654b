import AccountGrants.Proofs.Grant.Holder
import AccountGrants.Proofs.Grant.Roles
import AccountGrants.Proofs.Privilege.Tokens
import AccountGrants.Proofs.Row.Extension
import AccountGrants.Proofs.Row.Quiet

/-!
The statement of an ordinary grant is read back as that grant. Each reader is tried on the statement
in its turn: the list stops the reader of memberships where privileges are granted, nothing looks
like a routine where a table is meant, and the privileges end where the object begins.
-/

namespace AccountGrants

open Text

/-! Privileges. -/

theorem startsInk_on (s : List Char) : StartsInk ("ON".toList ++ s) :=
  startsInk_of_head rfl rfl

/-- A reader of objects that begin with the word ON and a blank. -/
def NeedsOn (object : List Char → Option (Object × List Char)) : Prop :=
  ∀ {s : List Char} {found : Object × List Char}, object s = some found →
    ∃ d t, s = 'O' :: 'N' :: d :: t ∧ isBlank d = true

theorem append_gap_eq {gap s : List Char} (hgap : IsGap gap) :
    ∃ d t, "ON".toList ++ (gap ++ s) = 'O' :: 'N' :: d :: t ∧ isBlank d = true := by
  obtain ⟨hne, hblank⟩ := hgap
  cases gap with
  | nil => exact absurd rfl hne
  | cons d gap => exact ⟨d, gap ++ s, rfl, hblank d List.mem_cons_self⟩

theorem table?_needsOn : NeedsOn Row.table? := by
  intro s found h
  obtain ⟨gap, reference, mid, rfl, -, hgap, -⟩ := Row.table?_eq_some.mp h
  exact append_gap_eq hgap

theorem routine?_needsOn : NeedsOn Row.routine? := by
  intro s found h
  obtain ⟨gap, kind, gap', reference, mid, rfl, -, hgap, -⟩ := Row.routine?_eq_some.mp h
  exact append_gap_eq hgap

/-- A packed list has no ON in front of a blank, unless it ends in it. -/
theorem NeedsOn.eq_none {object : List Char → Option (Object × List Char)}
    (hobject : NeedsOn object) {u rest : List Char} (hpacked : Packed u) (hne : u ≠ [])
    (hend : object ("ON".toList ++ ' ' :: rest) = none) : object (u ++ ' ' :: rest) = none := by
  cases h : object (u ++ ' ' :: rest) with
  | none => rfl
  | some found =>
    obtain ⟨d, t, hu, hblank⟩ := hobject h
    match u with
    | [] => exact absurd rfl hne
    | [c] => cases hu
    | [c, c'] =>
      cases hu
      have hon : object ("ON".toList ++ ' ' :: rest) = some found := h
      rw [hend] at hon
      cases hon
    | c :: c' :: d' :: u' =>
      cases hu
      have hink := hpacked.no_blank (p := ['O']) (c := 'N') (q := u') rfl (by decide)
      rw [hblank] at hink
      cases hink

theorem IsToken.isPiece {token : List Char} (h : IsToken token) : Privilege.IsPiece token := by
  have hentry := h.isEntry
  refine ⟨hentry.ne_nil, hentry.startsInk, ?_⟩
  have hplain : ∀ {s : List Char}, (∀ c ∈ s, Row.isRoleChar c = true) →
      ∀ c ∈ s, Privilege.IsPlainChar c :=
    fun hs c hc => (isRoleChar_iff.mp (hs c hc)).2
  cases h with
  | all => rfl
  | name hitem hchar =>
    rw [← List.append_nil token, Privilege.closes_append_of_plain (hplain hchar)]
    rfl
  | @columns name columns hitem hchar hcolumns =>
    refine Privilege.closes_columns (hplain hchar) fun c hc => ?_
    rcases mem_commaList hc with rfl | rfl | ⟨column, hcolumn, hc⟩
    · decide
    · decide
    · exact (isRoleChar_iff.mp (hcolumns column hcolumn c hc)).2.2

/-- Privileges are read up to their object if no object can be read behind a gap in their list. -/
theorem privileges?_list (object : List Char → Option (Object × List Char)) {tokens : List String}
    {read : Object} {rest who : List Char} (hne : tokens ≠ [])
    (hpiece : ∀ token ∈ tokens, Privilege.IsPiece token.toList)
    (hline : '\n' ∉ commaList (tokens.map String.toList))
    (hends : EndsInk (commaList (tokens.map String.toList))) (hrest : StartsInk rest)
    (hfound : object rest = some (read, who))
    (hinside : ∀ gap u, IsGap gap → gap ++ u <:+ commaList (tokens.map String.toList) → u ≠ [] →
      object (u ++ ' ' :: rest) = none) :
    Row.privileges? object (' ' :: (commaList (tokens.map String.toList) ++ ' ' :: rest)) =
      some (.privileges (Privilege.canonicalize tokens) read, who) := by
  have hpiece' : ∀ token ∈ tokens.map String.toList, Privilege.IsPiece token := by
    simpa using hpiece
  have hstarts : StartsInk (commaList (tokens.map String.toList)) :=
    startsInk_commaList fun token htoken => (hpiece' token htoken).startsInk
  have hlist : commaList (tokens.map String.toList) ≠ [] :=
    commaList_ne_nil (by simpa using hne) fun token htoken => (hpiece' token htoken).ne_nil
  have hafter : afterGap? (' ' :: (commaList (tokens.map String.toList) ++ ' ' :: rest)) =
      some (commaList (tokens.map String.toList) ++ ' ' :: rest) :=
    afterGap?_space (startsInk_append hstarts hlist)
  have hbefore := Row.privilegesBefore?_append hlist hline hends hrest hfound hinside
  have hsplit :
      Privilege.split (String.ofList (commaList (tokens.map String.toList))) = tokens := by
    rw [← Privilege.toList_join, String.ofList_toList]
    exact Privilege.split_join hne hpiece
  rw [Row.privileges?_eq, hafter, Option.bind_some, hbefore, Option.some_or, Option.map_some,
    Row.entitled, hsplit]

/-- The privileges of a statement are those of the grant, and its object is the one behind them. -/
theorem privileges?_statement (object : List Char → Option (Object × List Char))
    {tokens : List String} {read : Object} {rest who : List Char} (hne : tokens ≠ [])
    (htoken : ∀ token ∈ tokens, IsToken token.toList) (hobject : NeedsOn object)
    (hrest : StartsInk rest) (hfound : object rest = some (read, who))
    (hend : object ("ON".toList ++ ' ' :: rest) = none) :
    Row.privileges? object (' ' :: (commaList (tokens.map String.toList) ++ ' ' :: rest)) =
      some (.privileges (Privilege.canonicalize tokens) read, who) := by
  have hlist : IsEntry (commaList (tokens.map String.toList)) := by
    refine isEntry_commaList (by simpa using hne) ?_
    simpa using fun token htoken' => (htoken token htoken').isEntry
  exact privileges?_list object hne (fun token htoken' => (htoken token htoken').isPiece)
    hlist.line hlist.endsInk hrest hfound fun gap u _ hu hune =>
      hobject.eq_none (hlist.packed.suffix ((List.suffix_append gap u).trans hu)) hune hend

theorem privileges?_eq_none_of_gap (object : List Char → Option (Object × List Char))
    {s : List Char} (hs : StartsInk s)
    (h : ∀ gap u, IsGap gap → gap ++ u <:+ s → object u = none) :
    Row.privileges? object (' ' :: s) = none := by
  have hgap : (' ' :: s).takeWhile isBlank = [' '] :=
    takeWhile_append_all (s := [' ']) isGap_space.2 hs
  rw [Row.privileges?_eq, afterGap?_space hs, Option.bind_some,
    Row.privilegesBefore?_eq_none_of_gap h, hgap]
  rfl

theorem privileges?_eq_none (object : List Char → Option (Object × List Char)) {s : List Char}
    (hs : StartsInk s) (h : ∀ u, u <:+ s → object u = none) :
    Row.privileges? object (' ' :: s) = none :=
  privileges?_eq_none_of_gap object hs fun gap u _ hu => h u ((List.suffix_append gap u).trans hu)

theorem membership?_eq_none {s list left : List Char} (hs : StartsInk s)
    (hread : Row.roleList? .beforeRole s = some (list, left)) (hleft : Row.recipient? left = none) :
    Row.membership? (' ' :: s) = none := by
  simp only [Row.membership?, Option.bind_eq_bind, afterGap?_space hs, Option.bind_some, hread,
    hleft, Option.bind_none]

/-- A list of privileges does not make its statement one of memberships. -/
theorem membership?_privileges {tokens : List String} (hne : tokens ≠ [])
    (htoken : ∀ token ∈ tokens, IsToken token.toList) (rest : List Char) :
    Row.membership? (' ' :: (commaList (tokens.map String.toList) ++
      ' ' :: ("ON".toList ++ rest))) = none := by
  have hne' : tokens.map String.toList ≠ [] := by simpa using hne
  have htoken' : ∀ token ∈ tokens.map String.toList, IsToken token := by simpa using htoken
  have hlist := isEntry_commaList hne' fun token ht => (htoken' token ht).isEntry
  obtain ⟨list, left, hread, hleft⟩ := roleList?_tokens hne' htoken' ('N' :: rest)
  exact membership?_eq_none (startsInk_append hlist.startsInk hlist.ne_nil) hread hleft

theorem membership?_roles {roles : List String} (hne : roles ≠ [])
    (hrole : ∀ role ∈ roles, IsRole role.toList) {who : List Char} (hwho : Row.IsRecipient who) :
    Row.membership? (' ' :: (commaList (roles.map String.toList) ++
      ' ' :: ("TO".toList ++ ' ' :: who))) = some (.membership roles, who) := by
  have hne' : roles.map String.toList ≠ [] := by simpa using hne
  have hrole' : ∀ role ∈ roles.map String.toList, IsRole role := by simpa using hrole
  have hlist := isEntry_commaList hne' fun role hr => (hrole' role hr).isEntry
  refine Row.membership?_eq_some.mpr ⟨[' '], commaList (roles.map String.toList), " TO ".toList, ?_,
    by rw [roles_commaList hne hrole], isGap_space, ?_, ?_, Row.isTo_space, hwho⟩
  · simp
  · exact startsInk_append hlist.startsInk hlist.ne_nil
  · refine roleList?_roles hne' (fun role hr => ?_) _
    exact ⟨(hrole' role hr).item.ne_nil, (hrole' role hr).char⟩

/-! What stands behind ON twice is no object. -/

theorem table?_on_on {c : Char} {s : List Char} (hink : isBlank c = false) (hc : c ≠ 'T') :
    Row.table? ("ON".toList ++ ' ' :: ("ON".toList ++ ' ' :: c :: s)) = none := by
  have hread : Row.reference? false ("ON".toList ++ ' ' :: c :: s) =
      some ("ON".toList, ' ' :: c :: s) := rfl
  simp only [Row.table?, Option.bind_eq_bind, after?_eq_some.mpr rfl, Option.bind_some,
    afterGap?_space (startsInk_on _), hread, recipient?_eq_none hink hc, Option.bind_none]

theorem routine?_on_on (s : List Char) :
    Row.routine? ("ON".toList ++ ' ' :: ("ON".toList ++ s)) = none := by
  have hkind : Row.routineKind? ("ON".toList ++ s) = none := rfl
  simp only [Row.routine?, Option.bind_eq_bind, after?_eq_some.mpr rfl, Option.bind_some,
    afterGap?_space (startsInk_on s), hkind, Option.bind_none]

theorem head_quoteDatabase {name : String} (h : ∀ c ∈ name.toList, isNameMark c = false) :
    ∃ c s, (quoteDatabase name).toList = c :: s ∧ (c = backTick ∨ c = '*') := by
  rw [quoteDatabase_of_unmarked h]
  split
  · exact ⟨'*', [], rfl, Or.inr rfl⟩
  · exact ⟨backTick, _, toList_backTicked name, Or.inl rfl⟩

theorem table?_on_sql {database : String} (h : ∀ c ∈ database.toList, isNameMark c = false)
    (name : String) (rest : List Char) :
    Row.table? ("ON".toList ++ ' ' :: ("ON".toList ++
      ' ' :: ((Object.table database name).sql.toList ++ rest))) = none := by
  obtain ⟨c, s, hhead, hc⟩ := head_quoteDatabase h
  simp only [Object.sql, String.toList_append, hhead, List.cons_append]
  rcases hc with rfl | rfl
  · exact table?_on_on rfl (by decide)
  · exact table?_on_on rfl (by decide)

/-! No statement of a grant on a table looks like one on a routine. -/

theorem kind_mem_searchedWords (kind : RoutineKind) : kind.sql ∈ searchedWords := by
  cases kind <;> decide

/-- Behind a list, a routine can only be named where its kind stands. -/
theorem list_names_no_routine {list t p gap y : List Char} {kind : RoutineKind}
    (hlist : IsEntry list) (ht : Row.NoKind kind (' ' :: t)) (hgap : IsGap gap) :
    list ++ ' ' :: t ≠ p ++ ("ON".toList ++ gap) ++ (kind.sql.toList ++ y) := by
  intro h
  obtain ⟨hblank, -⟩ := not_mem_searchedWord (kind_mem_searchedWords kind)
  obtain ⟨hne, hall⟩ := hgap
  rcases append_cons_eq hblank h with ⟨y', hy⟩ | ⟨x, hx, hrest⟩
  · cases gap with
    | nil => exact hne rfl
    | cons d gap =>
      have hink := hlist.packed.no_blank (p := p ++ ['O']) (c := 'N') (d := d)
        (q := gap ++ (kind.sql.toList ++ y')) (by rw [hy]; simp) (by decide)
      rw [hall d List.mem_cons_self] at hink
      cases hink
  · -- the gap ends in front of the kind
    obtain ⟨gap, e, rfl⟩ := (List.eq_nil_or_concat' gap).resolve_left hne
    obtain ⟨front, d, hfront⟩ :=
      (List.eq_nil_or_concat' (' ' :: x)).resolve_left (List.cons_ne_nil ' ' x)
    have hsame : (p ++ ("ON".toList ++ gap)) ++ [e] = (list ++ front) ++ [d] := by
      rw [List.append_assoc list, ← hfront, ← hx]
      simp
    obtain rfl : e = d := by
      have hlast := congrArg List.getLast? hsame
      rw [List.getLast?_concat, List.getLast?_concat] at hlast
      exact Option.some.inj hlast
    have hink := ht front e y (by rw [hrest, ← List.cons_append, hfront]; simp)
    rw [hall e (by simp)] at hink
    cases hink

/-- An ON and its gap do not reach across a blank that an E comes before. -/
theorem on_gap_suffix {p gap q s : List Char} (hgap : IsGap gap)
    (h : p ++ ("ON".toList ++ gap) = (q ++ ['E']) ++ ' ' :: s) :
    ∃ p', s = p' ++ ("ON".toList ++ gap) := by
  rcases List.append_eq_append_iff.mp h with ⟨v, hv, hs⟩ | ⟨v, -, hs⟩
  · have hmem : 'E' ∈ "ON".toList ++ gap ∨ v = [] := by
      cases hlast : v.getLast? with
      | none => exact Or.inr (List.getLast?_eq_none_iff.mp hlast)
      | some e =>
        have he : (q ++ ['E']).getLast? = some e := by
          rw [hv, List.getLast?_append, hlast]
          rfl
        rw [List.getLast?_concat] at he
        cases he
        exact Or.inl (by rw [hs]; exact List.mem_append_left _ (List.mem_of_getLast? hlast))
    rcases hmem with hmem | rfl
    · rcases List.mem_append.mp hmem with hmem | hmem
      · exact absurd hmem (by decide)
      · exact absurd (hgap.2 _ hmem) (by decide)
    · cases hs
  · cases v with
    | nil => cases hs
    | cons c v =>
      cases hs
      exact ⟨v, rfl⟩

namespace Grant

variable {g : Grant}

theorem isRecipient_identity (g : Grant)
    (hline : '\n' ∉ g.identity.sql.toList ++ g.clauses) :
    Row.IsRecipient (g.identity.sql.toList ++ g.clauses) where
  ne_nil := by simp [g.identity.endsInk_sql.2]
  startsInk := startsInk_append (startsInk_of_head g.identity.sql_head rfl) g.identity.endsInk_sql.2
  line := hline

theorem IsOrdinary.recipient (h : g.IsOrdinary) :
    Row.IsRecipient (g.identity.sql.toList ++ g.clauses) := by
  have hidentity := h.identity.line
  have hrequired := h.required_line
  have hoption : '\n' ∉ g.optionClause.toList := by
    rcases g.optionClause_eq with ⟨he, -⟩ | ⟨he | he, -⟩ <;> rw [he] <;> decide
  refine g.isRecipient_identity ?_
  unfold required at hrequired
  simp only [clauses, List.mem_append, not_or] at hrequired ⊢
  exact ⟨hidentity, hrequired.2, hoption⟩

theorem after?_at_clauses (g : Grant) : after? "@" g.clauses = none := by
  unfold clauses
  by_cases hclause : requireClause g.tlsOption = ""
  · rw [hclause]
    rcases g.optionClause_eq with ⟨he, -⟩ | ⟨he | he, -⟩ <;> rw [he] <;> rfl
  · rw [(toList_requireClause hclause).1]
    rfl

theorem optionClause_lacks (g : Grant) (kind : RoutineKind) : g.optionClause.toList = [] ∨
    ∃ words, g.optionClause.toList = ' ' :: words ∧ ¬kind.sql.toList <:+: words := by
  rcases g.optionClause_eq with ⟨he, -⟩ | ⟨he | he, -⟩ <;> rw [he]
  · exact Or.inl rfl
  · exact Or.inr ⟨"WITH GRANT OPTION".toList, rfl, by cases kind <;> decide⟩
  · exact Or.inr ⟨"WITH ADMIN OPTION".toList, rfl, by cases kind <;> decide⟩

theorem IsOrdinary.holder_lacks_kind (h : g.IsOrdinary) {tokens : List String}
    {database name : String} (htable : g.entitlement = .privileges tokens (.table database name))
    (kind : RoutineKind) : ¬kind.sql.toList <:+: g.holder := by
  have hword := kind_mem_searchedWords kind
  obtain ⟨hblank, -⟩ := not_mem_searchedWord hword
  have hentitlement := h.entitlement
  rw [htable] at hentitlement
  unfold holder
  rw [htable]
  dsimp only
  rw [infix_append_cons hblank, infix_append_cons hblank, not_or, not_or]
  refine ⟨by cases kind <;> decide, hentitlement.2.2.2.lacks hword ?_,
    lacks_recipient h.identity hword (by cases kind <;> decide)⟩
  exact fun kind' database' name' hroutine => by cases hroutine

/-- Neither the names nor the clauses of a grant on a table make its statement one on a routine. -/
theorem IsOrdinary.names_no_routine (h : g.IsOrdinary) {tokens : List String}
    {database name : String} (htable : g.entitlement = .privileges tokens (.table database name))
    {p gap y : List Char} {kind : RoutineKind} (hgap : IsGap gap) :
    g.entitlement.list ++ ' ' :: (g.holder ++ g.clauses) ≠
      p ++ ("ON".toList ++ gap) ++ (kind.sql.toList ++ y) := by
  unfold clauses
  have hlist := h.entitlement.isEntry
  have hholder := h.holder_lacks_kind htable kind
  obtain ⟨hblank, -⟩ := not_mem_searchedWord (kind_mem_searchedWords kind)
  by_cases hclause : requireClause g.tlsOption = ""
  · rw [hclause, String.toList_empty, List.nil_append]
    refine list_names_no_routine hlist (Row.noKind_of_lacks ?_) hgap
    rcases g.optionClause_lacks kind with he | ⟨words, he, hwords⟩
    · rwa [he, List.append_nil]
    · rw [he, infix_append_cons hblank, not_or]
      exact ⟨hholder, hwords⟩
  · have htls := h.requirement hclause
    rw [(toList_requireClause hclause).1]
    intro heq
    -- the text is cut at the blank in front of the requirement
    have hcut : (g.entitlement.list ++ ' ' :: (g.holder ++ ' ' :: "REQUIRE".toList)) ++
        ' ' :: (g.tlsOption.toList ++ g.optionClause.toList) =
          p ++ ("ON".toList ++ gap) ++ (kind.sql.toList ++ y) := by
      rw [← heq]
      simp
    rcases append_cons_eq hblank hcut with ⟨y', hy⟩ | ⟨x, hx, hrest⟩
    · refine list_names_no_routine hlist (Row.noKind_of_lacks ?_) hgap hy
      rw [infix_append_cons hblank, not_or]
      exact ⟨hholder, by cases kind <;> decide⟩
    · have hend : g.entitlement.list ++ ' ' :: (g.holder ++ ' ' :: "REQUIRE".toList) =
          (g.entitlement.list ++ ' ' :: (g.holder ++ ' ' :: "REQUIR".toList)) ++ ['E'] := by simp
      rw [hend] at hx
      obtain ⟨p', rfl⟩ := on_gap_suffix hgap hx
      have hinside : ∀ y',
          g.tlsOption.toList ≠ p' ++ ("ON".toList ++ gap) ++ (kind.sql.toList ++ y') := by
        intro y' hy
        refine htls.noRoutine gap kind hgap ⟨p', y', ?_⟩
        rw [hy]
        simp only [List.append_assoc]
      rcases g.optionClause_lacks kind with he | ⟨words, he, hwords⟩ <;> rw [he] at hrest
      · exact hinside y (by rw [← hrest, List.append_nil])
      · rcases append_cons_eq hblank hrest with ⟨y', hy⟩ | ⟨x', -, hx'⟩
        · exact hinside y' hy
        · exact hwords ⟨x', y, by rw [hx', List.append_assoc]⟩

theorem IsOrdinary.routine?_eq_none (h : g.IsOrdinary) {tokens : List String}
    {database name : String} (htable : g.entitlement = .privileges tokens (.table database name))
    {u : List Char} (hu : u <:+ g.entitlement.list ++ ' ' :: (g.holder ++ g.clauses)) :
    Row.routine? u = none := by
  cases hread : Row.routine? u with
  | none => rfl
  | some found =>
    obtain ⟨gap, kind, gap', reference, mid, rfl, -, hgap, -⟩ := Row.routine?_eq_some.mp hread
    obtain ⟨p, hp⟩ := hu
    have hnames : g.entitlement.list ++ ' ' :: (g.holder ++ g.clauses) =
        p ++ ("ON".toList ++ gap) ++
          (kind.sql.toList ++ (gap' ++ (reference ++ (mid ++ found.2)))) := by
      rw [← hp]
      simp only [List.append_assoc]
    exact absurd hnames (h.names_no_routine htable hgap)

theorem list_holder_privileges {tokens : List String} {object : Object}
    (he : g.entitlement = .privileges tokens object) :
    g.entitlement.list ++ ' ' :: (g.holder ++ g.clauses) =
      commaList (tokens.map String.toList) ++ ' ' :: ("ON".toList ++ ' ' :: (object.sql.toList ++
        ' ' :: ("TO".toList ++ ' ' :: (g.identity.sql.toList ++ g.clauses)))) := by
  simp only [holder, he, Entitlement.list, Entitlement.items, Identity.recipient, List.append_assoc,
    List.cons_append]

theorem IsOrdinary.entitlement?_table (h : g.IsOrdinary) {tokens : List String}
    {database name : String} (he : g.entitlement = .privileges tokens (.table database name)) :
    Row.entitlement? (' ' :: (g.entitlement.list ++ ' ' :: (g.holder ++ g.clauses))) =
      some (g.entitlement.listed, g.identity.sql.toList ++ g.clauses) := by
  have hlist := h.entitlement.isEntry
  have hroutine := privileges?_eq_none Row.routine? (startsInk_append hlist.startsInk hlist.ne_nil)
    fun u hu => h.routine?_eq_none he hu
  have hentitlement := h.entitlement
  rw [he] at hentitlement
  obtain ⟨hne, hcanonical, htoken, hdatabase, hname⟩ := hentitlement
  have htable := privileges?_statement Row.table? hne htoken table?_needsOn
    (startsInk_on _) (table?_sql hdatabase.unmarked hname.unmarked h.recipient)
    (table?_on_sql hdatabase.unmarked name _)
  rw [list_holder_privileges he] at hroutine ⊢
  rw [Row.entitlement?, membership?_privileges hne htoken, Option.none_or, hroutine, Option.none_or,
    htable, hcanonical, he]
  rfl

theorem IsOrdinary.entitlement?_routine (h : g.IsOrdinary) {tokens : List String}
    {kind : RoutineKind} {database name : String}
    (he : g.entitlement = .privileges tokens (.routine kind database name)) :
    Row.entitlement? (' ' :: (g.entitlement.list ++ ' ' :: (g.holder ++ g.clauses))) =
      some (g.entitlement.listed, g.identity.sql.toList ++ g.clauses) := by
  have hentitlement := h.entitlement
  rw [he] at hentitlement
  obtain ⟨hne, hcanonical, htoken, hdatabase, hname, hink⟩ := hentitlement
  have hroutine := privileges?_statement Row.routine? hne htoken routine?_needsOn
    (startsInk_on _) (routine?_sql kind hdatabase hname hink h.recipient) (routine?_on_on _)
  rw [list_holder_privileges he, Row.entitlement?, membership?_privileges hne htoken,
    Option.none_or, hroutine, hcanonical, he]
  rfl

theorem IsOrdinary.entitlement?_membership (h : g.IsOrdinary) {roles : List String}
    (he : g.entitlement = .membership roles) :
    Row.entitlement? (' ' :: (g.entitlement.list ++ ' ' :: (g.holder ++ g.clauses))) =
      some (g.entitlement.listed, g.identity.sql.toList ++ g.clauses) := by
  have hentitlement := h.entitlement
  rw [he] at hentitlement
  have hmember := membership?_roles hentitlement.1 hentitlement.2 h.recipient
  have hsplit : g.entitlement.list ++ ' ' :: (g.holder ++ g.clauses) =
      commaList (roles.map String.toList) ++
        ' ' :: ("TO".toList ++ ' ' :: (g.identity.sql.toList ++ g.clauses)) := by
    simp only [holder, he, Entitlement.list, Entitlement.items, Identity.recipient,
      List.append_assoc, List.cons_append]
  rw [hsplit, Row.entitlement?, hmember, he]
  rfl

theorem IsOrdinary.grant?_statement (h : g.IsOrdinary) :
    Row.grant? g.statement.toList = some g.listed := by
  have hsplit : g.statement.toList = "GRANT".toList ++
      ' ' :: (g.entitlement.list ++ ' ' :: (g.holder ++ g.clauses)) := by
    rw [toList_statement, body]
    simp only [List.append_assoc, List.cons_append]
  have hread : Row.entitlement? (' ' :: (g.entitlement.list ++ ' ' :: (g.holder ++ g.clauses))) =
      some (g.entitlement.listed, g.identity.sql.toList ++ g.clauses) := by
    cases he : g.entitlement with
    | membership roles => rw [← he]; exact h.entitlement?_membership he
    | privileges tokens object =>
      rw [← he]
      cases object with
      | table database name => exact h.entitlement?_table he
      | routine kind database name => exact h.entitlement?_routine he
  simp only [Row.grant?, h.requirement_statement, h.hasOption_statement, Option.bind_eq_bind]
  rw [hsplit, after?_eq_some.mpr rfl, Option.bind_some, hread]
  simp only [Option.bind_some, h.identity.identity? g.after?_at_clauses, String.ofList_toList]
  rfl

theorem IsOrdinary.trim_statement (h : g.IsOrdinary) :
    trim g.statement.toList = g.statement.toList := by
  refine trim_of_ink ?_ ?_
  · rw [toList_statement, body, List.append_assoc]
    exact startsInk_of_head rfl rfl
  · rw [toList_statement, clauses, ← List.append_assoc]
    change EndsInk (g.required ++ _)
    rcases g.optionClause_eq with ⟨he, -⟩ | ⟨he | he, -⟩ <;> rw [he]
    · simpa using h.required_endsInk
    · exact endsInk_append (endsInk_of_last rfl rfl) (by decide)
    · exact endsInk_append (endsInk_of_last rfl rfl) (by decide)

/-- The statement of an ordinary grant is read as that grant, up to the spelling of what is listed:
the tables of a database are an asterisk, the requirement NONE is the empty one, and any other
requirement runs on to the end of the statement. -/
theorem parse_statement (h : g.IsOrdinary) : Row.parse g.statement = .ok (.grant g.listed) := by
  have hrevoke : after? "REVOKE" g.statement.toList = none := by
    rw [toList_statement, body, List.append_assoc]
    rfl
  rw [Row.parse_eq h.trim_statement hrevoke, h.grant?_statement]

theorem noRoutine_of_lacks_on {tls rest : List Char} (h : ¬"ON".toList <:+: tls) :
    ¬"ON".toList ++ rest <:+: tls :=
  fun hroutine => h ((List.prefix_append _ _).isInfix.trans hroutine)

/-- A grant on columns, with names that could be taken for other parts of a statement. -/
def columnGrant : Grant where
  entitlement := .privileges ["ON", "UPDATE(age, name)"] (.table "a.b ON c TO d" "")
  identity := .user "TO" ""
  grantOption := false
  tlsOption := "SUBJECT '/CN=bob'"

theorem canonicalize_columnGrant :
    Privilege.canonicalize ["ON", "UPDATE(age, name)"] = ["ON", "UPDATE(age, name)"] := by
  have hcolumns : ("age,name".toList.splitOn ',').map String.ofList = ["age", "name"] := rfl
  have hsort : Privilege.sortColumns "age,name".toList = "age, name" :=
    Privilege.sortColumns_of_pairwise hcolumns (by decide)
  have hupdate : Privilege.canonical "UPDATE(age, name)" =
      "UPDATE(" ++ Privilege.sortColumns "age,name".toList ++ ")" := rfl
  have hon : Privilege.canonical "ON" = "ON" := rfl
  rw [Privilege.canonicalize, List.map_cons, List.map_cons, hupdate, hon, hsort]
  decide

theorem columnGrant_isOrdinary : columnGrant.IsOrdinary where
  entitlement := by
    have hon : IsToken "ON".toList :=
      IsToken.name ⟨by decide, by decide, by decide⟩ (List.all_eq_true.mp rfl)
    have hcolumns : IsToken "UPDATE(age, name)".toList := by
      have htoken : IsToken ("UPDATE".toList ++
          '(' :: (commaList ["age".toList, "name".toList] ++ [')'])) := by
        refine IsToken.columns ⟨by decide, by decide, by decide⟩ (List.all_eq_true.mp rfl) ?_
        intro column hcolumn
        rcases List.mem_cons.mp hcolumn with rfl | hcolumn
        · exact List.all_eq_true.mp rfl
        · cases List.mem_singleton.mp hcolumn
          exact List.all_eq_true.mp rfl
      exact htoken
    refine ⟨by decide, canonicalize_columnGrant, ?_, ⟨by decide, forall_eq_false rfl, by decide⟩,
      ⟨by decide, forall_eq_false rfl, by decide⟩⟩
    intro token htoken
    rcases List.mem_cons.mp htoken with rfl | htoken
    · exact hon
    · cases List.mem_singleton.mp htoken
      exact hcolumns
  identity :=
    ⟨⟨by decide, forall_eq_false rfl, by decide⟩, ⟨by decide, forall_eq_false rfl, by decide⟩⟩
  requirement := by
    intro _
    exact ⟨by decide, startsInk_of_head rfl rfl, endsInk_of_last rfl rfl, by decide, by decide,
      fun _ _ _ => noRoutine_of_lacks_on (by decide)⟩

theorem columnGrant_parse_statement : columnGrant.IsOrdinary ∧
    Row.parse columnGrant.statement = .ok (.grant { columnGrant with
      entitlement := .privileges ["ON", "UPDATE(age, name)"] (.table "a.b ON c TO d" "*") }) :=
  ⟨columnGrant_isOrdinary, parse_statement columnGrant_isOrdinary⟩

/-- A grant with a requirement that its holder may pass on. -/
def x509Grant : Grant where
  entitlement := .privileges ["SELECT"] (.table "app" "users")
  identity := .user "bob" "%"
  grantOption := true
  tlsOption := "X509"

theorem x509Grant_isOrdinary : x509Grant.IsOrdinary where
  entitlement := by
    refine ⟨by decide, rfl, ?_, ⟨by decide, forall_eq_false rfl, by decide⟩,
      ⟨by decide, forall_eq_false rfl, by decide⟩⟩
    intro token htoken
    cases List.mem_singleton.mp htoken
    exact IsToken.name ⟨by decide, by decide, by decide⟩ (List.all_eq_true.mp rfl)
  identity :=
    ⟨⟨by decide, forall_eq_false rfl, by decide⟩, ⟨by decide, forall_eq_false rfl, by decide⟩⟩
  requirement := by
    intro _
    exact ⟨by decide, startsInk_of_head rfl rfl, endsInk_of_last rfl rfl, by decide, by decide,
      fun _ _ _ => noRoutine_of_lacks_on (by decide)⟩

/-- The requirement of a grant that may be passed on does not come back as it was. -/
theorem x509Grant_parse_statement : x509Grant.IsOrdinary ∧
    Row.parse x509Grant.statement ≠ .ok (.grant x509Grant) := by
  refine ⟨x509Grant_isOrdinary, ?_⟩
  have hread : Row.parse x509Grant.statement =
      .ok (.grant { x509Grant with tlsOption := "X509 WITH GRANT OPTION" }) := rfl
  rw [hread]
  intro h
  have htls : "X509 WITH GRANT OPTION" = "X509" := by
    injection h with h
    injection h with h
    exact congrArg Grant.tlsOption h
  exact absurd htls (by decide)

end Grant

end AccountGrants
