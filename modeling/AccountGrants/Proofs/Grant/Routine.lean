import AccountGrants.Proofs.Grant.Addressee
import AccountGrants.Proofs.Grant.Reference
import AccountGrants.Proofs.Grant.RoundTrip
import AccountGrants.Proofs.Row.Canonical

/-!
Statements for the routines that rows list. A row quotes the name of a routine and a statement does
not, so the statement for a routine that is read off a row is read back as the same grant exactly if
the names can be told from their reference without those quotes:
`Grant.parse_routine_statement_iff`.
-/

namespace AccountGrants

open Text

/-! What a statement is silent about. -/

theorem isDivider_singleQuote : Row.IsDivider singleQuote :=
  ⟨by decide, by decide, by decide, by decide⟩

theorem isDivider_at : Row.IsDivider '@' :=
  ⟨by decide, by decide, by decide, by decide⟩

theorem isDivider_dot : Row.IsDivider '.' :=
  ⟨by decide, by decide, by decide, by decide⟩

/-- Blanks in a list stand behind a comma or behind ALL, so none is part of a clause. -/
theorem IsEntry.isSilent {list : List Char} (h : IsEntry list) : Row.IsSilent list where
  lacksRequire := by
    rintro p d q rfl
    exact h.packed.no_blank (p := p ++ "REQUIR".toList) (c := 'E') (q := q) (by simp) (by decide)
  noOption := by
    refine Row.optionWithin_eq_false false fun phrase hphrase hword => ?_
    obtain ⟨front, last, hsplit, hlast⟩ : ∃ front last,
        phrase.toList = front ++ last :: ' ' :: "OPTION".toList ∧ last ≠ ',' ∧ last ≠ 'L' := by
      simp only [Row.optionPhrases, List.mem_cons, List.not_mem_nil, or_false] at hphrase
      rcases hphrase with rfl | rfl
      · exact ⟨"GRAN".toList, 'T', rfl, by decide⟩
      · exact ⟨"ADMI".toList, 'N', rfl, by decide⟩
    obtain ⟨p, q, rfl⟩ := hword
    have hink := h.packed.no_blank (p := p ++ front) (c := last) (d := ' ')
      (q := "OPTION".toList ++ q) (by rw [hsplit]; simp) hlast
    cases hink

theorem isSilent_singleQuoted {name : String} (h : Row.IsSilent name.toList) :
    Row.IsSilent (singleQuoted name).toList := by
  rw [toList_singleQuoted]
  exact h.marked isDivider_singleQuote

theorem isSilent_identity {identity : Identity}
    (h : ∀ name ∈ identity.names, Row.IsSilent name.toList) :
    Row.IsSilent identity.sql.toList := by
  cases identity with
  | user name host =>
    have hname := isSilent_singleQuoted (h name (by simp [Identity.names]))
    have hhost := isSilent_singleQuoted (h host (by simp [Identity.names]))
    have hsplit : (Identity.user name host).sql.toList =
        (singleQuoted name).toList ++ '@' :: (singleQuoted host).toList := by
      simp [Identity.sql]
    rw [hsplit]
    exact hname.append_cons hhost isDivider_at
  | role name => exact isSilent_singleQuoted (h name (by simp [Identity.names]))

theorem isSilent_reference {database name : String} (hdatabase : Row.IsSilent database.toList)
    (hname : Row.IsSilent name.toList) : Row.IsSilent (reference database name.toList) := by
  have hquoted : Row.IsSilent (quoteDatabase database).toList := by
    unfold quoteDatabase
    split
    next => exact hdatabase
    next =>
      rw [toList_backTicked]
      exact hdatabase.marked Row.isDivider_backTick
  exact hquoted.append_cons hname isDivider_dot

/-! A list that is read too far. -/

namespace Privilege

/-- Behind a list, another O makes a longer token of the last one. -/
theorem split_commaList_append {tokens : List String} {last : String}
    (hpiece : ∀ token ∈ tokens ++ [last], IsPiece token.toList) (more : List Char) :
    ∃ goesOn others, split (String.ofList
        (commaList ((tokens ++ [last]).map String.toList) ++ ' ' :: 'O' :: more)) =
      tokens ++ String.ofList (last.toList ++ ' ' :: 'O' :: goesOn) :: others := by
  have hpiece' : ∀ token ∈ tokens.map String.toList ++ [last.toList], IsPiece token := by
    rw [← List.map_singleton, ← List.map_append]
    exact List.forall_mem_map.mpr hpiece
  obtain ⟨goesOn, others, hbehind⟩ : ∃ goesOn others,
      pieces false true (' ' :: 'O' :: more) = (' ' :: 'O' :: goesOn) :: others := by
    have hcut : pieces false true (' ' :: 'O' :: more) =
        ((pieces false true more).modifyHead ('O' :: ·)).modifyHead (' ' :: ·) := rfl
    obtain ⟨first, others, hfirst⟩ := List.exists_cons_of_ne_nil (pieces_ne_nil false true more)
    exact ⟨first, others, by rw [hcut, hfirst]; rfl⟩
  refine ⟨goesOn, others.map String.ofList, ?_⟩
  rw [split, String.toList_ofList, List.map_append, List.map_singleton,
    pieces_commaList_append hpiece', hbehind]
  simp [Function.comp_def]

/-- Privileges are not read back from a list that goes on with a word behind it: no token with one
more O is spelled like the last one, or like USAGE. -/
theorem canonicalize_split_ne {tokens : List String} (hne : tokens ≠ [])
    (hcanonical : canonicalize tokens = tokens) (hpiece : ∀ token ∈ tokens, IsPiece token.toList)
    (more : List Char) :
    canonicalize (split (String.ofList
      (commaList (tokens.map String.toList) ++ ' ' :: 'O' :: more))) ≠ tokens := by
  obtain ⟨front, last, rfl⟩ := (List.eq_nil_or_concat' tokens).resolve_left hne
  obtain ⟨goesOn, others, hsplit⟩ := split_commaList_append hpiece more
  intro h
  have hfront : canonicalize front = front :=
    canonicalize_eq_self.mpr fun token htoken =>
      canonicalize_eq_self.mp hcanonical token (List.mem_append_left _ htoken)
  have hcount := count_le_canonical (c := 'O') (by decide) rfl (by decide)
    (String.ofList (last.toList ++ ' ' :: 'O' :: goesOn))
  have hlonger : (String.ofList (last.toList ++ ' ' :: 'O' :: goesOn)).toList.count 'O' =
      last.toList.count 'O' + goesOn.count 'O' + 1 := by
    simp [Nat.add_assoc]
  have husage : canonical (String.ofList (last.toList ++ ' ' :: 'O' :: goesOn)) ≠ usage := by
    intro heq
    have hnone : usage.toList.count 'O' = 0 := by decide
    rw [heq, hnone] at hcount
    omega
  rw [hsplit, canonicalize_append, hfront, List.append_cancel_left_eq,
    canonicalize_cons_of_ne husage] at h
  obtain ⟨hspelled, -⟩ := List.cons.inj h
  rw [hspelled] at hcount
  omega

end Privilege

/-! The list. -/

theorem isEntry_tokens {tokens : List String} (hne : tokens ≠ [])
    (htoken : ∀ token ∈ tokens, IsToken token.toList) :
    IsEntry (commaList (tokens.map String.toList)) := by
  refine isEntry_commaList (by simpa using hne) ?_
  simpa using fun token htoken' => (htoken token htoken').isEntry

theorem isSilent_list {tokens : List String} (hne : tokens ≠ [])
    (htoken : ∀ token ∈ tokens, IsToken token.toList) {holder : List Char}
    (hholder : Row.IsSilent holder) (hopens : ¬"OPTION".toList <+: holder) :
    Row.IsSilent ("GRANT".toList ++
      ' ' :: (commaList (tokens.map String.toList) ++ ' ' :: holder)) := by
  have hlist := isEntry_tokens hne htoken
  have hgrant : Row.IsSilent "GRANT".toList := Row.isSilent_of_lacks (by decide) (by decide)
  have hbehind := hlist.isSilent.append_space hholder hlist.notRequire hopens
  exact hgrant.append_space hbehind (by decide)
    fun hoption => hlist.notOption (prefix_append_cons (by decide) hoption)

/-! The object. -/

/-- What stands behind the list in the statement of a grant on a routine. -/
def routineHolder (kind : RoutineKind) (database name : String) (identity : Identity) : List Char :=
  "ON".toList ++ ' ' :: (kind.sql.toList ++ ' ' :: (reference database name.toList ++
    ' ' :: identity.recipient))

theorem not_option_of_head {s : List Char} (h : s.head? ≠ some 'O') : ¬"OPTION".toList <+: s := by
  rintro ⟨t, rfl⟩
  exact h rfl

section Holder

variable {kind : RoutineKind} {database name : String} {identity : Identity}

theorem isSilent_recipient (h : ∀ name ∈ identity.names, Row.IsSilent name.toList) :
    Row.IsSilent identity.recipient := by
  have hto : Row.IsSilent "TO".toList := Row.isSilent_of_lacks (by decide) (by decide)
  refine hto.append_space (isSilent_identity h) (by decide) (not_option_of_head ?_)
  rw [identity.sql_head]
  decide

theorem isSilent_routineHolder (hstripped : strip isNameMark database.toList = database.toList)
    (hdatabase : Row.IsSilent database.toList) (hname : Row.IsSilent name.toList)
    (hidentity : ∀ name ∈ identity.names, Row.IsSilent name.toList)
    (hrequire : ¬"REQUIRE".toList <:+ name.toList) :
    Row.IsSilent (routineHolder kind database name identity) := by
  have hon : Row.IsSilent "ON".toList := Row.isSilent_of_lacks (by decide) (by decide)
  have hkind : Row.IsSilent kind.sql.toList ∧ ¬"REQUIRE".toList <:+ kind.sql.toList ∧
      ∀ s, (kind.sql.toList ++ s).head? ≠ some 'O' := by
    cases kind with
    | procedure =>
      exact ⟨Row.isSilent_of_lacks (by decide) (by decide), by decide, by simp [RoutineKind.sql]⟩
    | function =>
      exact ⟨Row.isSilent_of_lacks (by decide) (by decide), by decide, by simp [RoutineKind.sql]⟩
  have hreference : ¬"REQUIRE".toList <:+ reference database name.toList :=
    fun hends => hrequire (suffix_append_cons (by decide) hends)
  have hhead : (reference database name.toList ++ ' ' :: identity.recipient).head? ≠ some 'O' := by
    obtain ⟨c, s, hhead, hc⟩ := head_reference hstripped name.toList
    rw [hhead]
    rcases hc with rfl | rfl <;> simp [backTick]
  have hobject := (isSilent_reference hdatabase hname).append_space (isSilent_recipient hidentity)
    hreference (not_option_of_head (by simp [Identity.recipient]))
  exact hon.append_space (hkind.1.append_space hobject hkind.2.1 (not_option_of_head hhead))
    (by decide) (not_option_of_head (hkind.2.2 _))

/-- The object is read behind ON, its kind and a gap. -/
theorem routine?_routineHolder (hstripped : strip isNameMark database.toList = database.toList)
    {object : Object} {who : List Char}
    (h : Row.routine? (routineHolder kind database name identity) = some (object, who)) :
    ∃ found mid, reference database name.toList ++ ' ' :: identity.recipient =
        found ++ (mid ++ who) ∧ object = Row.routineOf kind found ∧ Row.IsReference found ∧
      Row.IsTo mid ∧ Row.IsRecipient who := by
  have hkind : StartsInk (kind.sql.toList ++ ' ' :: (reference database name.toList ++
      ' ' :: identity.recipient)) := by
    cases kind <;> exact startsInk_of_head rfl rfl
  have hink : StartsInk (reference database name.toList ++ ' ' :: identity.recipient) := by
    obtain ⟨c, s, hhead, hc⟩ := head_reference hstripped name.toList
    rw [hhead]
    rcases hc with rfl | rfl <;> exact startsInk_of_head rfl rfl
  simp only [routineHolder, Row.routine?, Option.bind_eq_bind, after?_eq_some.mpr rfl,
    Option.bind_some, afterGap?_space hkind, Row.routineKind?_eq_some.mpr rfl,
    afterGap?_space hink] at h
  obtain ⟨⟨found, rest⟩, hread, hrest⟩ := Option.bind_eq_some_iff.mp h
  obtain ⟨who', hwho, hobject⟩ := Option.bind_eq_some_iff.mp hrest
  obtain ⟨mid, hsplit, hfound, hmid, hrecipient⟩ := Row.reference?_recipient? hink hread hwho
  cases hobject
  exact ⟨found, mid, hsplit, rfl, hfound, hmid, hrecipient⟩

/-- What is read as the routine that was meant is read from its whole reference, cut between the
names. -/
theorem reference_of_routine? (hstripped : strip isNameMark database.toList = database.toList)
    {who : List Char} (h : Row.routine? (routineHolder kind database name identity) =
      some (.routine kind database name, who)) :
    Row.IsReference (reference database name.toList) ∧
      cutAtDot false (reference database name.toList) =
        ((quoteDatabase database).toList, some name.toList) := by
  obtain ⟨found, mid, hsplit, hobject, hfound, hmid, -⟩ := routine?_routineHolder hstripped h
  rw [Row.routineOf, Object.routine.injEq] at hobject
  obtain ⟨rfl, hcut⟩ := reference_eq_of_names hsplit.symm (hmid.startsBlank who)
    hobject.2.1.symm hobject.2.2.symm
  exact ⟨hfound, hcut⟩

theorem routine?_of_reference (kind : RoutineKind)
    (hstripped : strip isNameMark database.toList = database.toList)
    (hname : strip isNameMark name.toList = name.toList)
    (hrecipient : Row.IsRecipient identity.sql.toList)
    (hreference : Row.IsReference (reference database name.toList))
    (hcut : cutAtDot false (reference database name.toList) =
      ((quoteDatabase database).toList, some name.toList)) :
    Row.routine? (routineHolder kind database name identity) =
      some (.routine kind database name, identity.sql.toList) := by
  refine Row.routine?_eq_some.mpr ⟨[' '], kind, [' '], reference database name.toList,
    " TO ".toList, ?_, (routineOf_reference hstripped kind hname hcut).symm, isGap_space,
    isGap_space, hreference, Row.isTo_space, hrecipient⟩
  simp [routineHolder, Identity.recipient]

end Holder

/-! The statement. -/

/-- Privileges that are read back from their list are read up to the object behind it. -/
theorem object_of_privileges? {tokens : List String} {object : Object} {rest who : List Char}
    {read : List Char → Option (Object × List Char)} (hread : NeedsOn read) (hne : tokens ≠ [])
    (hcanonical : Privilege.canonicalize tokens = tokens)
    (htoken : ∀ token ∈ tokens, IsToken token.toList)
    (hend : read ("ON".toList ++ ' ' :: ("ON".toList ++ rest)) = none)
    (h : Row.privileges? read
      (' ' :: (commaList (tokens.map String.toList) ++ ' ' :: ("ON".toList ++ rest))) =
        some (.privileges tokens object, who)) :
    read ("ON".toList ++ rest) = some (object, who) := by
  have hlist := isEntry_tokens hne htoken
  have hink := startsInk_append (t := ' ' :: ("ON".toList ++ rest)) hlist.startsInk hlist.ne_nil
  cases hobject : read ("ON".toList ++ rest) with
  | some found =>
    obtain ⟨object', who'⟩ := found
    rw [privileges?_statement read hne htoken hread (startsInk_on rest) hobject hend,
      hcanonical] at h
    cases h
    rfl
  | none =>
    -- a list that goes on behind ON makes other privileges
    exfalso
    have hbefore := Row.privilegesBefore?_list hlist.ne_nil hlist.line hlist.endsInk
      (startsInk_on rest) fun gap u _ hu hune =>
        hread.eq_none (hlist.packed.suffix ((List.suffix_append gap u).trans hu)) hune hend
    have hgap : (' ' :: (commaList (tokens.map String.toList) ++
        ' ' :: ("ON".toList ++ rest))).takeWhile isBlank = [' '] :=
      takeWhile_append_all (s := [' ']) isGap_space.2 hink
    have hblank : Row.blankPrivileges? [' '] = none := rfl
    rw [Row.privileges?_eq, afterGap?_space hink, Option.bind_some, hbefore, hobject, hgap, hblank,
      Option.map_none, Option.none_or, Option.bind_none, Option.or_none, Option.map_map] at h
    obtain ⟨⟨list, found⟩, hlater, hentitled⟩ := Option.map_eq_some_iff.mp h
    obtain ⟨more, rfl⟩ := Row.privilegesBefore?_head hlater
    have hsame := congrArg Prod.fst hentitled
    rw [Function.comp_apply, Row.entitled, Entitlement.privileges.injEq] at hsame
    exact Privilege.canonicalize_split_ne hne hcanonical
      (fun token htoken' => (htoken token htoken').isPiece) more hsame.1

namespace Grant

/-- An identity that is read off one line is written on one line. -/
theorem isRecipient_of_identity? {who : List Char} {identity : Identity}
    (hwho : Row.IsRecipient who) (h : Row.identity? who = some identity) :
    Row.IsRecipient identity.sql.toList := by
  have hline : ∀ name ∈ identity.names, '\n' ∉ name.toList := fun name hname hmem =>
    hwho.line (((Row.identity?_stands h).2 name hname).isInfix.subset hmem)
  refine ⟨identity.endsInk_sql.2, startsInk_of_head identity.sql_head rfl, ?_⟩
  cases identity with
  | user name host =>
    have hname := hline name (by simp [Identity.names])
    have hhost := hline host (by simp [Identity.names])
    simp [Identity.sql, toList_singleQuoted, singleQuote, hname, hhost]
  | role name =>
    have hname := hline name (by simp [Identity.names])
    simp [Identity.sql, toList_singleQuoted, singleQuote, hname]

/-- An identity that is read is read back from its quoted form. -/
theorem identity?_sql {who : List Char} {identity : Identity}
    (h : Row.identity? who = some identity) :
    Row.identity? identity.sql.toList = some identity := by
  have hread := (isUnmarked_of_identity? h).identity? (rfl : after? "@" [] = none)
  rwa [List.append_nil, if_neg (Row.identity?_stands h).1] at hread

section Routine

variable {g : Grant} {tokens : List String} {kind : RoutineKind} {database name : String}

theorem toList_statement_routine
    (he : g.entitlement = .privileges tokens (.routine kind database name))
    (hoption : g.grantOption = false) (htls : g.tlsOption = "") :
    g.statement.toList = g.body ∧
      g.body = "GRANT".toList ++ ' ' :: (commaList (tokens.map String.toList) ++
        ' ' :: routineHolder kind database name g.identity) := by
  have hclauses : g.clauses = [] := by
    rw [clauses, optionClause, he, htls, hoption]
    rfl
  refine ⟨by rw [toList_statement, hclauses, List.append_nil], ?_⟩
  rw [body, holder, he]
  simp [Entitlement.list, Entitlement.items, Object.sql, routineHolder, reference]

/-- The statement of a grant on a routine is read back if its privileges, its object and its
identity are, and it states nothing else. -/
theorem parse_routine_statement
    (he : g.entitlement = .privileges tokens (.routine kind database name))
    (hoption : g.grantOption = false) (htls : g.tlsOption = "") (hne : tokens ≠ [])
    (htoken : ∀ token ∈ tokens, IsToken token.toList) :
    Row.parse g.statement = .ok (.grant g) ↔
      (∃ who, Row.privileges? Row.routine? (' ' :: (commaList (tokens.map String.toList) ++
          ' ' :: routineHolder kind database name g.identity)) =
            some (.privileges tokens (.routine kind database name), who) ∧
        Row.identity? who = some g.identity) ∧ Row.IsSilent g.body := by
  obtain ⟨hchars, hbody⟩ := toList_statement_routine he hoption htls
  have hends := g.body_endsInk
  have htrim : trim g.statement.toList = g.statement.toList := by
    rw [hchars]
    exact trim_of_ink (startsInk_of_head rfl rfl) hends
  have hrevoke : after? "REVOKE" g.statement.toList = none := by
    rw [hchars]
    rfl
  have hmember : Row.membership? (' ' :: (commaList (tokens.map String.toList) ++
      ' ' :: routineHolder kind database name g.identity)) = none :=
    membership?_privileges hne htoken _
  have hparse : Row.parse g.statement = .ok (.grant g) ↔ Row.grant? g.body = some g := by
    rw [Row.parse_eq htrim hrevoke, hchars]
    cases Row.grant? g.body <;> simp
  rw [hparse, Row.grant?_eq_some, he, hoption, htls]
  constructor
  · rintro ⟨s, who, hsplit, hread, hidentity, hstates, hrequires⟩
    rw [hbody, List.append_cancel_left_eq] at hsplit
    subst hsplit
    refine ⟨⟨who, Row.privileges?_of_entitlement? hread, hidentity⟩, ?_, hstates⟩
    exact (Row.requirement_eq_nil hends).mp (by simpa using hrequires)
  · rintro ⟨⟨who, hread, hidentity⟩, hsilent⟩
    refine ⟨_, who, hbody, ?_, hidentity, hsilent.noOption, ?_⟩
    · rw [Row.entitlement?, hmember, Option.none_or, hread, Option.some_or]
    · rw [(Row.requirement_eq_nil hends).mpr hsilent.lacksRequire]

/-- The statement for a routine that is read off a row is read back as the same grant exactly if the
two names can be told from their reference. -/
theorem parse_routine_statement_iff {row : String} (h : Row.parse row = .ok (.grant g))
    (he : g.entitlement = .privileges tokens (.routine kind database name))
    (hoption : g.grantOption = false) (htls : g.tlsOption = "") (hne : tokens ≠ [])
    (htoken : ∀ token ∈ tokens, IsToken token.toList) :
    Row.parse g.statement = .ok (.grant g) ↔ IsLegible database name := by
  have hgrant := (Row.parse_eq_grant h).2
  obtain ⟨hstands, hdatabase, hname, who, hwho, hidentity⟩ := Row.grant?_routine_names hgrant he
  have hcanonical : Privilege.canonicalize tokens = tokens := by
    have hcanonical := Row.isCanonical_of_parse h
    rwa [he] at hcanonical
  obtain ⟨-, -, -, -, -, hstates, hrequires⟩ := Row.grant?_eq_some.mp hgrant
  have hrow : Row.IsSilent (trim row.toList) := by
    refine ⟨(Row.requirement_eq_nil (endsInk_trim _)).mp ?_, hstates.trans hoption⟩
    rw [htls] at hrequires
    simpa using hrequires
  have hsilent : ∀ text ∈ database :: name :: g.identity.names, Row.IsSilent text.toList :=
    fun text htext => (hstands text htext).isSilent hrow
  rw [parse_routine_statement he hoption htls hne htoken, isLegible_iff]
  constructor
  · rintro ⟨⟨who, hread, -⟩, hbody⟩
    have hobject := object_of_privileges? routine?_needsOn hne hcanonical htoken
      (routine?_on_on _) hread
    obtain ⟨hreference, hcut⟩ := reference_of_routine? hdatabase hobject
    refine ⟨hreference, hcut, fun hends => ?_⟩
    -- the space behind the name would begin a requirement
    obtain ⟨p, hp⟩ := hends
    have hsplit : g.body = "GRANT".toList ++ ' ' :: (commaList (tokens.map String.toList) ++
        ' ' :: ("ON".toList ++ ' ' :: (kind.sql.toList ++ ' ' :: ((quoteDatabase database).toList ++
          '.' :: p)))) ++ ("REQUIRE".toList ++ ' ' :: g.identity.recipient) := by
      rw [(toList_statement_routine he hoption htls).2, routineHolder, reference, ← hp]
      simp only [List.append_assoc, List.cons_append]
    cases hbody.lacksRequire _ _ _ hsplit
  · rintro ⟨hreference, hcut, hrequire⟩
    have hobject := routine?_of_reference kind hdatabase hname
      (isRecipient_of_identity? hwho hidentity) hreference hcut
    have hread := privileges?_statement Row.routine? hne htoken routine?_needsOn (startsInk_on _)
      hobject (routine?_on_on _)
    rw [hcanonical] at hread
    refine ⟨⟨_, hread, identity?_sql hidentity⟩, ?_⟩
    rw [(toList_statement_routine he hoption htls).2]
    refine isSilent_list hne htoken (isSilent_routineHolder hdatabase
      (hsilent database (by simp)) (hsilent name (by simp))
      (fun text htext => hsilent text (by simp [htext])) hrequire) ?_
    rintro ⟨rest, hrest⟩
    cases hrest

end Routine

/-- A grant on a routine in a database whose name holds a dot and a blank. -/
def nightlyGrant : Grant where
  entitlement := .privileges ["EXECUTE", "ALTERROUTINE"] (.routine .procedure "my. app" "nightly")
  identity := .user "bob" "%"
  grantOption := false
  tlsOption := ""

theorem nightlyGrant_parse_statement :
    Row.parse "GRANT EXECUTE, ALTER ROUTINE ON PROCEDURE `my. app`.`nightly` TO `bob`@`%`" =
        .ok (.grant nightlyGrant) ∧
      Row.parse nightlyGrant.statement = .ok (.grant nightlyGrant) := by
  have hrow : Row.parse
      "GRANT EXECUTE, ALTER ROUTINE ON PROCEDURE `my. app`.`nightly` TO `bob`@`%`" =
        .ok (.grant nightlyGrant) := rfl
  have htoken : ∀ token ∈ ["EXECUTE", "ALTERROUTINE"], IsToken token.toList := by
    intro token hmem
    simp only [List.mem_cons, List.not_mem_nil, or_false] at hmem
    rcases hmem with rfl | rfl
    · exact IsToken.name ⟨by decide, by decide, by decide⟩ (List.all_eq_true.mp rfl)
    · exact IsToken.name ⟨by decide, by decide, by decide⟩ (List.all_eq_true.mp rfl)
  have hlegible : IsLegible "my. app" "nightly" :=
    (isLegible_iff_of_not_mem (by decide) (by decide)).mpr ⟨forall_eq_false rfl, by decide⟩
  exact ⟨hrow,
    (parse_routine_statement_iff hrow rfl rfl rfl (by decide) htoken).mpr hlegible⟩

/-- A grant on a routine whose name holds a blank. -/
def jobGrant : Grant where
  entitlement := .privileges ["EXECUTE"] (.routine .procedure "app" "nightly job")
  identity := .user "bob" "%"
  grantOption := false
  tlsOption := ""

/-- The row has the quotes that the statement lacks. -/
theorem jobGrant_statement_unreadable :
    Row.parse "GRANT EXECUTE ON PROCEDURE `app`.`nightly job` TO 'bob'@'%'" =
        .ok (.grant jobGrant) ∧
      jobGrant.statement = "GRANT EXECUTE ON PROCEDURE `app`.nightly job TO 'bob'@'%'" ∧
      Row.parse jobGrant.statement = .error (.unreadable jobGrant.statement) :=
  ⟨rfl, rfl, rfl⟩

-- a name that ends in REQUIRE is read, and takes what stands behind it for a requirement
example : Row.parse "GRANT EXECUTE ON PROCEDURE `app`.REQUIRE TO 'bob'@'%'" =
    .ok (.grant ⟨.privileges ["EXECUTE"] (.routine .procedure "app" "REQUIRE"), .user "bob" "%",
      false, "TO 'bob'@'%'"⟩) := rfl

end Grant

end AccountGrants
