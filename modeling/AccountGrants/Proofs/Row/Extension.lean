import AccountGrants.Proofs.Row.Clause
import AccountGrants.Proofs.Row.Reading

/-!
What a row reads as once an option clause is written behind it. Every reader leaves the clause over
behind the identity, unless the row ends in the word TO, behind which the clause itself is taken for
an identity (`Carries`). The requirement is the one field that takes the clause in.
-/

namespace AccountGrants.Row

open Text

/-- What may be written behind a row without being read as a part of it: words on one line, without
marks, without the word TO and without a requirement. -/
structure IsTrailer (t : List Char) : Prop where
  startsBlank : StartsBlank t
  endsInk : EndsInk t
  line : '\n' ∉ t
  unmarked : ∀ c ∈ t, isIdentityMark c = false
  noTo : ¬"TO".toList <:+: t
  noClause : clauseOnLine? t = none

theorem isTrailer_grantOption : IsTrailer " WITH GRANT OPTION".toList where
  startsBlank := ⟨' ', _, rfl, rfl⟩
  endsInk := endsInk_of_last rfl rfl
  line := by decide
  unmarked := forall_eq_false rfl
  noTo := by decide
  noClause := rfl

/-- A reading with a trailer left over behind it. -/
def leaving {α : Type} (t : List Char) : α × List Char → α × List Char
  | (a, who) => (a, who ++ t)

/-- A reading that takes an unmarked text for an identity. -/
def IsLost {α : Type} (found : α × List Char) : Prop :=
  ∀ c ∈ found.2, isIdentityMark c = false

/-- How a reading compares with the one that has a trailer behind it: either it only leaves the
trailer over, or `late` holds and the later reading is lost. -/
def Carries {β : Type} (late : Prop) (push : β → β) (lost : β → Prop) (old new : Option β) : Prop :=
  new = old.map push ∨ (late ∧ ∃ b, new = some b ∧ lost b)

section Carries

variable {β γ : Type} {late late' : Prop} {push : β → β} {lost : β → Prop}

theorem Carries.mono {old new : Option β} (h : Carries late push lost old new)
    (hlate : late → late') : Carries late' push lost old new := by
  rcases h with h | ⟨hl, h⟩
  · exact Or.inl h
  · exact Or.inr ⟨hlate hl, h⟩

theorem Carries.none : Carries late push lost none none :=
  Or.inl rfl

theorem Carries.or {old old' new new' : Option β} (h : Carries late push lost old new)
    (h' : Carries late push lost old' new') :
    Carries late push lost (old.or old') (new.or new') := by
  rcases h with rfl | ⟨hl, b, rfl, hb⟩
  · cases old with
    | none => simpa using h'
    | some a => exact Or.inl rfl
  · exact Or.inr ⟨hl, b, rfl, hb⟩

theorem Carries.map {old new : Option β} (h : Carries late push lost old new) (f : β → γ)
    {push' : γ → γ} {lost' : γ → Prop} (hpush : ∀ b, f (push b) = push' (f b))
    (hlost : ∀ b, lost b → lost' (f b)) :
    Carries late push' lost' (old.map f) (new.map f) := by
  rcases h with rfl | ⟨hl, b, rfl, hb⟩
  · refine Or.inl ?_
    cases old with
    | none => rfl
    | some a => simp [hpush]
  · exact Or.inr ⟨hl, f b, rfl, hlost b hb⟩

end Carries

section Readers

variable {α : Type} {read : List Char → Option (α × List Char)}

theorem IsTo.occurs {mid : List Char} (hmid : IsTo mid) (before who : List Char) :
    "TO".toList <:+: before ++ (mid ++ who) := by
  obtain ⟨gap, gap', rfl, -, -⟩ := hmid
  exact ⟨before ++ gap, gap' ++ who, by simp only [List.append_assoc]⟩

theorem ReadsUpTo.eq_none (hread : ReadsUpTo read) {s : List Char} (h : ¬"TO".toList <:+: s) :
    read s = none := by
  cases hs : read s with
  | none => rfl
  | some found =>
    obtain ⟨a, who⟩ := found
    obtain ⟨before, mid, rfl, hmid, -⟩ := hread.split hs
    exact absurd (hmid.occurs before who) h

theorem IsRecipient.append {who t : List Char} (hwho : IsRecipient who) (ht : '\n' ∉ t) :
    IsRecipient (who ++ t) where
  ne_nil := by simp [hwho.ne_nil]
  startsInk := startsInk_append hwho.startsInk hwho.ne_nil
  line := by simp [hwho.line, ht]

/-- A word that ends inside a trailer would stand there already. -/
theorem suffix_of_isTo {s t before mid u who : List Char} (ht : IsTrailer t) (hs : EndsInk s)
    (hmid : IsTo mid) (hu : t = u ++ who) (h : before ++ mid = s ++ u) : "TO".toList <:+ s := by
  obtain ⟨gap, gap', rfl, -, hgap'⟩ := hmid
  have hword : before ++ gap ++ ("TO".toList ++ gap') = s ++ u := by
    rw [← h]
    simp only [List.append_assoc]
  rcases List.append_eq_append_iff.mp hword with ⟨v, rfl, hv⟩ | ⟨v, -, hv⟩
  · rcases List.append_eq_append_iff.mp hv with ⟨w, hw, rfl⟩ | ⟨w, hw, hvw⟩
    · -- the gap behind TO cannot end in the row
      cases w with
      | nil => exact ⟨before ++ gap, by rw [hw, List.append_nil]⟩
      | cons c w =>
        have hne : v ≠ [] := by rw [hw]; simp
        have hlast : EndsInk (c :: w) := by
          rw [hw] at hs
          exact endsInk_of_append (endsInk_of_append hs)
        have hink := hlast _ (List.getLast?_eq_some_getLast (List.cons_ne_nil c w))
        have hmem := List.getLast_mem (List.cons_ne_nil c w)
        rw [hgap'.2 _ (List.mem_append_left u hmem)] at hink
        cases hink
    · cases w with
      | nil =>
        rw [List.append_nil] at hw
        exact ⟨before ++ gap, by rw [hw]⟩
      | cons c w =>
        -- the trailer begins with a blank, and TO has none
        obtain ⟨d, rest, hd, hblank⟩ := ht.startsBlank
        rw [hvw, hd] at hu
        cases hu
        have hink : ∀ d ∈ "TO".toList, isBlank d = false := forall_eq_false rfl
        have hc := hink c (by rw [hw]; simp)
        rw [hblank] at hc
        cases hc
  · refine absurd ?_ ht.noTo
    exact ⟨v, gap' ++ who, by rw [hu, hv]; simp only [List.append_assoc]⟩

theorem ReadsUpTo.carries (hread : ReadsUpTo read) {s t : List Char} (ht : IsTrailer t)
    (hs : EndsInk s) :
    Carries ("TO".toList <:+ s) (leaving t) IsLost (read s) (read (s ++ t)) := by
  cases hold : read s with
  | some found =>
    obtain ⟨a, who⟩ := found
    obtain ⟨before, mid, rfl, -, hwho⟩ := hread.split hold
    refine Or.inl ?_
    rw [← List.append_assoc] at hold ⊢
    rw [List.append_assoc (before ++ mid), hread.swap hold (hwho.append ht.line)]
    rfl
  | none =>
    cases hnew : read (s ++ t) with
    | none => exact Carries.none
    | some found =>
      obtain ⟨a, who⟩ := found
      obtain ⟨before, mid, hsplit, hmid, hwho⟩ := hread.split hnew
      rw [hsplit, ← List.append_assoc] at hnew
      rw [← List.append_assoc] at hsplit
      rcases List.append_eq_append_iff.mp hsplit with ⟨u, hu, hwhole⟩ | ⟨u, rfl, hu⟩
      · refine Or.inr ⟨suffix_of_isTo ht hs hmid hwhole hu, _, rfl, ?_⟩
        intro c hc
        exact ht.unmarked c (by rw [hwhole]; exact List.mem_append_right u hc)
      · have hne : u ≠ [] := by
          rintro rfl
          obtain ⟨c, rest, hc, hblank⟩ := ht.startsBlank
          rw [List.nil_append] at hu
          have hink := hwho.startsInk c (by rw [hu, hc]; rfl)
          rw [hblank] at hink
          cases hink
        have hshort : IsRecipient u := by
          refine ⟨hne, startsInk_of_append (hu ▸ hwho.startsInk) hne, ?_⟩
          intro hline
          exact hwho.line (by rw [hu]; exact List.mem_append_left t hline)
        rw [hread.swap hnew hshort] at hold
        cases hold

theorem afterGap?_carries (hread : ReadsUpTo read) {s t : List Char} (ht : IsTrailer t)
    (hs : EndsInk s) :
    Carries ("TO".toList <:+ s) (leaving t) IsLost ((afterGap? s).bind read)
      ((afterGap? (s ++ t)).bind read) := by
  by_cases hne : s = []
  · subst hne
    have hnone : (afterGap? t).bind read = none := by
      cases h : afterGap? t with
      | none => rfl
      | some rest =>
        obtain ⟨gap, rfl, -, -⟩ := afterGap?_eq_some.mp h
        refine hread.eq_none fun hto => ht.noTo ?_
        exact hto.trans (List.suffix_append gap rest).isInfix
    rw [List.nil_append, hnone]
    exact Carries.none
  · rw [afterGap?_append_right hs hne]
    cases h : afterGap? s with
    | none => exact Carries.none
    | some rest =>
      obtain ⟨gap, rfl, -, -⟩ := afterGap?_eq_some.mp h
      refine (hread.carries ht (endsInk_of_append hs)).mono fun hto => ?_
      exact hto.trans (List.suffix_append gap rest)

end Readers

section Privileges

variable {α : Type} {object : List Char → Option (α × List Char)}

/-- Privileges and what is read behind them, with a trailer left over behind that. -/
def leavingBehind {β : Type} (t : List Char) : β × (α × List Char) → β × (α × List Char)
  | (list, found) => (list, leaving t found)

theorem privilegesBefore?_carries (hobject : ReadsUpTo object) {s t : List Char}
    (ht : IsTrailer t) (hs : EndsInk s) :
    Carries ("TO".toList <:+ s) (leavingBehind t) (fun found => IsLost found.2)
      (privilegesBefore? object s) (privilegesBefore? object (s ++ t)) := by
  induction s with
  | nil =>
    have hnone : privilegesBefore? object t = none :=
      privilegesBefore?_eq_none fun u hu =>
        hobject.eq_none fun hto => ht.noTo (hto.trans hu.isInfix)
    rw [List.nil_append, hnone]
    exact Carries.none
  | cons c s ih =>
    have hrest : EndsInk s := endsInk_of_append (s := [c]) hs
    have hlate : "TO".toList <:+ s → "TO".toList <:+ c :: s :=
      fun hto => hto.trans (List.suffix_cons c s)
    rw [List.cons_append, privilegesBefore?_cons, privilegesBefore?_cons]
    split
    next => exact Carries.none
    next =>
      refine Carries.or ?_ ?_
      · unfold privilegesHere?
        split
        next => exact Carries.none
        next =>
          refine ((afterGap?_carries hobject ht hrest).mono hlate).map _ ?_ ?_
          · exact fun found => rfl
          · exact fun found hfound => hfound
      · refine ((ih hrest).mono hlate).map _ ?_ ?_
        · exact fun found => rfl
        · exact fun found hfound => hfound

end Privileges

theorem privileges?_carries {object : List Char → Option (Object × List Char)}
    (hobject : ReadsUpTo object) {s t : List Char} (ht : IsTrailer t) (hs : EndsInk s)
    (hne : s ≠ []) :
    Carries ("TO".toList <:+ s) (leaving t) IsLost (privileges? object s)
      (privileges? object (s ++ t)) := by
  rw [privileges?_eq, privileges?_eq, afterGap?_append_right hs hne,
    takeWhile_append_right hs hne]
  cases h : afterGap? s with
  | none => exact Carries.none
  | some rest =>
    obtain ⟨gap, hsplit, -, -⟩ := afterGap?_eq_some.mp h
    have hrest : EndsInk rest := endsInk_of_append (hsplit ▸ hs)
    have hlate : "TO".toList <:+ rest → "TO".toList <:+ s :=
      fun hto => hto.trans ⟨gap, hsplit.symm⟩
    have hbefore := (privilegesBefore?_carries hobject ht hrest).mono hlate
    have hblank : Carries ("TO".toList <:+ s) (leavingBehind t) (fun found => IsLost found.2)
        ((blankPrivileges? (s.takeWhile isBlank)).bind fun blank =>
          (object rest).map fun found => (blank, found))
        ((blankPrivileges? (s.takeWhile isBlank)).bind fun blank =>
          (object (rest ++ t)).map fun found => (blank, found)) := by
      cases blankPrivileges? (s.takeWhile isBlank) with
      | none => exact Carries.none
      | some blank =>
        refine ((hobject.carries ht hrest).mono hlate).map _ ?_ ?_
        · exact fun found => rfl
        · exact fun found hfound => hfound
    refine (hbefore.or hblank).map entitled ?_ ?_
    · exact fun found => rfl
    · exact fun found hfound => hfound

theorem entitlement?_carries {s t : List Char} (ht : IsTrailer t) (hs : EndsInk s) (hne : s ≠ []) :
    Carries ("TO".toList <:+ s) (leaving t) IsLost (entitlement? s) (entitlement? (s ++ t)) :=
  (membership?_readsUpTo.carries ht hs).or
    ((privileges?_carries routine?_readsUpTo ht hs hne).or
      (privileges?_carries table?_readsUpTo ht hs hne))

/-- What is written behind an identity does not change it. -/
theorem identity?_append {who t : List Char} {identity : Identity} (ht : IsTrailer t)
    (h : identity? who = some identity) : identity? (who ++ t) = some identity := by
  obtain ⟨⟨name, rest⟩, hname, hhost⟩ := Option.bind_eq_some_iff.mp h
  have hbehind : (after? "@" (rest ++ t)).bind markedName? =
      ((after? "@" rest).bind markedName?).map (leaving t) := by
    rw [after?_append (forall_eq_false rfl) ht.startsBlank]
    cases after? "@" rest with
    | none => rfl
    | some s =>
      simp only [Option.map_some, Option.bind_some]
      cases hmarked : markedName? s with
      | none => exact markedName?_append_none hmarked ht.unmarked
      | some found => exact markedName?_append hmarked t
  simp only [identity?, Option.bind_eq_bind, markedName?_append hname, Option.bind_some, hbehind]
  dsimp only at hhost
  cases hcase : (after? "@" rest).bind markedName? with
  | none => rw [hcase] at hhost; exact hhost
  | some found => rw [hcase] at hhost; exact hhost

/-- A row with a trailer behind it describes the same grant up to what its clauses say, or is no
longer readable, which takes a row that ends in TO. -/
theorem grant?_append {row t : List Char} {g : Grant} (ht : IsTrailer t) (hrow : EndsInk row)
    (h : grant? row = some g) :
    grant? (row ++ t) = some { g with
        grantOption := hasOption (row ++ t)
        tlsOption := String.ofList (requirement (row ++ t)) } ∨
      ("TO".toList <:+ row ∧ grant? (row ++ t) = none) := by
  obtain ⟨⟨entitlement, who⟩, hentitlement, hgrant⟩ := Option.bind_eq_some_iff.mp h
  obtain ⟨identity, hidentity, hg⟩ := Option.bind_eq_some_iff.mp hgrant
  obtain ⟨s, hword, hread⟩ := Option.bind_eq_some_iff.mp hentitlement
  obtain rfl := after?_eq_some.mp hword
  have hs : EndsInk s := endsInk_of_append hrow
  have hne : s ≠ [] := by
    rintro rfl
    cases hread
  have hafter : after? "GRANT" ("GRANT".toList ++ s ++ t) = some (s ++ t) := by
    rw [List.append_assoc]
    exact after?_eq_some.mpr rfl
  rcases entitlement?_carries ht hs hne with hnew | ⟨hto, ⟨entitlement', who'⟩, hnew, hlost⟩
  · refine Or.inl ?_
    rw [hread] at hnew
    simp only [grant?, Option.bind_eq_bind, hafter, Option.bind_some, hnew, Option.map_some,
      leaving, identity?_append ht hidentity]
    cases Option.some.inj hg
    rfl
  · refine Or.inr ⟨hto.trans (List.suffix_append "GRANT".toList s), ?_⟩
    simp only [grant?, Option.bind_eq_bind, hafter, Option.bind_some, hnew,
      identity?_eq_none hlost, Option.bind_none]

theorem tlsOption_of_grant? {row : List Char} {g : Grant} (h : grant? row = some g) :
    g.tlsOption = String.ofList (requirement row) := by
  obtain ⟨found, -, hgrant⟩ := Option.bind_eq_some_iff.mp h
  obtain ⟨identity, -, hg⟩ := Option.bind_eq_some_iff.mp hgrant
  cases Option.some.inj hg
  rfl

theorem parse_eq_grant {row : String} {g : Grant} (h : parse row = .ok (.grant g)) :
    after? "REVOKE" (trim row.toList) = none ∧ grant? (trim row.toList) = some g := by
  unfold parse at h
  dsimp only at h
  split at h
  next => cases h
  next hrevoke =>
    split at h
    next g' hg =>
      cases h
      exact ⟨by simpa using hrevoke, hg⟩
    next => cases h

theorem parse_eq {row : String} (htrim : trim row.toList = row.toList)
    (hrevoke : after? "REVOKE" row.toList = none) :
    parse row = match grant? row.toList with
      | some g => .ok (.grant g)
      | none => .error (.unreadable row) := by
  unfold parse
  dsimp only
  rw [htrim, hrevoke, String.ofList_toList]
  rfl

/-- The clause GRANT OPTION behind a row adds the option to its grant. It changes nothing else,
save that an open requirement takes the clause in, as what follows REQUIRE is taken as it stands. A
row that ends in TO may become unreadable. -/
theorem parse_append_grantOption {row : String} {g : Grant} (h : parse row = .ok (.grant g)) :
    (∃ tls, parse (String.ofList (trim row.toList) ++ " WITH GRANT OPTION") =
          .ok (.grant { g with grantOption := true, tlsOption := tls }) ∧
        (tls = (if requirementIsOpen (trim row.toList) then g.tlsOption ++ " WITH GRANT OPTION"
            else g.tlsOption) ∨
          ("REQUIRE".toList <:+ trim row.toList ∧ tls = "WITH GRANT OPTION"))) ∨
      ("TO".toList <:+ trim row.toList ∧
        parse (String.ofList (trim row.toList) ++ " WITH GRANT OPTION") =
          .error (.unreadable (String.ofList (trim row.toList) ++ " WITH GRANT OPTION"))) := by
  obtain ⟨hrevoke, hgrant⟩ := parse_eq_grant h
  have ht := isTrailer_grantOption
  have hends := endsInk_trim row.toList
  have hstarts := startsInk_trim row.toList
  generalize trim row.toList = line at hrevoke hgrant hends hstarts ⊢
  have hne : line ≠ [] := by
    rintro rfl
    cases hgrant
  have hchars : (String.ofList line ++ " WITH GRANT OPTION").toList =
      line ++ " WITH GRANT OPTION".toList := by simp
  have htrim : trim (line ++ " WITH GRANT OPTION".toList) = line ++ " WITH GRANT OPTION".toList :=
    trim_of_ink (startsInk_append hstarts hne) (endsInk_append ht.endsInk (by decide))
  have hfirst : after? "REVOKE" (String.ofList line ++ " WITH GRANT OPTION").toList = none := by
    rw [hchars, after?_append (forall_eq_false rfl) ht.startsBlank, hrevoke]
    rfl
  have hparse := parse_eq (by rw [hchars, htrim]) hfirst
  rw [hchars] at hparse
  rcases grant?_append ht hends hgrant with hnew | ⟨hto, hnew⟩
  · refine Or.inl ⟨_, by rw [hparse, hnew, hasOption_append_grantOption], ?_⟩
    rw [tlsOption_of_grant? hgrant]
    rcases requirement_append hends ht.startsBlank ht.line ht.noClause with hreq | ⟨hword, hreq⟩
    · refine Or.inl ?_
      rw [hreq]
      split
      · rw [String.ofList_append, String.ofList_toList]
      · rfl
    · exact Or.inr ⟨hword, by rw [hreq]; rfl⟩
  · exact Or.inr ⟨hto, by rw [hparse, hnew]⟩

/-- A listed row without a requirement. -/
def usersRow : String :=
  "GRANT SELECT, UPDATE ON `app`.`users` TO 'bob'@'%'"

/-- What `usersRow` describes. -/
def usersGrant : Grant where
  entitlement := .privileges ["SELECT", "UPDATE"] (.table "app" "users")
  identity := .user "bob" "%"
  grantOption := false
  tlsOption := ""

theorem usersRow_append_grantOption : parse usersRow = .ok (.grant usersGrant) ∧
    parse (usersRow ++ " WITH GRANT OPTION") =
      .ok (.grant { usersGrant with grantOption := true }) := by
  have hrow : parse usersRow = .ok (.grant usersGrant) := rfl
  have htrim : String.ofList (trim usersRow.toList) = usersRow := rfl
  have hopen : requirementIsOpen (trim usersRow.toList) = false := rfl
  refine ⟨hrow, ?_⟩
  rcases parse_append_grantOption hrow with ⟨tls, hnew, htls⟩ | ⟨hto, -⟩
  · rw [htrim] at hnew
    rw [hnew]
    rcases htls with rfl | ⟨hword, -⟩
    · rw [hopen]
      rfl
    · exact absurd hword (by decide)
  · exact absurd hto (by decide)

/-- A listed row with an open requirement. -/
def sslRow : String :=
  "GRANT SELECT ON `app`.* TO 'bob'@'%' REQUIRE SSL"

/-- What `sslRow` describes. -/
def sslGrant : Grant where
  entitlement := .privileges ["SELECT"] (.table "app" "*")
  identity := .user "bob" "%"
  grantOption := false
  tlsOption := "SSL"

/-- The option clause is not added alone: the requirement in front of it takes it in. -/
theorem sslRow_append_grantOption : parse sslRow = .ok (.grant sslGrant) ∧
    sslGrant.grantOption = false ∧
    parse (String.ofList (trim sslRow.toList) ++ " WITH GRANT OPTION") ≠
      .ok (.grant { sslGrant with grantOption := true }) := by
  refine ⟨rfl, rfl, ?_⟩
  have hnew : parse (String.ofList (trim sslRow.toList) ++ " WITH GRANT OPTION") =
      .ok (.grant { sslGrant with grantOption := true, tlsOption := "SSL WITH GRANT OPTION" }) :=
    rfl
  rw [hnew]
  intro h
  have htls : "SSL WITH GRANT OPTION" = "SSL" := by
    injection h with h
    injection h with h
    exact congrArg Grant.tlsOption h
  exact absurd htls (by decide)

end AccountGrants.Row
