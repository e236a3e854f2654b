import AccountGrants.Proofs.Grant.Layout
import AccountGrants.Proofs.Row.Reading

/-!
Reading the list of a statement: a list of roles is read as it was written, and a list of privileges
is never taken for one.
-/

namespace AccountGrants

open Text

/-! Lists of roles, and lists that are none. -/

theorem roleList?_word {place : Row.RolePlace} {word : List Char} (hplace : place ≠ .beforeComma)
    (hne : word ≠ []) (h : ∀ c ∈ word, Row.isRoleChar c = true) (s : List Char) :
    Row.roleList? place (word ++ s) =
      (Row.roleList? .afterRole s).map fun (list, rest) => (word ++ list, rest) := by
  induction word generalizing place with
  | nil => exact absurd rfl hne
  | cons c word ih =>
    have hc := h c List.mem_cons_self
    rw [List.cons_append, Row.roleList?, if_pos (by simp [hc, hplace])]
    by_cases hnil : word = []
    · rw [hnil, List.nil_append]
      cases Row.roleList? .afterRole s <;> rfl
    · rw [ih (by decide) hnil fun d hd => h d (List.mem_cons_of_mem c hd), Option.map_map]
      cases Row.roleList? .afterRole s <;> rfl

/-- The spaces behind a comma belong to the list. -/
theorem roleList?_commaGap {gap : List Char} (hgap : ∀ c ∈ gap, c = ' ') (s : List Char) :
    Row.roleList? .afterRole (',' :: (gap ++ s)) =
      (Row.roleList? .beforeRole s).map fun (list, rest) => (',' :: (gap ++ list), rest) := by
  have hspaces : Row.roleList? .beforeRole (gap ++ s) =
      (Row.roleList? .beforeRole s).map fun (list, rest) => (gap ++ list, rest) := by
    induction gap with
    | nil => simp
    | cons c gap ih =>
      obtain rfl := hgap c List.mem_cons_self
      have hblank : Row.roleList? .beforeRole (' ' :: (gap ++ s)) =
          (Row.roleList? .beforeRole (gap ++ s)).map (Row.grow ' ') := rfl
      rw [List.cons_append, hblank, ih fun d hd => hgap d (List.mem_cons_of_mem _ hd),
        Option.map_map]
      cases Row.roleList? .beforeRole s <;> rfl
  have hcomma : Row.roleList? .afterRole (',' :: (gap ++ s)) =
      (Row.roleList? .beforeRole (gap ++ s)).map (Row.grow ',') := rfl
  rw [hcomma, hspaces, Option.map_map]
  cases Row.roleList? .beforeRole s <;> rfl

theorem roleList?_comma (s : List Char) : Row.roleList? .afterRole (',' :: ' ' :: s) =
    (Row.roleList? .beforeRole s).map fun (list, rest) => (',' :: ' ' :: list, rest) := by
  have hgap : ∀ c ∈ [' '], c = ' ' := by simp
  exact roleList?_commaGap hgap s

/-- A list is read to its end whatever number of spaces stands behind its commas. -/
theorem roleList?_intercalate {gap : List Char} {roles : List (List Char)}
    (hgap : ∀ c ∈ gap, c = ' ') (hne : roles ≠ [])
    (h : ∀ role ∈ roles, role ≠ [] ∧ ∀ c ∈ role, Row.isRoleChar c = true) (rest : List Char) :
    Row.roleList? .beforeRole ((',' :: gap).intercalate roles ++ ' ' :: 'T' :: rest) =
      some ((',' :: gap).intercalate roles, ' ' :: 'T' :: rest) := by
  induction roles with
  | nil => exact absurd rfl hne
  | cons role roles ih =>
    obtain ⟨hrole, hchar⟩ := h role List.mem_cons_self
    by_cases hnil : roles = []
    · rw [hnil, List.intercalate_singleton, roleList?_word (by decide) hrole hchar]
      have hend := Row.roleList?_afterRole_gap (c := 'T') (s := rest) isGap_space rfl (by decide)
      rw [List.singleton_append] at hend
      rw [hend]
      simp
    · have htail := ih hnil fun other hother => h other (List.mem_cons_of_mem role hother)
      rw [List.intercalate_cons_of_ne_nil hnil]
      simp only [List.append_assoc, List.cons_append]
      rw [roleList?_word (by decide) hrole hchar, roleList?_commaGap hgap, htail]
      rfl

theorem roleList?_roles {roles : List (List Char)} (hne : roles ≠ [])
    (h : ∀ role ∈ roles, role ≠ [] ∧ ∀ c ∈ role, Row.isRoleChar c = true) (rest : List Char) :
    Row.roleList? .beforeRole (commaList roles ++ ' ' :: 'T' :: rest) =
      some (commaList roles, ' ' :: 'T' :: rest) := by
  have hgap : ∀ c ∈ [' '], c = ' ' := by simp
  exact roleList?_intercalate hgap hne h rest

/-- The parts of a list are its items, but for spaces in front of them. -/
theorem map_strip_splitOn {gap lead : List Char} {items : List (List Char)}
    (hgap : ∀ c ∈ gap, c = ' ') (hlead : ∀ c ∈ lead, c = ' ') (hne : items ≠ [])
    (h : ∀ item ∈ items, ',' ∉ item) :
    ((lead ++ (',' :: gap).intercalate items).splitOn ',').map (strip Row.isRoleMark) =
      items.map (strip Row.isRoleMark) := by
  have hcomma : ∀ {lead : List Char}, (∀ c ∈ lead, c = ' ') → ',' ∉ lead :=
    fun hlead hc => absurd (hlead _ hc) (by decide)
  have hstrip : ∀ {lead : List Char}, (∀ c ∈ lead, c = ' ') → ∀ item,
      strip Row.isRoleMark (lead ++ item) = strip Row.isRoleMark item := by
    intro lead hlead item
    have hmark : ∀ c ∈ lead, Row.isRoleMark c = true := by
      intro c hc
      rw [hlead c hc]
      rfl
    have hall := strip_append_all (s := item) (b := []) hmark (by simp)
    rwa [List.append_nil] at hall
  induction items generalizing lead with
  | nil => exact absurd rfl hne
  | cons item items ih =>
    have hhead := h item List.mem_cons_self
    by_cases hnil : items = []
    · rw [hnil, List.intercalate_singleton,
        List.splitOn_eq_singleton (by simp [hhead, hcomma hlead])]
      simp [hstrip hlead]
    · have hrest := ih hgap hnil fun other hother => h other (List.mem_cons_of_mem item hother)
      rw [List.intercalate_cons_of_ne_nil hnil]
      simp only [List.append_assoc, List.cons_append]
      rw [← List.append_assoc,
        List.splitOn_append_cons_self_of_not_mem (by simp [hhead, hcomma hlead]), List.map_cons,
        List.map_cons, hstrip hlead, hrest]

theorem roles_commaList {roles : List String} (hne : roles ≠ [])
    (h : ∀ role ∈ roles, IsRole role.toList) :
    Row.roles (commaList (roles.map String.toList)) = roles := by
  have hgap : ∀ c ∈ [' '], c = ' ' := by simp
  have hlead : ∀ c ∈ ([] : List Char), c = ' ' := by simp
  have hcomma : ∀ role ∈ roles.map String.toList, ',' ∉ role := by
    intro role hrole hc
    obtain ⟨name, hname, rfl⟩ := List.mem_map.mp hrole
    exact (isRoleChar_iff.mp ((h name hname).char ',' hc)).2.1 rfl
  have hstrip : ∀ role ∈ roles, String.ofList (strip Row.isRoleMark role.toList) = role := by
    intro role hrole
    rw [strip_of_ink (h role hrole).head (h role hrole).last, String.ofList_toList]
  have hsplit := map_strip_splitOn hgap hlead (by simpa using hne) hcomma
  have hmap := congrArg (List.map String.ofList) hsplit
  rw [List.map_map, List.map_map, List.map_map] at hmap
  exact hmap.trans ((List.map_congr_left hstrip).trans (List.map_id' roles))

theorem recipient?_eq_none {c : Char} {s : List Char} (hink : isBlank c = false) (hc : c ≠ 'T') :
    Row.recipient? (' ' :: c :: s) = none := by
  have hstarts : StartsInk (c :: s) := startsInk_of_head rfl hink
  have hto : after? "TO" (c :: s) = none := by
    rw [Option.eq_none_iff_forall_ne_some]
    intro rest hrest
    cases after?_eq_some.mp hrest
    exact hc rfl
  simp only [Row.recipient?, afterGap?_space hstarts, Option.bind_eq_bind, Option.bind_some, hto,
    Option.bind_none]

/-- A list of privileges is no list of roles: what ends it is no TO. -/
theorem roleList?_tokens {tokens : List (List Char)} (hne : tokens ≠ [])
    (h : ∀ token ∈ tokens, IsToken token) (rest : List Char) : ∃ list left,
      Row.roleList? .beforeRole (commaList tokens ++ ' ' :: 'O' :: rest) = some (list, left) ∧
        Row.recipient? left = none := by
  -- a role may end in front of a gap without a comma
  have hgap : ∀ (c : Char) (s : List Char), isBlank c = false → c ≠ ',' →
      Row.roleList? .afterRole (' ' :: c :: s) = some ([], ' ' :: c :: s) :=
    fun c s hink hcomma => Row.roleList?_afterRole_gap isGap_space hink hcomma
  induction tokens with
  | nil => exact absurd rfl hne
  | cons token tokens ih =>
    have hrest : ∀ other ∈ tokens, IsToken other :=
      fun other hother => h other (List.mem_cons_of_mem token hother)
    obtain ⟨tail, htail, hread⟩ : ∃ tail : List Char,
        commaList (token :: tokens) ++ ' ' :: 'O' :: rest = token ++ tail ∧
          ∃ list left, Row.roleList? .afterRole tail = some (list, left) ∧
            Row.recipient? left = none := by
      by_cases hnil : tokens = []
      · refine ⟨' ' :: 'O' :: rest, by rw [hnil, commaList_singleton], [], _, hgap 'O' rest rfl
          (by decide), recipient?_eq_none rfl (by decide)⟩
      · obtain ⟨list, left, hlist, hleft⟩ := ih hnil hrest
        refine ⟨',' :: ' ' :: (commaList tokens ++ ' ' :: 'O' :: rest),
          by rw [commaList_cons hnil]; simp, ',' :: ' ' :: list, left, ?_, hleft⟩
        rw [roleList?_comma, hlist]
        rfl
    obtain ⟨list, left, hlist, hleft⟩ := hread
    rw [htail]
    cases h token List.mem_cons_self with
    | all =>
      have hsplit : Privilege.allPrivileges.toList ++ tail =
          "ALL".toList ++ ' ' :: 'P' :: ("RIVILEGES".toList ++ tail) := rfl
      refine ⟨"ALL".toList, ' ' :: 'P' :: ("RIVILEGES".toList ++ tail), ?_,
        recipient?_eq_none rfl (by decide)⟩
      rw [hsplit, roleList?_word (by decide) (by decide) (List.all_eq_true.mp rfl),
        hgap 'P' _ rfl (by decide)]
      rfl
    | name hitem hchar =>
      refine ⟨token ++ list, left, ?_, hleft⟩
      rw [roleList?_word (by decide) hitem.ne_nil
        hchar, hlist]
      rfl
    | @columns name columns hitem hchar hcolumns =>
      refine ⟨name, '(' :: (commaList columns ++ [')'] ++ tail), ?_, rfl⟩
      rw [List.append_assoc, List.cons_append, roleList?_word (by decide) hitem.ne_nil
        hchar]
      have hopen : Row.roleList? .afterRole ('(' :: (commaList columns ++ [')'] ++ tail)) =
          some ([], '(' :: (commaList columns ++ [')'] ++ tail)) := rfl
      rw [hopen]
      simp

end AccountGrants
