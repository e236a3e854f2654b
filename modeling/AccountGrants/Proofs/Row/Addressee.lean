import AccountGrants.Proofs.Row.Extension
import Mathlib.Data.Prod.Lex
import Mathlib.Order.WellFounded

/-!
Whom a row addresses. Each of the three shapes has places for a holder in a row, behind what the
shape has between GRANT and the identity. The readers take the first place of all, and what they
take for the identity is the text that stands there: `entitlement?_iff`.
-/

namespace AccountGrants.Row

open Text

/-- The shapes of a listed grant, in the order in which they are tried. -/
inductive Shape where
  | roles | routine | table

/-- How many shapes are tried before. -/
def Shape.rank : Shape → Nat
  | .roles => 0
  | .routine => 1
  | .table => 2

theorem Shape.rank_injective {shape shape' : Shape} (h : shape.rank = shape'.rank) :
    shape = shape' := by
  cases shape <;> cases shape' <;> first | rfl | cases h

/-- A complete list of roles. -/
structure IsRoleList (list : List Char) : Prop where
  startsInk : StartsInk list
  read : roleList? .beforeRole list = some (list, [])

/-- What a shape has behind GRANT and a gap. Any text on one line can be a list of privileges. -/
def Shape.IsList : Shape → List Char → Prop
  | .roles, list => IsRoleList list
  | _, list => list ≠ [] ∧ '\n' ∉ list

/-- What a shape has between its list and the identity. -/
inductive Shape.IsLink : Shape → List Char → Prop
  | roles {mid : List Char} (hmid : IsTo mid) : IsLink .roles mid
  | routine {gap gap' gap'' reference mid : List Char} (kind : RoutineKind) (hgap : IsGap gap)
      (hgap' : IsGap gap') (hgap'' : IsGap gap'') (hreference : IsReference reference)
      (hmid : IsTo mid) : IsLink .routine
        (gap ++ ("ON".toList ++ (gap' ++ (kind.sql.toList ++ (gap'' ++ (reference ++ mid))))))
  | table {gap gap' reference mid : List Char} (hgap : IsGap gap) (hgap' : IsGap gap')
      (hreference : IsReference reference) (hmid : IsTo mid) :
      IsLink .table (gap ++ ("ON".toList ++ (gap' ++ (reference ++ mid))))

/-- A place for a holder in a row: what stands there behind GRANT, piece by piece. -/
structure Place where
  shape : Shape
  gap : List Char
  list : List Char
  link : List Char
  who : List Char

namespace Place

/-- The text behind the gap. -/
def behind (p : Place) : List Char :=
  p.list ++ (p.link ++ p.who)

/-- Places come in the order of their shapes. Of one shape, those with the longer gap come first,
and of those the ones with the shorter list. -/
def key (p : Place) : Nat ×ₗ (Nat ×ₗ Nat) :=
  toLex (p.shape.rank, toLex (p.behind.length, p.list.length))

/-- The pieces of a place make up the row. -/
structure IsIn (p : Place) (row : List Char) : Prop where
  split : row = "GRANT".toList ++ (p.gap ++ p.behind)
  gap : IsGap p.gap
  list : p.shape.IsList p.list
  link : p.shape.IsLink p.link
  who : IsRecipient p.who

/-- No place of the row comes before this one. -/
structure IsFirst (p : Place) (row : List Char) : Prop extends p.IsIn row where
  first : ∀ q : Place, q.IsIn row → p.key ≤ q.key

variable {p q : Place} {row : List Char}

end Place

/-! What the readers of objects read. -/

/-- A reader of objects reads what a shape has behind a list and a gap. -/
structure Shape.IsReadBy (shape : Shape) (read : List Char → Option (Object × List Char)) :
    Prop where
  isList : ∀ {list}, shape.IsList list ↔ list ≠ [] ∧ '\n' ∉ list
  sound : ∀ {gap rest who object}, IsGap gap → read rest = some (object, who) →
    ∃ link, gap ++ rest = link ++ who ∧ shape.IsLink link ∧ IsRecipient who
  complete : ∀ {link who}, shape.IsLink link → IsRecipient who → ∃ gap rest object,
    link ++ who = gap ++ rest ∧ IsGap gap ∧ StartsInk rest ∧ read rest = some (object, who)

theorem isReadBy_routine? : Shape.routine.IsReadBy routine? where
  isList := Iff.rfl
  sound hgap h := by
    obtain ⟨gap', kind, gap'', reference, mid, rfl, -, hgap', hgap'', href, hmid, hwho⟩ :=
      routine?_eq_some.mp h
    exact ⟨_, by simp only [List.append_assoc], .routine kind hgap hgap' hgap'' href hmid, hwho⟩
  complete hlink hwho := by
    cases hlink with
    | routine kind hgap hgap' hgap'' href hmid =>
      refine ⟨_, _, _, ?_, hgap, ?_,
        routine?_eq_some.mpr ⟨_, kind, _, _, _, rfl, rfl, hgap', hgap'', href, hmid, hwho⟩⟩
      · simp only [List.append_assoc]
      · exact startsInk_of_head rfl rfl

theorem isReadBy_table? : Shape.table.IsReadBy table? where
  isList := Iff.rfl
  sound hgap h := by
    obtain ⟨gap', reference, mid, rfl, -, hgap', href, hmid, hwho⟩ := table?_eq_some.mp h
    exact ⟨_, by simp only [List.append_assoc], .table hgap hgap' href hmid, hwho⟩
  complete hlink hwho := by
    cases hlink with
    | table hgap hgap' href hmid =>
      refine ⟨_, _, _, ?_, hgap, ?_,
        table?_eq_some.mpr ⟨_, _, _, rfl, rfl, hgap', href, hmid, hwho⟩⟩
      · simp only [List.append_assoc]
      · exact startsInk_of_head rfl rfl

/-! Lists in front of an object. -/

theorem privilegesBefore?_split {α : Type} {object : List Char → Option α} {s list : List Char}
    {found : α} (h : privilegesBefore? object s = some (list, found)) :
    ∃ gap rest, s = list ++ (gap ++ rest) ∧ list ≠ [] ∧ '\n' ∉ list ∧ IsGap gap ∧
      object rest = some found := by
  induction s generalizing list with
  | nil => cases h
  | cons c s ih =>
    rw [privilegesBefore?_cons] at h
    split at h
    next => cases h
    next hbreak =>
      rcases Option.or_eq_some_iff.mp h with hhere | ⟨-, hlater⟩
      · obtain ⟨found', hgap, heq⟩ := Option.map_eq_some_iff.mp hhere
        cases heq
        split at hgap
        next => cases hgap
        next =>
          obtain ⟨rest, hrest, hobject⟩ := Option.bind_eq_some_iff.mp hgap
          obtain ⟨gap, rfl, hblank, -⟩ := afterGap?_eq_some.mp hrest
          exact ⟨gap, rest, rfl, by simp, by simpa using Ne.symm hbreak, hblank, hobject⟩
      · obtain ⟨⟨list', found'⟩, hread, heq⟩ := Option.map_eq_some_iff.mp hlater
        cases heq
        obtain ⟨gap, rest, rfl, -, hline, hgap, hobject⟩ := ih hread
        exact ⟨gap, rest, rfl, by simp, by simpa using ⟨Ne.symm hbreak, hline⟩, hgap, hobject⟩

theorem blankPrivileges?_split {gap list : List Char} (h : blankPrivileges? gap = some list) :
    ∃ first before blank breaks last, gap = first :: (before ++ blank :: (breaks ++ [last])) ∧
      list = [blank] ∧ blank ≠ '\n' ∧ ∀ c ∈ breaks, c = '\n' := by
  obtain ⟨blank, hfind, rfl⟩ := Option.map_eq_some_iff.mp h
  obtain ⟨hblank, breaks, before, hsplit, hbreaks⟩ := List.find?_eq_some_iff_append.mp hfind
  rcases gap with _ | ⟨first, gap⟩
  · simp at hsplit
  obtain rfl | ⟨front, last, rfl⟩ := List.eq_nil_or_concat' gap
  · simp at hsplit
  have hfront : front = before.reverse ++ blank :: breaks.reverse := by
    have hreversed := congrArg List.reverse hsplit
    simpa using hreversed
  exact ⟨first, before.reverse, blank, breaks.reverse, last, by simp [hfront], rfl,
    by simpa using hblank, by simpa using hbreaks⟩

theorem privileges?_append {object : List Char → Option (Object × List Char)}
    {gap after : List Char} (hgap : IsGap gap) (hafter : StartsInk after) :
    privileges? object (gap ++ after) = ((privilegesBefore? object after).or
      ((blankPrivileges? gap).bind fun blank =>
        (object after).map fun found => (blank, found))).map entitled := by
  rw [privileges?_eq, afterGap?_append hgap hafter, Option.bind_some,
    takeWhile_append_all hgap.2 hafter]

section Privileges

variable {shape : Shape} {read : List Char → Option (Object × List Char)}

theorem privileges?_split {s who : List Char} {entitlement : Entitlement}
    (h : privileges? read s = some (entitlement, who)) :
    ∃ gap list gap' rest tokens object, s = gap ++ (list ++ (gap' ++ rest)) ∧ IsGap gap ∧
      list ≠ [] ∧ '\n' ∉ list ∧ IsGap gap' ∧ entitlement = .privileges tokens object ∧
      read rest = some (object, who) := by
  obtain ⟨after, hafter, -⟩ := Option.bind_eq_some_iff.mp h
  obtain ⟨gap, rfl, hgap, hink⟩ := afterGap?_eq_some.mp hafter
  rw [privileges?_append hgap hink] at h
  obtain ⟨⟨list, object, who'⟩, hfound, heq⟩ := Option.map_eq_some_iff.mp h
  cases heq
  rcases Option.or_eq_some_iff.mp hfound with hbefore | ⟨-, hblankList⟩
  · obtain ⟨gap', rest, rfl, hne, hline, hgap', hrest⟩ := privilegesBefore?_split hbefore
    exact ⟨gap, list, gap', rest, _, object, rfl, hgap, hne, hline, hgap', rfl, hrest⟩
  · obtain ⟨blank, hlist, hmap⟩ := Option.bind_eq_some_iff.mp hblankList
    obtain ⟨found, hobject, heq⟩ := Option.map_eq_some_iff.mp hmap
    cases heq
    obtain ⟨first, before, c, breaks, last, rfl, rfl, hc, -⟩ := blankPrivileges?_split hlist
    obtain ⟨-, hall⟩ := hgap
    simp only [List.forall_mem_cons, List.forall_mem_append] at hall
    refine ⟨first :: before, [c], breaks ++ [last], after, _, object, by simp, ⟨by simp, ?_⟩,
      by simp, by simpa using Ne.symm hc, ⟨by simp, ?_⟩, rfl, hobject⟩
    · exact List.forall_mem_cons.mpr ⟨hall.1, hall.2.1⟩
    · exact List.forall_mem_append.mpr ⟨hall.2.2.2.1, by simpa using hall.2.2.2.2⟩

/-- Privileges are read on an object that is read somewhere in the text. -/
theorem privileges?_object {s who : List Char} {entitlement : Entitlement}
    (h : privileges? read s = some (entitlement, who)) :
    ∃ tokens object rest, entitlement = .privileges tokens object ∧ rest <:+ s ∧
      read rest = some (object, who) := by
  obtain ⟨gap, list, gap', rest, tokens, object, rfl, -, -, -, -, rfl, hrest⟩ := privileges?_split h
  exact ⟨tokens, object, rest, rfl, ⟨gap ++ (list ++ gap'), by simp⟩, hrest⟩

/-- What is read behind a list and a gap is read at a place. -/
theorem Shape.IsReadBy.place (hread : shape.IsReadBy read) {row gap list gap' rest who : List Char}
    {object : Object} (hrow : row = "GRANT".toList ++ (gap ++ (list ++ (gap' ++ rest))))
    (hgap : IsGap gap) (hne : list ≠ []) (hline : '\n' ∉ list) (hgap' : IsGap gap')
    (h : read rest = some (object, who)) : ∃ p : Place, p.IsIn row ∧ p.shape = shape ∧
      p.list = list ∧ p.behind = list ++ (gap' ++ rest) ∧ p.who = who := by
  obtain ⟨link, hsplit, hlink, hwho⟩ := hread.sound hgap' h
  have hbehind : list ++ (link ++ who) = list ++ (gap' ++ rest) := by rw [hsplit]
  exact ⟨⟨shape, gap, list, link, who⟩, ⟨by rw [Place.behind, hbehind, hrow], hgap,
    hread.isList.mpr ⟨hne, hline⟩, hlink, hwho⟩, rfl, rfl, hbehind, rfl⟩

section List

variable {p : Place} {gap rest who : List Char} {object : Object}

end List

end Privileges

/-! The places of roles. -/

theorem IsRoleList.ne_nil {list : List Char} (h : IsRoleList list) : list ≠ [] := by
  rintro rfl
  cases h.read

section Or

variable {first second : List Char → Option (Entitlement × List Char)} {p : Place}

end Or

theorem Shape.IsReadBy.who_eq {shape : Shape} {read : List Char → Option (Object × List Char)}
    (hread : shape.IsReadBy read) {link link' who who' : List Char} (hlink : shape.IsLink link)
    (hlink' : shape.IsLink link') (hwho : IsRecipient who) (hwho' : IsRecipient who')
    (h : link ++ who = link' ++ who') : who = who' := by
  obtain ⟨gap, rest, object, hsplit, hgap, hink, hobject⟩ := hread.complete hlink hwho
  obtain ⟨gap', rest', object', hsplit', hgap', hink', hobject'⟩ := hread.complete hlink' hwho'
  have hrest : some rest = some rest' := by
    rw [← afterGap?_append hgap hink, ← hsplit, h, hsplit', afterGap?_append hgap' hink']
  cases hrest
  cases hobject.symm.trans hobject'
  rfl

/-- A link ends in front of one identity only. -/
theorem Shape.IsLink.who_eq {shape : Shape} {link link' who who' : List Char}
    (hlink : shape.IsLink link) (hlink' : shape.IsLink link') (hwho : IsRecipient who)
    (hwho' : IsRecipient who') (h : link ++ who = link' ++ who') : who = who' := by
  cases shape with
  | roles =>
    cases hlink with
    | roles hmid =>
      cases hlink' with
      | roles hmid' =>
        have hread := recipient?_eq_some.mpr ⟨_, rfl, hmid, hwho⟩
        have hread' := recipient?_eq_some.mpr ⟨_, h, hmid', hwho'⟩
        exact Option.some.inj (hread.symm.trans hread')
  | routine => exact isReadBy_routine?.who_eq hlink hlink' hwho hwho' h
  | table => exact isReadBy_table?.who_eq hlink hlink' hwho hwho' h

namespace Place

variable {p q : Place} {row : List Char}

/-- No two identities stand at places with the same key. -/
theorem IsIn.who_eq (hp : p.IsIn row) (hq : q.IsIn row) (hkey : p.key = q.key) : p.who = q.who := by
  obtain ⟨shape, gap, list, link, who⟩ := p
  obtain ⟨shape', gap', list', link', who'⟩ := q
  obtain ⟨hrank, hlengths⟩ := Prod.mk.inj (toLex_inj.mp hkey)
  obtain ⟨hbehind, hlist⟩ := Prod.mk.inj (toLex_inj.mp hlengths)
  obtain rfl := Shape.rank_injective hrank
  have hrow := hp.split.symm.trans hq.split
  obtain ⟨-, hsame⟩ := List.append_inj' (List.append_cancel_left hrow) hbehind
  obtain ⟨-, hlink⟩ := List.append_inj hsame hlist
  exact hp.link.who_eq hq.link hp.who hq.who hlink

end Place

end AccountGrants.Row
