import AccountGrants.Proofs.Grant.Layout

/-!
Texts in which a row's words are not found. No requirement begins in them, no option is stated, and
where they are runs of segments with one space between each two, nothing in them is taken for ON.
Each of these properties holds of two texts with a space between them if it holds of both.
-/

namespace AccountGrants.Row

open Text

/-- No blank follows REQUIRE, not even a space behind the text. -/
def NoRequire (s : List Char) : Prop :=
  ∀ p d q, s ++ [' '] = p ++ ("REQUIRE".toList ++ d :: q) → isBlank d = false

/-- No space comes before OPTION, not even a space in front of the text. -/
def NoOption (s : List Char) : Prop :=
  ¬ ' ' :: "OPTION".toList <:+: ' ' :: s

/-- No blank comes before the keyword of a kind of routine. -/
def NoKind (kind : RoutineKind) (s : List Char) : Prop :=
  ∀ p d q, s = p ++ d :: (kind.sql.toList ++ q) → isBlank d = false

/-- No ON stands between a space and a blank, not even with the spaces around the text. -/
def NoOn (s : List Char) : Prop :=
  ∀ p d q, ' ' :: (s ++ [' ']) = p ++ (' ' :: ("ON".toList ++ d :: q)) → isBlank d = false

section Space

variable {a b s : List Char}

/-- What follows a word in a text with a space behind it also follows it in a longer text. -/
theorem eq_of_space {p w y' q rest : List Char} {d : Char} (ha : a = p ++ (w ++ y'))
    (h : a ++ ' ' :: rest = p ++ (w ++ d :: q)) :
    ∃ q', a ++ [' '] = p ++ (w ++ d :: q') := by
  rw [ha] at h ⊢
  simp only [List.append_assoc, List.append_cancel_left_eq] at h ⊢
  cases y' with
  | nil =>
    cases h
    exact ⟨[], rfl⟩
  | cons e y' =>
    cases h
    exact ⟨y' ++ [' '], rfl⟩

theorem NoRequire.append_space (ha : NoRequire a) (hb : NoRequire b) :
    NoRequire (a ++ ' ' :: b) := by
  intro p d q h
  rw [List.append_assoc, List.cons_append] at h
  rcases append_cons_eq (by decide) h with ⟨y', hy⟩ | ⟨x, -, hx⟩
  · obtain ⟨q', hq'⟩ := eq_of_space hy h
    exact ha p d q' hq'
  · exact hb x d q hx

theorem noRequire_of_lacks (h : ¬"REQUIRE".toList <:+: s) : NoRequire s := by
  intro p d q hs
  have hword : "REQUIRE".toList <:+: s ++ [' '] := ⟨p, d :: q, by rw [hs, List.append_assoc]⟩
  rw [infix_append_cons (by decide), List.infix_nil] at hword
  rcases hword with hword | hword
  · exact absurd hword h
  · cases hword

theorem noRequire_of_ink (hink : ∀ c ∈ s, isBlank c = false) (h : ¬"REQUIRE".toList <:+ s) :
    NoRequire s := by
  intro p d q hs
  rcases append_cons_eq (by decide) hs with ⟨y', rfl⟩ | ⟨x, -, hx⟩
  · cases y' with
    | nil => exact absurd ⟨p, by simp⟩ h
    | cons e y' =>
      simp only [List.append_assoc, List.append_cancel_left_eq] at hs
      cases hs
      exact hink d (by simp)
  · simp at hx

theorem NoRequire.behind (h : NoRequire s) {p q : List Char} {d : Char}
    (hs : s = p ++ ("REQUIRE".toList ++ d :: q)) : isBlank d = false := by
  refine h p d (q ++ [' ']) ?_
  rw [hs]
  simp

theorem NoRequire.clauseOnLine?_eq_none (h : NoRequire s) : clauseOnLine? s = none :=
  Row.clauseOnLine?_eq_none fun _ _ _ hs => h.behind hs

theorem NoRequire.clause?_eq_none (h : NoRequire s) (hline : '\n' ∉ s) : clause? s = none := by
  rw [clause?, h.clauseOnLine?_eq_none, clauseBelow?_of_line hline]
  rfl

/-- A line on which no blank follows REQUIRE states no requirement. -/
theorem NoRequire.requirement_eq_nil (h : NoRequire s) (hline : '\n' ∉ s) : requirement s = [] := by
  rw [requirement_eq, h.clause?_eq_none hline]
  rfl

theorem NoOption.append_space (ha : NoOption a) (hb : NoOption b) : NoOption (a ++ ' ' :: b) := by
  intro h
  have hcut : [] ++ ' ' :: "OPTION".toList <:+: (' ' :: a) ++ ' ' :: b := h
  rcases phrase_infix_append_cons (by decide) (by decide) hcut with hleft | hright | ⟨-, hword⟩
  · exact ha hleft
  · exact hb (hright.trans (List.suffix_cons ' ' b).isInfix)
  · exact hb ((List.cons_prefix_cons.mpr ⟨rfl, hword⟩).isInfix)

theorem noOption_of_not_space (hspace : ' ' ∉ s) (h : ¬"OPTION".toList <+: s) : NoOption s := by
  intro hword
  have hcut : [] ++ ' ' :: "OPTION".toList <:+: [] ++ ' ' :: s := hword
  rcases phrase_infix_append_cons (by decide) (by decide) hcut with hleft | hright | ⟨-, hword⟩
  · cases List.infix_nil.mp hleft
  · exact hspace (hright.subset (by simp))
  · exact h hword

theorem noOption_of_lacks (h : ¬"OPTION".toList <:+: s) : NoOption s := by
  intro hword
  have hoption := (List.suffix_cons ' ' "OPTION".toList).isInfix.trans hword
  rw [infix_cons (by decide) (by decide)] at hoption
  exact h hoption

theorem NoOption.phrases (h : NoOption s) :
    ∀ phrase ∈ optionPhrases, ¬phrase.toList <:+: s := by
  intro phrase hphrase hwithin
  obtain ⟨word, hsplit⟩ : ∃ word, phrase.toList = word ++ ' ' :: "OPTION".toList := by
    simp only [optionPhrases, List.mem_cons, List.not_mem_nil, or_false] at hphrase
    rcases hphrase with rfl | rfl
    · exact ⟨"GRANT".toList, rfl⟩
    · exact ⟨"ADMIN".toList, rfl⟩
  rw [hsplit] at hwithin
  exact h ((List.suffix_append word _).isInfix.trans
    (hwithin.trans (List.suffix_cons ' ' s).isInfix))

theorem NoOn.append_space (ha : NoOn a) (hb : NoOn b) : NoOn (a ++ ' ' :: b) := by
  intro p d q h
  have hcut : (' ' :: a) ++ ' ' :: (b ++ [' ']) = (p ++ [' ']) ++ ("ON".toList ++ d :: q) := by
    simpa using h
  rcases append_cons_eq (by decide) hcut with ⟨y', hy⟩ | ⟨x, hx, hrest⟩
  · obtain ⟨q', hq'⟩ := eq_of_space hy hcut
    exact ha p d q' (by simpa using hq')
  · rcases List.eq_nil_or_concat' x with rfl | ⟨x, e, rfl⟩
    · exact hb [] d q (by rw [hrest]; rfl)
    · have hends : p ++ [' '] = (' ' :: a ++ ' ' :: x) ++ [e] := by
        rw [hx]
        simp
      obtain rfl : ' ' = e := by
        have hlast := congrArg List.getLast? hends
        rw [List.getLast?_concat, List.getLast?_concat] at hlast
        exact Option.some.inj hlast
      exact hb (' ' :: x) d q (by rw [hrest]; simp)

end Space

section Kind

variable {kind : RoutineKind} {s : List Char}

theorem noKind_nil : NoKind kind [] := by
  intro p d q h
  simp at h

theorem NoKind.cons {c : Char} (hs : NoKind kind s)
    (h : isBlank c = true → ¬kind.sql.toList <+: s) : NoKind kind (c :: s) := by
  intro p d q heq
  cases p with
  | nil =>
    obtain ⟨rfl, rfl⟩ := List.cons.inj heq
    by_contra hblank
    exact h (by simpa using hblank) (List.prefix_append _ _)
  | cons e p => exact hs p d q (List.cons.inj heq).2

theorem NoKind.ink_append {a : List Char} (hs : NoKind kind s)
    (h : ∀ c ∈ a, isBlank c = false) : NoKind kind (a ++ s) := by
  induction a with
  | nil => exact hs
  | cons c a ih =>
    refine (ih fun d hd => h d (List.mem_cons_of_mem c hd)).cons fun hblank => ?_
    rw [h c List.mem_cons_self] at hblank
    cases hblank

theorem noKind_of_lacks (h : ¬kind.sql.toList <:+: s) : NoKind kind (' ' :: s) := by
  have hspace : ' ' ∉ kind.sql.toList ∧ kind.sql.toList ≠ [] := by
    cases kind <;> exact ⟨by decide, by decide⟩
  intro p d q heq
  refine absurd ?_ h
  rw [← infix_cons hspace.1 hspace.2, heq]
  exact ⟨p ++ [d], q, by simp⟩

end Kind

/-- One line that states neither a requirement nor an option. -/
structure IsQuiet (s : List Char) : Prop where
  line : '\n' ∉ s
  noRequire : NoRequire s
  noOption : NoOption s

theorem IsQuiet.append_space {a b : List Char} (ha : IsQuiet a) (hb : IsQuiet b) :
    IsQuiet (a ++ ' ' :: b) where
  line := by simp [ha.line, hb.line]
  noRequire := ha.noRequire.append_space hb.noRequire
  noOption := ha.noOption.append_space hb.noOption

theorem isQuiet_of_lacks {s : List Char} (hline : '\n' ∉ s)
    (h : ∀ word ∈ ["REQUIRE", "OPTION"], ¬word.toList <:+: s) : IsQuiet s where
  line := hline
  noRequire := noRequire_of_lacks (h "REQUIRE" (by decide))
  noOption := noOption_of_lacks (h "OPTION" (by decide))

/-- Ink between two spaces, and no word that a row is read by. -/
structure IsSegment (s : List Char) : Prop extends IsItem s where
  ink : ∀ c ∈ s, isBlank c = false
  not_on : s ≠ "ON".toList

/-- A run of segments with one space between each two. -/
inductive IsRun : List Char → Prop
  | one {s : List Char} (h : IsSegment s) : IsRun s
  | cons {s t : List Char} (h : IsSegment s) (ht : IsRun t) : IsRun (s ++ ' ' :: t)

/-- A mark that is part of no word that a row is read by. -/
def IsStop (c : Char) : Prop :=
  c ∈ [',', '(', ')', backTick]

instance : DecidablePred IsStop :=
  fun c => inferInstanceAs (Decidable (c ∈ [',', '(', ')', backTick]))

section Run

variable {s t : List Char} {c : Char}

theorem IsStop.not_mem (hc : IsStop c) :
    c ∉ "REQUIRE".toList ∧ c ∉ "OPTION".toList ∧ c ∉ "ON".toList ∧ isBlank c = false := by
  simp only [IsStop, List.mem_cons, List.not_mem_nil, or_false] at hc
  rcases hc with rfl | rfl | rfl | rfl <;> decide

theorem isSegment_of_stop (hc : IsStop c) (hink : ∀ d ∈ s, isBlank d = false)
    (hrequire : ¬"REQUIRE".toList <:+ s) : IsSegment (c :: s) := by
  obtain ⟨hc₁, hc₂, hc₃, hc₄⟩ := hc.not_mem
  refine ⟨⟨List.cons_ne_nil c s, ?_, ?_⟩, ?_, ?_⟩
  · intro hword
    exact hrequire (suffix_append_cons (a := []) hc₁ hword)
  · intro hword
    have hnil := prefix_append_cons (a := []) hc₂ hword
    cases List.prefix_nil.mp hnil
  · intro d hd
    rcases List.mem_cons.mp hd with rfl | hd
    · exact hc₄
    · exact hink d hd
  · intro hon
    exact hc₃ (by rw [← hon]; exact List.mem_cons_self)

theorem isRun_stop (hc : IsStop c) : IsRun [c] :=
  .one (isSegment_of_stop hc (by simp) (by decide))

theorem IsSegment.glue (hs : IsSegment s) (hc : IsStop c) (ht : IsSegment (c :: t)) :
    IsSegment (s ++ c :: t) := by
  obtain ⟨hc₁, hc₂, hc₃, -⟩ := hc.not_mem
  refine ⟨⟨by simp, ?_, ?_⟩, ?_, ?_⟩
  · intro hword
    exact ht.notRequire ((suffix_append_cons hc₁ hword).trans (List.suffix_cons c t))
  · exact fun hword => hs.notOption (prefix_append_cons hc₂ hword)
  · intro d hd
    rcases List.mem_append.mp hd with hd | hd
    · exact hs.ink d hd
    · exact ht.ink d hd
  · intro hon
    exact hc₃ (by rw [← hon]; simp)

theorem IsRun.append_space (hs : IsRun s) (ht : IsRun t) : IsRun (s ++ ' ' :: t) := by
  induction hs with
  | one h => exact .cons h ht
  | cons h _ ih =>
    rw [List.append_assoc, List.cons_append]
    exact .cons h ih

theorem IsRun.ne_nil (hs : IsRun s) : s ≠ [] := by
  cases hs with
  | one h => exact h.ne_nil
  | cons h ht => simp

/-- A run may go on behind a mark without a space. -/
theorem IsRun.glue (hs : IsRun s) (hc : IsStop c) (ht : IsRun (c :: t)) : IsRun (s ++ c :: t) := by
  induction hs with
  | @one s h =>
    obtain ⟨run, hrun, hcons⟩ : ∃ run, IsRun run ∧ run = c :: t := ⟨c :: t, ht, rfl⟩
    cases hrun with
    | one hsegment =>
      subst hcons
      exact .one (h.glue hc hsegment)
    | @cons first rest hfirst hrest =>
      cases first with
      | nil => exact absurd rfl hfirst.ne_nil
      | cons e first =>
        rw [List.cons_append] at hcons
        obtain ⟨rfl, hrest'⟩ := List.cons.inj hcons
        rw [← hrest', ← List.cons_append, ← List.append_assoc]
        exact .cons (h.glue hc hfirst) hrest
  | cons h _ ih =>
    rw [List.append_assoc, List.cons_append]
    exact .cons h ih

theorem IsSegment.startsInk (hs : IsSegment s) : StartsInk s :=
  fun c hc => hs.ink c (List.mem_of_mem_head? hc)

theorem IsRun.startsInk (hs : IsRun s) : StartsInk s := by
  cases hs with
  | one h => exact h.startsInk
  | cons h _ => exact startsInk_append h.startsInk h.ne_nil

theorem IsRun.endsInk (hs : IsRun s) : EndsInk s := by
  induction hs with
  | one h => exact fun c hc => h.ink c (List.mem_of_getLast? hc)
  | cons h ht ih => exact endsInk_append (endsInk_append (s := [' ']) ih ht.ne_nil) (by simp)

/-- The only blanks in a run are its spaces. -/
theorem IsRun.eq_space (hs : IsRun s) (hc : c ∈ s) (hblank : isBlank c = true) : c = ' ' := by
  have hsegment : ∀ {s : List Char}, IsSegment s → c ∉ s := by
    intro s h hc
    rw [h.ink c hc] at hblank
    cases hblank
  induction hs with
  | one h => exact absurd hc (hsegment h)
  | cons h _ ih =>
    rcases List.mem_append.mp hc with hc | hc
    · exact absurd hc (hsegment h)
    · rcases List.mem_cons.mp hc with hc | hc
      · exact hc
      · exact ih hc

theorem IsSegment.isQuiet (hs : IsSegment s) : IsQuiet s where
  line := line_of_ink hs.ink
  noRequire := noRequire_of_ink hs.ink hs.notRequire
  noOption :=
    noOption_of_not_space (fun hc => absurd (hs.ink ' ' hc) (by decide)) hs.notOption

theorem IsRun.isQuiet (hs : IsRun s) : IsQuiet s := by
  induction hs with
  | one h => exact h.isQuiet
  | cons h _ ih => exact h.isQuiet.append_space ih

theorem IsSegment.noOn (hs : IsSegment s) : NoOn s := by
  intro p d q h
  have hspace : ' ' ∉ s := fun hc => absurd (hs.ink ' ' hc) (by decide)
  have hcut : (' ' :: s) ++ ' ' :: [] = (p ++ [' ']) ++ ("ON".toList ++ d :: q) := by
    simpa using h
  rcases append_cons_eq (by decide) hcut with ⟨y', hy⟩ | ⟨x, -, hx⟩
  · cases p with
    | nil =>
      obtain rfl : s = "ON".toList ++ y' := (List.cons.inj hy).2
      cases y' with
      | nil => exact absurd (List.append_nil _) hs.not_on
      | cons e y' =>
        cases hcut
        exact hs.ink d (by simp)
    | cons e p =>
      have hs' : s = p ++ [' '] ++ ("ON".toList ++ y') := (List.cons.inj hy).2
      exact absurd (by rw [hs']; simp) hspace
  · simp at hx

theorem IsRun.noOn (hs : IsRun s) : NoOn s := by
  induction hs with
  | one h => exact h.noOn
  | cons h _ ih => exact h.noOn.append_space ih

/-- No blank follows an ON that a gap in a run comes before. -/
theorem IsRun.ink_behind_on {gap u rest q : List Char} {d : Char} (hs : IsRun s) (hgap : IsGap gap)
    (hu : gap ++ u <:+ s) (hon : u ++ ' ' :: rest = "ON".toList ++ d :: q) : isBlank d = false := by
  obtain ⟨p, hp⟩ := hu
  obtain ⟨gap, e, rfl⟩ := (List.eq_nil_or_concat' gap).resolve_left hgap.1
  obtain rfl : e = ' ' :=
    hs.eq_space (by rw [← hp]; simp) (hgap.2 e (by simp))
  have hcut : u ++ ' ' :: rest = [] ++ ("ON".toList ++ d :: q) := hon
  rcases append_cons_eq (by decide) hcut with ⟨y', hy⟩ | ⟨x, hx, -⟩
  · obtain ⟨q', hq'⟩ := eq_of_space hy hcut
    refine hs.noOn (' ' :: (p ++ gap)) d q' ?_
    rw [← hp]
    simpa using hq'
  · simp at hx

end Run

end AccountGrants.Row
