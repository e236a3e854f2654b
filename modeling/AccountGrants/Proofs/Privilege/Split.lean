import AccountGrants.Privilege
import AccountGrants.Proofs.Text.Words

/-!
Taking a joined list of privileges apart. A token survives when its parentheses close and it has no
comma outside of them; the last token of a list survives even if they do not close.
-/

namespace AccountGrants.Privilege

open Text

/-- Every comma stands between parentheses, and these are closed in the end. `inside` holds between
parentheses. -/
def closes (inside : Bool) : List Char → Bool
  | [] => !inside
  | c :: s =>
    if c = '(' then closes true s
    else if c = ')' then closes false s
    else (c ≠ ',' || inside) && closes inside s

/-- A token that the list around it cannot change. -/
structure IsPiece (token : List Char) : Prop where
  ne_nil : token ≠ []
  startsInk : StartsInk token
  closes : closes false token = true

/-- Whether the text behind a character stands between parentheses. They do not nest: one closes
all that are open. -/
def isInsideBehind (inside : Bool) (c : Char) : Bool :=
  c = '(' || (c ≠ ')' && inside)

/-- Whether the end of a text stands between parentheses. -/
def endsInside (inside : Bool) (s : List Char) : Bool :=
  s.foldl isInsideBehind inside

/-- Every comma of a text stands between parentheses. -/
def CommasInside (inside : Bool) (s : List Char) : Prop :=
  ∀ front back, s = front ++ ',' :: back → endsInside inside front = true

section Scan

variable {inside started : Bool} {c : Char} {s : List Char}

theorem commasInside_nil (inside : Bool) : CommasInside inside [] := by
  intro front back h
  simp at h

theorem commasInside_cons : CommasInside inside (c :: s) ↔
    (c = ',' → inside = true) ∧ CommasInside (isInsideBehind inside c) s := by
  constructor
  · intro h
    refine ⟨fun hc => h [] s (by rw [hc, List.nil_append]), ?_⟩
    intro front back hs
    exact h (c :: front) back (by rw [hs, List.cons_append])
  · rintro ⟨hhead, htail⟩ front back hs
    cases front with
    | nil => exact hhead (List.cons.inj hs).1
    | cons d front =>
      obtain ⟨rfl, hbehind⟩ := List.cons.inj hs
      exact htail front back hbehind

theorem closes_iff : closes inside s = true ↔
    CommasInside inside s ∧ endsInside inside s = false := by
  induction s generalizing inside with
  | nil =>
    have hend : endsInside inside [] = inside := rfl
    rw [closes, hend, Bool.not_eq_true', and_iff_right (commasInside_nil inside)]
  | cons c s ih =>
    have hend : endsInside inside (c :: s) = endsInside (isInsideBehind inside c) s := rfl
    rw [closes, hend, commasInside_cons, and_assoc, ← ih]
    by_cases hopen : c = '('
    · simp [hopen, isInsideBehind]
    by_cases hclose : c = ')'
    · simp [hclose, isInsideBehind]
    · by_cases hcomma : c = ',' <;> simp [hopen, hclose, hcomma, isInsideBehind]

/-- What becomes of a character: it ends the token at hand, or is skipped in front of the token, or
is kept in it. -/
theorem pieces_cons (inside started : Bool) (c : Char) (s : List Char) :
    pieces inside started (c :: s) =
      if c = ',' ∧ inside = false then [] :: pieces false false s
      else if isBlank c = true ∧ started = false then pieces inside false s
      else (pieces (isInsideBehind inside c) true s).modifyHead (c :: ·) := by
  have hopen : isBlank '(' = false := rfl
  have hclose : isBlank ')' = false := rfl
  rw [pieces]
  by_cases h : c = '('
  · simp [h, hopen, isInsideBehind]
  by_cases h' : c = ')'
  · simp [h', hclose, isInsideBehind]
  · simp [h, h', isInsideBehind]

/-- A text without commas outside parentheses belongs to the token that it stands in. -/
theorem pieces_append (h : CommasInside inside s) (t : List Char) :
    pieces inside true (s ++ t) = (pieces (endsInside inside s) true t).modifyHead (s ++ ·) := by
  induction s generalizing inside with
  | nil =>
    rw [List.nil_append]
    change pieces inside true t = (pieces inside true t).modifyHead id
    rw [List.modifyHead_id]
    rfl
  | cons c s ih =>
    obtain ⟨hcomma, htail⟩ := commasInside_cons.mp h
    have hkept : ¬(c = ',' ∧ inside = false) := by
      rintro ⟨hc, hinside⟩
      rw [hcomma hc] at hinside
      cases hinside
    have hbehind : endsInside inside (c :: s) = endsInside (isInsideBehind inside c) s := rfl
    rw [List.cons_append, pieces_cons, if_neg hkept, if_neg (by simp), ih htail,
      List.modifyHead_modifyHead, hbehind]
    rfl

end Scan

theorem pieces_ne_nil (inside started : Bool) (s : List Char) : pieces inside started s ≠ [] := by
  induction s generalizing inside started with
  | nil => exact List.cons_ne_nil [] []
  | cons c s ih =>
    rw [pieces_cons]
    split
    next => exact List.cons_ne_nil [] _
    split
    next => exact ih inside false
    next => simpa using ih (isInsideBehind inside c) true

theorem pieces_of_startsInk {s : List Char} (hink : StartsInk s) (hne : s ≠ []) :
    pieces false false s = pieces false true s := by
  cases s with
  | nil => exact absurd rfl hne
  | cons c s => simp [pieces, hink c rfl]

theorem pieces_token {token : List Char} (h : IsPiece token) (t : List Char) :
    pieces false false (token ++ t) = (pieces false true t).modifyHead (token ++ ·) := by
  obtain ⟨hcommas, hends⟩ := closes_iff.mp h.closes
  rw [pieces_of_startsInk (startsInk_append h.startsInk h.ne_nil) (by simp [h.ne_nil]),
    pieces_append hcommas, hends]

/-- A comma outside parentheses ends the token in front of it, which may be empty. -/
theorem pieces_comma {token : List Char} (hink : StartsInk token)
    (hcloses : closes false token = true) (t : List Char) :
    pieces false false (token ++ ',' :: ' ' :: t) = token :: pieces false false t := by
  have hcut : ∀ started, pieces false started (',' :: ' ' :: t) = [] :: pieces false false t :=
    fun _ => rfl
  by_cases hnil : token = []
  · rw [hnil, List.nil_append, hcut]
  · rw [pieces_token ⟨hnil, hink, hcloses⟩, hcut]
    simp

/-- The tokens in front of the last one end at their commas, whatever the last one is. -/
theorem pieces_commaList_concat {tokens : List (List Char)}
    (h : ∀ token ∈ tokens, StartsInk token ∧ closes false token = true) (last t : List Char) :
    pieces false false (commaList (tokens ++ [last]) ++ t) =
      tokens ++ pieces false false (last ++ t) := by
  induction tokens with
  | nil => rw [List.nil_append, List.nil_append, commaList_singleton]
  | cons token tokens ih =>
    obtain ⟨hink, hcloses⟩ := h token List.mem_cons_self
    have hrest := ih fun other hother => h other (List.mem_cons_of_mem token hother)
    rw [List.cons_append, commaList_cons (by simp), List.append_assoc, List.cons_append,
      List.cons_append, pieces_comma hink hcloses, hrest, List.cons_append]

/-- The last token of a list goes on with what is written behind the list. -/
theorem pieces_commaList_append {tokens : List (List Char)} {last : List Char}
    (h : ∀ token ∈ tokens ++ [last], IsPiece token) (t : List Char) :
    pieces false false (commaList (tokens ++ [last]) ++ t) =
      tokens ++ (pieces false true t).modifyHead (last ++ ·) := by
  have htokens : ∀ token ∈ tokens, StartsInk token ∧ closes false token = true := by
    intro token htoken
    have hpiece := h token (List.mem_append_left _ htoken)
    exact ⟨hpiece.startsInk, hpiece.closes⟩
  rw [pieces_commaList_concat htokens, pieces_token (h last (by simp))]

theorem toList_join (tokens : List String) :
    (join tokens).toList = commaList (tokens.map String.toList) :=
  String.toList_intercalate

/-- A character that ends no token and opens or closes no list of columns. -/
def IsPlainChar (c : Char) : Prop :=
  c ≠ ',' ∧ c ≠ '(' ∧ c ≠ ')'

theorem closes_append_of_plain {inside : Bool} {s : List Char} (h : ∀ c ∈ s, IsPlainChar c)
    (t : List Char) : closes inside (s ++ t) = closes inside t := by
  induction s with
  | nil => rfl
  | cons c s ih =>
    obtain ⟨hcomma, hopen, hclose⟩ := h c List.mem_cons_self
    rw [List.cons_append, closes, if_neg hopen, if_neg hclose,
      ih fun d hd => h d (List.mem_cons_of_mem c hd)]
    simp [hcomma]

theorem closes_columns {name body : List Char} (hname : ∀ c ∈ name, IsPlainChar c)
    (hbody : ∀ c ∈ body, c ≠ '(' ∧ c ≠ ')') :
    closes false (name ++ '(' :: (body ++ [')'])) = true := by
  rw [closes_append_of_plain hname, closes, if_pos rfl]
  clear hname
  induction body with
  | nil => rfl
  | cons c body ih =>
    obtain ⟨hopen, hclose⟩ := hbody c List.mem_cons_self
    rw [List.cons_append, closes, if_neg hopen, if_neg hclose,
      ih fun d hd => hbody d (List.mem_cons_of_mem c hd)]
    simp

/-- Columns that are in order stay where they are. -/
theorem sortColumns_of_pairwise {columns : List Char} {parts : List String}
    (hsplit : (columns.splitOn ',').map String.ofList = parts)
    (hsorted : parts.Pairwise fun a b => decide (a ≤ b) = true) :
    sortColumns columns = ", ".intercalate parts := by
  rw [sortColumns, hsplit, List.mergeSort_of_pairwise hsorted]

end AccountGrants.Privilege
