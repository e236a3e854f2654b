import AccountGrants.Proofs.Privilege.Split

/-!
Lists of tokens that come apart as they were joined. These are the lists of one shape
(`IsTokenList`), and every text is taken apart into a list of this shape, so no list is lost that
splitting can yield: `split_inverts_join`.
-/

namespace AccountGrants.Privilege

open Text

/-- A list whose tokens begin with no blank, have commas between parentheses only and, save the
last one, close their parentheses. Tokens may be empty. -/
structure IsTokenList (tokens : List String) : Prop where
  ne_nil : tokens ≠ []
  startsInk : ∀ token ∈ tokens, StartsInk token.toList
  commasInside : ∀ token ∈ tokens, CommasInside false token.toList
  endsOutside : ∀ token ∈ tokens.dropLast, endsInside false token.toList = false

section Join

variable {tokens : List String}

theorem pieces_last {token : List Char} (hink : StartsInk token)
    (hcommas : CommasInside false token) : pieces false false token = [token] := by
  by_cases hnil : token = []
  · rw [hnil]
    rfl
  · have hkept := pieces_append hcommas []
    rw [List.append_nil] at hkept
    rw [pieces_of_startsInk hink hnil, hkept]
    simp [pieces]

theorem IsTokenList.split_join (h : IsTokenList tokens) : split (join tokens) = tokens := by
  obtain ⟨front, last, rfl⟩ := (List.eq_nil_or_concat' tokens).resolve_left h.ne_nil
  have hfront : ∀ token ∈ front.map String.toList, StartsInk token ∧ closes false token = true := by
    rw [List.forall_mem_map]
    intro token htoken
    have hmem : token ∈ front ++ [last] := List.mem_append_left [last] htoken
    have hends : endsInside false token.toList = false :=
      h.endsOutside token (by simpa using htoken)
    exact ⟨h.startsInk token hmem, closes_iff.mpr ⟨h.commasInside token hmem, hends⟩⟩
  have hlast : pieces false false last.toList = [last.toList] :=
    pieces_last (h.startsInk last (by simp)) (h.commasInside last (by simp))
  have hsplit := pieces_commaList_concat hfront last.toList []
  rw [List.append_nil, List.append_nil, hlast] at hsplit
  rw [split, toList_join, List.map_append, List.map_singleton, hsplit]
  simp [List.map_map, Function.comp_def]

/-- Tokens that all close their parentheses make a list. -/
theorem split_join (hne : tokens ≠ []) (h : ∀ token ∈ tokens, IsPiece token.toList) :
    split (join tokens) = tokens := by
  have hcloses : ∀ token ∈ tokens, CommasInside false token.toList ∧
      endsInside false token.toList = false :=
    fun token htoken => closes_iff.mp (h token htoken).closes
  have hlist : IsTokenList tokens :=
    ⟨hne, fun token htoken => (h token htoken).startsInk,
      fun token htoken => (hcloses token htoken).1,
      fun token htoken => (hcloses token (List.mem_of_mem_dropLast htoken)).2⟩
  exact hlist.split_join

end Join

/-- What splitting makes of a text: the rest of the token at hand, and all tokens behind it. The two
flags are those of `pieces`. -/
inductive ArePieces : Bool → Bool → List (List Char) → Prop
  | last {inside started : Bool} {token : List Char} (hink : started = false → StartsInk token)
      (hcommas : CommasInside inside token) : ArePieces inside started [token]
  | cons {inside started : Bool} {token : List Char} {tokens : List (List Char)}
      (hink : started = false → StartsInk token) (hcommas : CommasInside inside token)
      (hends : endsInside inside token = false) (hrest : ArePieces false false tokens) :
      ArePieces inside started (token :: tokens)

/-- A character that is kept goes to the token at hand. -/
theorem ArePieces.keep {inside started : Bool} {c : Char} {tokens : List (List Char)}
    (hink : started = false → isBlank c = false) (hcomma : c = ',' → inside = true)
    (h : ArePieces (isInsideBehind inside c) true tokens) :
    ArePieces inside started (tokens.modifyHead (c :: ·)) := by
  have hstarts : ∀ token, started = false → StartsInk (c :: token) :=
    fun _ hstarted => startsInk_of_head rfl (hink hstarted)
  cases h with
  | last _ hcommas => exact .last (hstarts _) (commasInside_cons.mpr ⟨hcomma, hcommas⟩)
  | cons _ hcommas hends hrest =>
    exact .cons (hstarts _) (commasInside_cons.mpr ⟨hcomma, hcommas⟩) hends hrest

theorem arePieces_pieces (inside started : Bool) (s : List Char) :
    ArePieces inside started (pieces inside started s) := by
  have hnil : StartsInk [] := by simp [StartsInk]
  induction s generalizing inside started with
  | nil => exact .last (fun _ => hnil) (commasInside_nil inside)
  | cons c s ih =>
    rw [pieces_cons]
    split
    next hcomma => exact .cons (fun _ => hnil) (commasInside_nil inside) hcomma.2 (ih false false)
    next hcomma =>
      split
      next hblank =>
        rw [hblank.2]
        exact ih inside false
      next hblank =>
        refine (ih (isInsideBehind inside c) true).keep ?_ ?_
        · intro hstarted
          by_contra hc
          exact hblank ⟨by simpa using hc, hstarted⟩
        · intro hc
          by_contra hinside
          exact hcomma ⟨hc, by simpa using hinside⟩

theorem ArePieces.isTokenList {parts : List (List Char)} (h : ArePieces false false parts) :
    IsTokenList (parts.map String.ofList) := by
  induction parts with
  | nil => cases h
  | cons token parts ih =>
    cases h with
    | last hink hcommas =>
      exact ⟨by simp, by simpa using hink rfl, by simpa using hcommas, by simp⟩
    | cons hink hcommas hends hrest =>
      have hlist := ih hrest
      refine ⟨by simp, ?_, ?_, ?_⟩
      · exact List.forall_mem_cons.mpr ⟨by simpa using hink rfl, hlist.startsInk⟩
      · exact List.forall_mem_cons.mpr ⟨by simpa using hcommas, hlist.commasInside⟩
      · rw [List.map_cons, List.dropLast_cons_of_ne_nil hlist.ne_nil]
        exact List.forall_mem_cons.mpr ⟨by simpa using hends, hlist.endsOutside⟩

theorem isTokenList_split (privileges : String) : IsTokenList (split privileges) :=
  (arePieces_pieces false false privileges.toList).isTokenList

/-- A list is read back from its joined text exactly if it has the shape of a list of tokens, and
whatever a text is taken apart into has this shape. -/
theorem split_inverts_join :
    (∀ tokens, split (join tokens) = tokens ↔ IsTokenList tokens) ∧
      ∀ privileges, IsTokenList (split privileges) ∧
        split (join (split privileges)) = split privileges := by
  refine ⟨fun tokens => ⟨fun h => ?_, IsTokenList.split_join⟩, fun privileges => ?_⟩
  · rw [← h]
    exact isTokenList_split (join tokens)
  · have hlist := isTokenList_split privileges
    exact ⟨hlist, hlist.split_join⟩

-- an empty token, a parenthesis that closes nothing, and one that nothing closes
example : split " a),, (b, c" = ["a)", "", "(b, c"] ∧
    join ["a)", "", "(b, c"] = "a), , (b, c" := by decide

end AccountGrants.Privilege
