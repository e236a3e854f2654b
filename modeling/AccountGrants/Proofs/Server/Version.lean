import AccountGrants.Proofs.Text.Words
import AccountGrants.Server.Version
import Mathlib.Data.List.TakeWhile
import Mathlib.Data.Nat.Digits.Defs
import Mathlib.Data.Prod.Lex

/-!
Which servers have roles. Each version text has one list of components, the runs of digits that it
begins with, and the numbers of the first three of them decide: `supportsRoles_exact`.
-/

namespace AccountGrants.Server

open Text

/-- A text without the blanks at its ends. -/
structure IsTrimmed (s text : List Char) : Prop where
  cut : ∃ a b, s = a ++ text ++ b ∧ (∀ c ∈ a, isBlank c = true) ∧ ∀ c ∈ b, isBlank c = true
  startsInk : StartsInk text
  endsInk : EndsInk text

/-- The longest beginning of a text that is made of digits and dots. -/
structure IsNumeric (text numeric : List Char) : Prop where
  starts : numeric <+: text
  chars : ∀ c ∈ numeric, c.isDigit = true ∨ c = '.'
  longest : ∀ other, other <+: text → (∀ c ∈ other, c.isDigit = true ∨ c = '.') →
    other.length ≤ numeric.length

/-- The runs between the dots of a text, without those that are empty. -/
inductive HasRuns : List Char → List (List Char) → Prop
  | nil : HasRuns [] []
  | dot {s : List Char} {runs : List (List Char)} (h : HasRuns s runs) : HasRuns ('.' :: s) runs
  | run {run rest : List Char} {runs : List (List Char)} (hne : run ≠ []) (hdot : '.' ∉ run)
      (hends : ∀ c ∈ rest.head?, c = '.') (h : HasRuns rest runs) :
      HasRuns (run ++ rest) (run :: runs)

/-- The runs of digits that a version text begins with. -/
def Components (version : String) (runs : List (List Char)) : Prop :=
  ∃ text numeric, IsTrimmed version.toList text ∧ IsNumeric text numeric ∧ HasRuns numeric runs

/-- The number that a run of digits writes. -/
def numberOf (digits : List Char) : Nat :=
  Nat.ofDigits 10 (digits.reverse.map fun c => c.toNat - '0'.toNat)

section Components

variable {s text numeric : List Char} {runs : List (List Char)}

theorem isTrimmed_iff : IsTrimmed s text ↔ text = trim s := by
  constructor
  · intro h
    obtain ⟨a, b, rfl, ha, hb⟩ := h.cut
    rw [trim, strip_append_all ha hb]
    exact (trim_of_ink h.startsInk h.endsInk).symm
  · rintro rfl
    obtain ⟨a, b, hsplit, ha, hb⟩ := strip_split isBlank s
    exact ⟨⟨a, b, by rw [List.append_assoc]; exact hsplit, ha, hb⟩, startsInk_trim s,
      endsInk_trim s⟩

theorem isVersionChar_iff (c : Char) : isVersionChar c = true ↔ c.isDigit = true ∨ c = '.' := by
  simp [isVersionChar]

theorem isNumeric_takeWhile (text : List Char) :
    IsNumeric text (text.takeWhile isVersionChar) where
  starts := List.takeWhile_prefix isVersionChar
  chars c hc := (isVersionChar_iff c).mp (List.mem_takeWhile_imp hc)
  longest := by
    rintro other ⟨rest, rfl⟩ hchars
    have hall : ∀ c ∈ other, isVersionChar c = true :=
      fun c hc => (isVersionChar_iff c).mpr (hchars c hc)
    rw [List.takeWhile_append_of_pos hall, List.length_append]
    omega

theorem isNumeric_iff : IsNumeric text numeric ↔ numeric = text.takeWhile isVersionChar := by
  have htaken := isNumeric_takeWhile text
  constructor
  · intro h
    have hle := htaken.longest numeric h.starts h.chars
    have hge := h.longest _ htaken.starts htaken.chars
    exact (List.prefix_of_prefix_length_le h.starts htaken.starts hle).eq_of_length_le hge
  · rintro rfl
    exact htaken

theorem splitOn_dot (s : List Char) : ('.' :: s).splitOn '.' = [] :: s.splitOn '.' :=
  List.splitOn_append_cons_self [] s

theorem HasRuns.eq (h : HasRuns s runs) : runs = (s.splitOn '.').filter (· != []) := by
  induction h with
  | nil => rfl
  | dot h ih =>
    rw [splitOn_dot]
    exact ih
  | @run run rest runs hne hdot hends h ih =>
    have hkept : [run].filter (· != []) = [run] := by simp [hne]
    cases rest with
    | nil => rw [ih, List.append_nil, List.splitOn_eq_singleton hdot, hkept, List.splitOn_nil]; rfl
    | cons c rest =>
      obtain rfl := hends c rfl
      rw [splitOn_dot] at ih
      rw [ih, List.splitOn_append_cons_self, List.splitOn_eq_singleton hdot, List.filter_append,
        hkept]
      rfl

/-- Behind the run that a text begins with there is nothing or a dot. -/
theorem exists_hasRuns : (s : List Char) → ∃ runs, HasRuns s runs
  | [] => ⟨[], .nil⟩
  | c :: s => by
    by_cases hdot : c = '.'
    · obtain ⟨runs, h⟩ := exists_hasRuns s
      rw [hdot]
      exact ⟨runs, .dot h⟩
    · obtain ⟨runs, h⟩ := exists_hasRuns (s.dropWhile (· != '.'))
      have hrun : '.' ∉ c :: s.takeWhile (· != '.') := by
        intro hmem
        rcases List.mem_cons.mp hmem with heq | hmem
        · exact hdot heq.symm
        · simpa using List.mem_takeWhile_imp hmem
      have hends : ∀ d ∈ (s.dropWhile (· != '.')).head?, d = '.' := by
        intro d hd
        simpa using head_dropWhile s d hd
      have hwhole := HasRuns.run (List.cons_ne_nil c _) hrun hends h
      rw [List.cons_append, List.takeWhile_append_dropWhile] at hwhole
      exact ⟨_, hwhole⟩
  termination_by s => s.length
  decreasing_by
    · simp
    · have hle := (List.dropWhile_sublist (l := s) (· != '.')).length_le
      simp only [List.length_cons]
      omega

theorem hasRuns_iff : HasRuns s runs ↔ runs = (s.splitOn '.').filter (· != []) := by
  constructor
  · exact HasRuns.eq
  · rintro rfl
    obtain ⟨runs, h⟩ := exists_hasRuns s
    rwa [← h.eq]

/-- The components of a version text, as they are computed. -/
theorem components_iff {version : String} : Components version runs ↔
    runs = (((trim version.toList).takeWhile isVersionChar).splitOn '.').filter (· != []) := by
  simp only [Components, isTrimmed_iff, isNumeric_iff, hasRuns_iff]
  simp

end Components

section Numbers

theorem component?_eq (digits : List Char) :
    component? digits = if numberOf digits < 2 ^ 64 then some (numberOf digits) else none := by
  have hvalue : digits.foldl (fun n c => 10 * n + (c.toNat - '0'.toNat)) 0 = numberOf digits := by
    rw [numberOf, Nat.ofDigits_eq_foldr, List.foldr_map, List.foldr_reverse]
    simp [Nat.add_comm]
  rw [component?, hvalue]
  rfl

theorem mapM_component? (runs : List (List Char)) : runs.mapM component? =
    if ∀ run ∈ runs, numberOf run < 2 ^ 64 then some (runs.map numberOf) else none := by
  induction runs with
  | nil => simp
  | cons run runs ih =>
    rw [List.mapM_cons, component?_eq, ih]
    simp only [List.forall_mem_cons]
    by_cases hrun : numberOf run < 2 ^ 64
    · by_cases hruns : ∀ other ∈ runs, numberOf other < 2 ^ 64
      · rw [if_pos hrun, if_pos hruns, if_pos ⟨hrun, hruns⟩]
        rfl
      · rw [if_pos hrun, if_neg hruns, if_neg (mt And.right hruns)]
        rfl
    · rw [if_neg hrun, if_neg (mt And.left hrun)]
      rfl

/-- The version after which there are roles, compared with three numbers at most. -/
theorem roleVersion_lt_iff (numbers : List Nat) :
    roleVersion < numbers.take 3 ++ List.replicate (3 - (numbers.take 3).length) 0 ↔
      toLex (8, toLex (0, 0)) <
        toLex (numbers.getD 0 0, toLex (numbers.getD 1 0, numbers.getD 2 0)) := by
  rcases numbers with _ | ⟨a, _ | ⟨b, _ | ⟨c, rest⟩⟩⟩ <;>
    simp [roleVersion, Prod.Lex.toLex_lt_toLex, List.replicate_succ, List.cons_lt_cons_iff]

end Numbers

/-- A text without components is no exception: it counts as version 0.0.0. -/
theorem supportsRoles_of_components {version : String} {runs : List (List Char)}
    (h : Components version runs) : supportsRoles version =
      ((runs.take 3).mapM component?).any fun numbers =>
        decide (roleVersion < numbers ++ List.replicate (3 - numbers.length) 0) := by
  rw [components_iff] at h
  unfold supportsRoles versionNumbers?
  dsimp only
  rw [← h]
  by_cases hempty : ((trim version.toList).takeWhile isVersionChar).isEmpty = true
  · rw [List.isEmpty_iff.mp hempty] at h
    rw [if_pos hempty, h]
    decide
  · rw [if_neg hempty]
    cases (runs.take 3).mapM component? <;> rfl

/-- A version text has one list of components. The server has roles if and only if the numbers of
the first three fit into 64 bits and come after 8.0.0, a missing one being 0. -/
theorem supportsRoles_exact (version : String) :
    ∃ runs, (∀ other, Components version other ↔ other = runs) ∧
      (supportsRoles version = true ↔
        (∀ run ∈ runs.take 3, numberOf run < 2 ^ 64) ∧
          toLex (8, toLex (0, 0)) < toLex ((runs.map numberOf).getD 0 0,
            toLex ((runs.map numberOf).getD 1 0, (runs.map numberOf).getD 2 0))) := by
  obtain ⟨runs, hruns⟩ : ∃ runs, ∀ other, Components version other ↔ other = runs :=
    ⟨_, fun _ => components_iff⟩
  refine ⟨runs, hruns, ?_⟩
  rw [supportsRoles_of_components ((hruns runs).mpr rfl), mapM_component?, ← roleVersion_lt_iff,
    ← List.map_take]
  by_cases hfit : ∀ run ∈ runs.take 3, numberOf run < 2 ^ 64
  · rw [if_pos hfit, and_iff_right hfit]
    exact decide_eq_true_iff
  · rw [if_neg hfit]
    exact iff_of_false Bool.false_ne_true fun h => hfit h.1

-- leading zeros, repeated dots and a fourth number are passed over, a number too large is not
example : supportsRoles " 008..0.1.99999999999999999999rc" = true ∧
    supportsRoles "9.0.18446744073709551616" = false := by decide +kernel

end AccountGrants.Server
