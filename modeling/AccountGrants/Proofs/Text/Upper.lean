import AccountGrants.Text.Quote
import AccountGrants.Text.Upper

/-!
Upper case is reached in one step, and it neither adds nor removes marks. Both are read off the
tables once: no capital is itself a letter with another capital.
-/

namespace AccountGrants.Text

namespace CaseRun

/-- The capitals of a run. -/
def capitals (run : CaseRun) : List Nat :=
  ((List.range (run.last + 1 - run.first)).filter fun i => i % run.stride = 0).map (run.target + ·)

/-- No capital of one run is near a letter of the other. -/
def apart (run other : CaseRun) : Bool :=
  (run.target + (run.last - run.first)).blt other.first || other.last.blt run.target

theorem covers_iff {run : CaseRun} {n : Nat} : run.covers n = true ↔
    run.first ≤ n ∧ n ≤ run.last ∧ (n - run.first) % run.stride = 0 := by
  simp [covers, and_assoc]

theorem capital_mem {run : CaseRun} {n : Nat} (h : run.covers n = true) :
    run.capital n ∈ run.capitals := by
  obtain ⟨hfirst, hlast, hstride⟩ := covers_iff.mp h
  refine List.mem_map.mpr ⟨n - run.first, List.mem_filter.mpr ⟨?_, by simpa using hstride⟩, rfl⟩
  rw [List.mem_range]
  omega

theorem not_covers_of_apart {run other : CaseRun} (hapart : run.apart other = true) {n : Nat}
    (h : run.covers n = true) : other.covers (run.capital n) = false := by
  obtain ⟨hfirst, hlast, -⟩ := covers_iff.mp h
  refine Bool.eq_false_iff.mpr fun hcovers => ?_
  obtain ⟨hlow, hhigh, -⟩ := covers_iff.mp hcovers
  unfold capital at hlow hhigh
  simp only [apart, Bool.or_eq_true, Nat.blt_eq] at hapart
  omega

end CaseRun

/-- All letters above ASCII that change in upper case, those with longer capitals one by one. -/
def casedRuns : List CaseRun :=
  caseRuns ++ caseExpansions.map fun (n, _) => ⟨n, n, 1, n⟩

/-- The code points that upper case leads to: A to Z, and those above ASCII that are no letters of
a run. -/
def isCapital (n : Nat) : Bool :=
  decide n.isValidChar && (decide (0x41 ≤ n ∧ n ≤ 0x5a) ||
    decide (0x80 ≤ n) && casedRuns.all fun run => !run.covers n)

theorem caseRuns_apart : (caseRuns.all fun run => casedRuns.all fun other =>
    run.apart other || run.capitals.all fun n => !other.covers n) = true := by
  decide +kernel

theorem caseRuns_range : (caseRuns.all fun run => run.capitals.all fun n =>
    decide n.isValidChar && decide (0x41 ≤ n ∧ n ≤ 0x5a ∨ 0x80 ≤ n)) = true := by
  decide +kernel

theorem caseExpansions_capital : (caseExpansions.all fun (_, form) =>
    !form.isEmpty && form.all isCapital) = true := by
  decide +kernel

theorem isCapital_of_run {run : CaseRun} (hrun : run ∈ caseRuns) {n : Nat}
    (h : run.covers n = true) : isCapital (run.capital n) = true := by
  have hmem := CaseRun.capital_mem h
  have hrange := List.all_eq_true.mp (List.all_eq_true.mp caseRuns_range run hrun) _ hmem
  have hfree : (casedRuns.all fun other => !other.covers (run.capital n)) = true := by
    rw [List.all_eq_true]
    intro other hother
    have hpair := List.all_eq_true.mp (List.all_eq_true.mp caseRuns_apart run hrun) other hother
    rcases Bool.or_eq_true_iff.mp hpair with hapart | hall
    · rw [CaseRun.not_covers_of_apart hapart h]
      rfl
    · exact List.all_eq_true.mp hall _ hmem
  simp only [Bool.and_eq_true, decide_eq_true_eq] at hrange
  simp only [isCapital, hfree, hrange.1, Bool.and_true, Bool.or_eq_true, decide_eq_true_eq,
    decide_true, Bool.true_and]
  exact hrange.2

theorem toNat_ofNat_of_isCapital {n : Nat} (h : isCapital n = true) : (Char.ofNat n).toNat = n := by
  have hvalid : n.isValidChar := by
    simp only [isCapital, Bool.and_eq_true, decide_eq_true_eq] at h
    exact h.1
  rw [Char.ofNat, dif_pos hvalid]
  rfl

/-- What holds of the first 128 characters one by one holds of all of ASCII. -/
theorem ascii_all {P : Char → Prop} (h : ∀ n : Fin 128, P (Char.ofNat n)) {c : Char}
    (hc : c.toNat < 128) : P c := by
  simpa using h ⟨c.toNat, hc⟩

theorem upperChar_of_isCapital {c : Char} (h : isCapital c.toNat = true) : upperChar c = [c] := by
  simp only [isCapital, Bool.and_eq_true, Bool.or_eq_true, decide_eq_true_eq] at h
  by_cases hascii : c.toNat < 0x80
  · have hplain : 0x41 ≤ c.toNat ∧ c.toNat ≤ 0x5a → upperChar c = [c] :=
      ascii_all (P := fun c => 0x41 ≤ c.toNat ∧ c.toNat ≤ 0x5a → upperChar c = [c]) (by decide)
        hascii
    exact hplain (by omega)
  · obtain ⟨-, hletter | ⟨-, hfree⟩⟩ := h
    · omega
    · have hnone : caseExpansions.lookup c.toNat = none := by
        rw [List.lookup_eq_none_iff]
        intro entry hentry
        have hruns := List.all_eq_true.mp hfree ⟨entry.1, entry.1, 1, entry.1⟩
          (List.mem_append_right _ (List.mem_map.mpr ⟨entry, hentry, rfl⟩))
        simp only [Bool.not_eq_true', ← Bool.not_eq_true, CaseRun.covers_iff, not_and] at hruns
        rw [bne_iff_ne]
        intro heq
        exact hruns (by omega) (by omega) (by simp [Nat.mod_one])
      have hrun : caseRuns.find? (·.covers c.toNat) = none := by
        rw [List.find?_eq_none]
        intro run hrun
        simpa using List.all_eq_true.mp hfree run (List.mem_append_left _ hrun)
      simp [upperChar, hascii, hnone, hrun]

/-- A character stays as it is in upper case, or is replaced by capitals. -/
theorem upperChar_cases (c : Char) : upperChar c = [c] ∨
    upperChar c ≠ [] ∧ ∀ d ∈ upperChar c, isCapital d.toNat = true := by
  by_cases hascii : c.toNat < 0x80
  · have hcases := ascii_all (P := fun c => upperChar c = [c] ∨ upperChar c ≠ [] ∧
      ((upperChar c).all fun d => isCapital d.toNat) = true) (by decide +kernel) hascii
    rwa [List.all_eq_true] at hcases
  · unfold upperChar
    dsimp only
    rw [if_neg hascii]
    split
    next form hform =>
      right
      obtain ⟨hne, hall⟩ : form ≠ [] ∧ ∀ n ∈ form, isCapital n = true := by
        obtain ⟨k, hmem⟩ : ∃ k, (k, form) ∈ caseExpansions := by
          obtain ⟨before, after, hsplit, -⟩ := List.lookup_eq_some_iff.mp hform
          exact ⟨c.toNat, by rw [hsplit]; simp⟩
        simpa using List.all_eq_true.mp caseExpansions_capital _ hmem
      refine ⟨by simpa using hne, ?_⟩
      intro d hd
      obtain ⟨n, hn, rfl⟩ := List.mem_map.mp hd
      rw [toNat_ofNat_of_isCapital (hall n hn)]
      exact hall n hn
    next =>
      split
      next run hrun =>
        right
        have hcovers : run.covers c.toNat = true :=
          List.find?_some (p := fun run : CaseRun => run.covers c.toNat) hrun
        have hcapital := isCapital_of_run (List.mem_of_find?_eq_some hrun) hcovers
        simpa [toNat_ofNat_of_isCapital hcapital] using hcapital
      next => exact Or.inl rfl

theorem upperChar_ne_nil (c : Char) : upperChar c ≠ [] := by
  rcases upperChar_cases c with h | ⟨h, -⟩
  · simp [h]
  · exact h

theorem upper_upperChar (c : Char) : upper (upperChar c) = upperChar c := by
  rcases upperChar_cases c with h | ⟨-, h⟩
  · rw [h, upper, List.flatMap_singleton, h]
  · have hfixed : ∀ s : List Char, (∀ d ∈ s, isCapital d.toNat = true) → upper s = s := by
      intro s hs
      induction s with
      | nil => rfl
      | cons d s ih =>
        rw [upper, List.flatMap_cons, upperChar_of_isCapital (hs d List.mem_cons_self)]
        exact congrArg (d :: ·) (ih fun e he => hs e (List.mem_cons_of_mem d he))
    exact hfixed _ h

/-- A text in upper case is in upper case. -/
theorem upper_upper (s : List Char) : upper (upper s) = upper s := by
  induction s with
  | nil => rfl
  | cons c s ih =>
    have hcons : upper (c :: s) = upperChar c ++ upper s := rfl
    rw [hcons, upper_append, upper_upperChar, ih]

/-- A character that stays in upper case and is the capital of no other one. -/
structure IsMark (a : Char) : Prop where
  fixed : upperChar a = [a]
  not_capital : isCapital a.toNat = false

section Mark

variable {a : Char}

theorem IsMark.mem_upperChar (ha : IsMark a) {c : Char} : a ∈ upperChar c ↔ c = a := by
  constructor
  · intro h
    rcases upperChar_cases c with hfixed | ⟨-, hcapital⟩
    · rw [hfixed] at h
      exact (List.mem_singleton.mp h).symm
    · have hbad := hcapital a h
      rw [ha.not_capital] at hbad
      cases hbad
  · rintro rfl
    simp [ha.fixed]

theorem IsMark.mem_upper (ha : IsMark a) {s : List Char} : a ∈ upper s ↔ a ∈ s := by
  simp [upper, ha.mem_upperChar]

/-- The characters of ASCII that are no letters have no case. -/
theorem isMark_of_ascii (hascii : a.toNat < 128) (hletter : a.isAlpha = false) : IsMark a := by
  have hmark : a.isAlpha = false → upperChar a = [a] ∧ isCapital a.toNat = false :=
    ascii_all (P := fun a => a.isAlpha = false → upperChar a = [a] ∧ isCapital a.toNat = false)
      (by decide) hascii
  obtain ⟨hfixed, hcapital⟩ := hmark hletter
  exact ⟨hfixed, hcapital⟩

theorem isMark_of_isWhitespace (h : a.isWhitespace = true) : IsMark a := by
  simp only [Char.isWhitespace, Bool.or_eq_true, decide_eq_true_eq] at h
  rcases h with ((rfl | rfl) | rfl) | rfl <;> exact isMark_of_ascii (by decide) rfl

end Mark

section Lower

variable {c : Char}

/-- Lower case leaves all characters above ASCII as they are. -/
theorem ascii_of_toLower (h : c.toLower.toNat < 128) : c.toNat < 128 := by
  refine Nat.not_le.mp fun hc => ?_
  have hZ : 'Z'.val.toNat = 90 := rfl
  have habove : ¬(c.val ≥ 'A'.val ∧ c.val ≤ 'Z'.val) := by
    rintro ⟨-, hle⟩
    rw [UInt32.le_iff_toNat_le, hZ] at hle
    have hnat : c.val.toNat = c.toNat := rfl
    omega
  have hsame : c.toLower = c := dif_neg habove
  rw [hsame] at h
  omega

/-- A text that is ASCII in lower case has the same upper case as its lower case. -/
theorem upper_of_toLower {s : List Char} (h : ∀ c ∈ s.map Char.toLower, c.toNat < 128) :
    upper s = (s.map Char.toLower).map Char.toUpper := by
  induction s with
  | nil => rfl
  | cons c s ih =>
    rw [List.map_cons, List.forall_mem_cons] at h
    have hchar : upperChar c = [c.toLower.toUpper] :=
      ascii_all (P := fun c => upperChar c = [c.toLower.toUpper]) (by decide)
        (ascii_of_toLower h.1)
    rw [upper, List.flatMap_cons, hchar]
    exact congrArg (c.toLower.toUpper :: ·) (ih h.2)

end Lower

end AccountGrants.Text
