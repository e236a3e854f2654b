import AccountGrants.Text.CaseTable

/-!
Upper case by the full mapping of Unicode: every character has one capital form, which does not
depend on its neighbours and may be longer than the character (ß becomes SS).
-/

namespace AccountGrants.Text

/-- The capital form of a character. -/
def upperChar (c : Char) : List Char :=
  let n := c.toNat
  if n < 0x80 then [c.toUpper]
  else match caseExpansions.lookup n with
    | some form => form.map Char.ofNat
    | none => match caseRuns.find? (·.covers n) with
      | some run => [Char.ofNat (run.capital n)]
      | none => [c]

/-- A text in upper case. -/
def upper (s : List Char) : List Char :=
  s.flatMap upperChar

theorem upper_append (s t : List Char) : upper (s ++ t) = upper s ++ upper t := by
  simp [upper]

end AccountGrants.Text
