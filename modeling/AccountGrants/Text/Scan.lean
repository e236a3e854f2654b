import AccountGrants.Text.Blank

/-!
Reading a text from the left: past a fixed word, past a gap of blanks.
-/

namespace AccountGrants.Text

/-- What follows `word` at the start of a text. -/
def after? (word : String) (s : List Char) : Option (List Char) :=
  word.toList.isPrefixOf? s

/-- What follows a gap of at least one blank. -/
def afterGap? : List Char → Option (List Char)
  | [] => none
  | c :: s => if isBlank c then some (s.dropWhile isBlank) else none

end AccountGrants.Text
