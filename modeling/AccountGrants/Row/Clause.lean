import AccountGrants.Text.Scan
import AccountGrants.Text.WordChar

/-!
The clauses behind the identity of a listed grant: what connections must use, and whether the
grant may be passed on. Both are looked for in the whole row.
-/

namespace AccountGrants.Row

open Text

/-- The requirement that begins here: what follows REQUIRE and a gap, to the end of its line. -/
def requirementHere? (s : List Char) : Option (List Char) :=
  ((after? "REQUIRE" s).bind afterGap?).map (·.takeWhile (· != '\n'))

/-- The last requirement that begins on this line. -/
def requirementOnLine? : List Char → Option (List Char)
  | [] => none
  | c :: s =>
    if c = '\n' then none else (requirementOnLine? s).or (requirementHere? (c :: s))

/-- The requirement of the first later line that has one. -/
def requirementBelow? : List Char → Option (List Char)
  | [] => none
  | c :: s =>
    if c = '\n' then (requirementOnLine? s).or (requirementBelow? s) else requirementBelow? s

/-- The requirement of a row, empty where the row states none. -/
def requirement (row : List Char) : List Char :=
  ((requirementOnLine? row).or (requirementBelow? row)).getD []

/-- The words that let a holder pass a grant on. -/
def optionPhrases : List String := ["GRANT OPTION", "ADMIN OPTION"]

/-- Whether one of the phrases begins here and no word character follows it. -/
def optionHere (s : List Char) : Bool :=
  optionPhrases.any fun phrase => (after? phrase s).any fun rest => !rest.head?.any isWordChar

/-- Whether one of the phrases stands in a text as words of their own. `inWord` tells whether a
word character comes before the text. -/
def optionWithin (inWord : Bool) : List Char → Bool
  | [] => false
  | c :: s => (!inWord && optionHere (c :: s)) || optionWithin (isWordChar c) s

/-- Whether a row says that its grant may be passed on. -/
def hasOption (row : List Char) : Bool :=
  optionWithin false row

end AccountGrants.Row
