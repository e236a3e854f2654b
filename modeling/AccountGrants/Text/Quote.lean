/-!
The three marks that stand around names.
-/

namespace AccountGrants.Text

/-- The mark around database, table and routine names. -/
def backTick : Char := '\x60'

/-- The mark around the names of accounts. -/
def singleQuote : Char := '\x27'

/-- Accepted around names, never written. -/
def doubleQuote : Char := '\x22'

/-- A name between two back-ticks. -/
def backTicked (name : String) : String :=
  String.singleton backTick ++ name ++ String.singleton backTick

/-- A name between two single quotes. -/
def singleQuoted (name : String) : String :=
  String.singleton singleQuote ++ name ++ String.singleton singleQuote

end AccountGrants.Text
