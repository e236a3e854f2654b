import AccountGrants.Text.Blank

/-!
What a server's version says about roles.
-/

namespace AccountGrants.Server

open Text

/-- A digit of ASCII or a dot. -/
def isVersionChar (c : Char) : Bool :=
  c.isDigit || c == '.'

/-- The number that a run of digits writes, if it fits into 64 bits. -/
def component? (digits : List Char) : Option Nat :=
  let n := digits.foldl (fun n c => 10 * n + (c.toNat - '0'.toNat)) 0
  if n < UInt64.size then some n else none

/-- The first three numbers of a version text, which may have a suffix; a missing number is 0.
There is no version where the text begins with neither digit nor dot. -/
def versionNumbers? (version : String) : Option (List Nat) :=
  let numeric := (trim version.toList).takeWhile isVersionChar
  if numeric.isEmpty then none
  else
    let runs := ((numeric.splitOn '.').filter (· != [])).take 3
    (runs.mapM component?).map fun numbers => numbers ++ List.replicate (3 - numbers.length) 0

/-- Roles came after version 8.0.0. -/
def roleVersion : List Nat := [8, 0, 0]

/-- Whether a server of this version has roles. -/
def supportsRoles (version : String) : Bool :=
  match versionNumbers? version with
  | some numbers => decide (roleVersion < numbers)
  | none => false

end AccountGrants.Server
