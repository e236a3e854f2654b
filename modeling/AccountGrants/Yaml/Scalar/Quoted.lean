import AccountGrants.Text.Quote
import AccountGrants.Yaml.Cursor
import AccountGrants.Yaml.Scalar.Number

/-!
Quoted scalars, which are always texts. Between single quotes a quote is written twice; between
double quotes a backslash begins an escape.
-/

namespace AccountGrants.Yaml

open Text

/-- A character of a quoted scalar. Only what is not escaped is folded. -/
inductive QuotedChar where
  | raw (c : Char)
  | escaped (c : Char)

/-- Whether a character is a blank that folding may drop. -/
def QuotedChar.isSpace : QuotedChar → Bool
  | .raw c => Yaml.isSpace c
  | .escaped _ => false

/-- Whether a character is a line end that folding replaces. -/
def QuotedChar.isBreak : QuotedChar → Bool
  | .raw c => c == '\n'
  | .escaped _ => false

/-- The text of a quoted scalar: line ends are folded, and the blanks around them dropped. `breaks`
counts the line ends just passed. -/
def foldQuoted (breaks : Nat) : List QuotedChar → List Char
  | [] => if breaks = 0 then [] else foldedBreak (breaks - 1)
  | c :: s =>
    if c.isBreak then foldQuoted (breaks + 1) s
    else if c.isSpace && (breaks ≠ 0 || (s.dropWhile QuotedChar.isSpace).head?.any (·.isBreak)) then
      foldQuoted breaks s
    else
      let here := match c with
        | .raw c => c
        | .escaped c => c
      (if breaks = 0 then [] else foldedBreak (breaks - 1)) ++ here :: foldQuoted 0 s

/-- The text between single quotes, where a quote is written twice, and the rest. -/
def singleQuotedBody? : List Char → Option (List QuotedChar × List Char)
  | [] => none
  | [c] => if c = singleQuote then some ([], []) else none
  | c :: d :: s =>
    if c = singleQuote then
      if d = singleQuote then
        (singleQuotedBody? s).map fun (body, rest) => (.raw singleQuote :: body, rest)
      else some ([], d :: s)
    else (singleQuotedBody? (d :: s)).map fun (body, rest) => (.raw c :: body, rest)

/-- The text up to the double quote that is not escaped, and the rest. -/
def doubleQuotedBody? (afterBackslash : Bool) : List Char → Option (List Char × List Char)
  | [] => none
  | c :: s =>
    if c = doubleQuote && !afterBackslash then some ([], s)
    else (doubleQuotedBody? (c == '\\' && !afterBackslash) s).map
      fun (body, rest) => (c :: body, rest)

/-- The escapes of one letter. -/
def escapes : List (Char × Char) :=
  [('0', '\x00'), ('a', '\x07'), ('b', '\x08'), ('t', '\t'), ('n', '\n'), ('v', '\x0b'),
   ('f', '\x0c'), ('r', '\r'), ('e', '\x1b'), (' ', ' '), ('/', '/'), ('\\', '\\'), ('\t', '\t'),
   (doubleQuote, doubleQuote), ('N', '\u0085'), ('_', '\u00a0'), ('L', '\u2028'), ('P', '\u2029')]

/-- The escapes that give a code point, with the number of their digits. -/
def codeEscapes : List (Char × Nat) :=
  [('x', 2), ('u', 4), ('U', 8)]

/-- The character that `n` hexadecimal digits give. -/
def codePoint? (n : Nat) (digits : List Char) : Option Char := do
  if digits.length < n then none
  let value := (← digits.mapM hexDigit?).foldl (16 * · + ·) 0
  if h : value.isValidChar then some (Char.ofNatAux value h) else none

/-- The characters between double quotes. An escaped line end disappears together with the blanks
that follow it. -/
def unescape? : List Char → Option (List QuotedChar)
  | [] => some []
  | '\\' :: [] => none
  | '\\' :: c :: s =>
    if c = '\n' then unescape? (s.dropWhile isSpace)
    else match escapes.lookup c, codeEscapes.lookup c with
      | some meant, _ => (unescape? s).map (.escaped meant :: ·)
      | none, some n => do
        let meant ← codePoint? n (s.take n)
        let more ← unescape? (s.drop n)
        return .escaped meant :: more
      | none, none => none
  | c :: s => (unescape? s).map (.raw c :: ·)
termination_by s => s.length
decreasing_by
  · have := (List.dropWhile_sublist (l := s) isSpace).length_le
    simp only [List.length_cons]
    omega
  all_goals simp only [List.length_cons, List.length_drop]; omega

/-- A quoted scalar. -/
def quoted? (cur : Cursor) : Option (ConfigValue × Cursor) :=
  match cur.rest with
  | [] => none
  | c :: s =>
    if c = singleQuote then do
      let (body, rest) ← singleQuotedBody? s
      return (.text (String.ofList (foldQuoted 0 body)), cur.skipTo rest)
    else if c = doubleQuote then do
      let (body, rest) ← doubleQuotedBody? false s
      let body ← unescape? body
      return (.text (String.ofList (foldQuoted 0 body)), cur.skipTo rest)
    else none

end AccountGrants.Yaml
