import AccountGrants.Text.Quote
import AccountGrants.Yaml.Cursor
import AccountGrants.Yaml.Scalar.Number

/-!
Plain scalars, which are written without quotes and whose value may be null, a truth value, a
number or a text.
-/

namespace AccountGrants.Yaml

open Text

/-- The value of a plain scalar. -/
def plainValue (s : List Char) : ConfigValue :=
  let text := String.ofList s
  if text ∈ ["", "~", "null", "Null", "NULL"] then .null
  else if text ∈ ["true", "True", "TRUE"] then .bool true
  else if text ∈ ["false", "False", "FALSE"] then .bool false
  else if text ∈ [".nan", ".NaN", ".NAN"] then .number "NaN"
  else if text ∈ [".inf", ".Inf", ".INF"] then .number "inf"
  else if text ∈ ["-.inf", "-.Inf", "-.INF"] then .number "-inf"
  else match numberText? s with
    | some digits => .number (String.ofList digits)
    | none => .text text

/-- Whether a plain scalar ends here: at a line end, a comment, a colon that ends a key and, between
brackets, at their punctuation. Blanks before the end are no part of the scalar. -/
def plainEnds (inFlow : Bool) (s : List Char) : Bool :=
  match s.dropWhile isSpace with
  | [] => true
  | c :: rest =>
    c == '\n' || (c == '#' && s.head?.any isSpace) || (c == ':' && endsToken inFlow rest) ||
      (inFlow && isFlowIndicator c)

/-- The part of a plain scalar that stands on this line. -/
def plainLine (inFlow : Bool) : List Char → List Char
  | [] => []
  | c :: s => if plainEnds inFlow (c :: s) then [] else c :: plainLine inFlow s

/-- The characters with a meaning of their own at the start of a token. -/
def isIndicator (c : Char) : Bool :=
  isFlowIndicator c || c == '#' || c == '&' || c == '*' || c == '!' || c == '|' || c == '>' ||
    c == '%' || c == '@' || c == singleQuote || c == doubleQuote || c == backTick

/-- Whether a plain scalar can begin here. -/
def startsPlain (inFlow : Bool) : List Char → Bool
  | [] => false
  | c :: s =>
    if c = '-' || c = '?' || c = ':' then !endsToken inFlow s
    else !isSeparator c && !isIndicator c

/-- The lines of a plain scalar below its first, each after its line ends. A line belongs to the
scalar when it begins at column `least` or later. `budget` bounds the number of lines. -/
def plainTail (inFlow : Bool) (least : Nat) : Nat → Cursor → List Char × Cursor
  | 0, cur => ([], cur)
  | budget + 1, cur =>
    let gap := cur.rest.takeWhile isSeparator
    let next := cur.skip gap.length
    let line := plainLine inFlow next.rest
    let breaks := gap.count '\n'
    if breaks = 0 || next.atEnd || next.column < least || next.rest.head? = some '#' ||
        line.isEmpty then
      ([], cur)
    else
      let (more, cur) := plainTail inFlow least budget (next.skip line.length)
      (foldedBreak (breaks - 1) ++ line ++ more, cur)

/-- A plain scalar. -/
def plain? (inFlow : Bool) (least : Nat) (cur : Cursor) : Option (ConfigValue × Cursor) :=
  if startsPlain inFlow cur.rest then
    let line := plainLine inFlow cur.rest
    let (more, cur) := plainTail inFlow least cur.rest.length (cur.skip line.length)
    some (plainValue (line ++ more), cur)
  else none

end AccountGrants.Yaml
