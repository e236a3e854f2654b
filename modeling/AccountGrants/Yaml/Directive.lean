import AccountGrants.Yaml.Cursor

/-!
Directives: lines in front of a document that begin with a per cent sign and tell the version of
YAML or declare a handle that tags may begin with.
-/

namespace AccountGrants.Yaml

/-- A directive. Those with an unknown name are reserved and say nothing. -/
inductive Directive where
  | version
  | tag (handle : List Char)
  | reserved
deriving DecidableEq

namespace Directive

/-- The words of a line up to a comment. -/
def words (line : List Char) : List (List Char) :=
  ((line.splitOnP isSpace).filter (!·.isEmpty)).takeWhile (·.head? != some '#')

/-- Whether a word is a version that documents can be read as, which is any with the number 1 before
its dot. -/
def isVersion : List Char → Bool
  | '1' :: '.' :: minor => !minor.isEmpty && minor.all Char.isDigit
  | _ => false

/-- Whether a word is a handle: one exclamation mark, or two with or without a name between them. -/
def isHandle (word : List Char) : Bool :=
  word.head? == some '!' && word.getLast? == some '!' &&
    ((word.drop 1).dropLast.all fun c => c.isAlphanum || c == '-')

/-- The directive on a line, of which the per cent sign has been read. -/
def ofLine? (line : List Char) : Option Directive :=
  if line.head?.all isSpace then none
  else match words line with
    | [] => none
    | name :: parameters =>
      if name = "YAML".toList then match parameters with
        | [number] => if isVersion number then some .version else none
        | _ => none
      else if name = "TAG".toList then match parameters with
        | [handle, _] => if isHandle handle then some (.tag handle) else none
        | _ => none
      else some .reserved

/-- The handle that a directive declares. -/
def handle? : Directive → Option (List Char)
  | .tag handle => some handle
  | _ => none

/-- Whether directives can stand before one document, which has one version at most and declares no
handle twice. -/
def areCompatible (directives : List Directive) : Bool :=
  decide (directives.filter (· ≠ .reserved)).Nodup

end Directive

/-- The directives from a place on, and the place behind the last of them. `budget` bounds their
number. -/
def directives? : Nat → Cursor → Option (List Directive × Cursor)
  | 0, _ => none
  | budget + 1, cur =>
    let next := cur.gap.1
    if next.column = 0 && next.rest.head? = some '%' then do
      let line := (next.rest.drop 1).takeWhile (· != '\n')
      let directive ← Directive.ofLine? line
      let (more, last) ← directives? budget (next.skip (line.length + 1))
      return (directive :: more, last)
    else some ([], cur)

end AccountGrants.Yaml
