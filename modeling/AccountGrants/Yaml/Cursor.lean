import AccountGrants.ConfigValue

/-!
A place in a YAML text: what is left to read, the column of its first character, the anchors that
were set before it, and the tag handles that its document declares.
-/

namespace AccountGrants.Yaml

/-- Blanks that separate tokens within a line. -/
def isSpace (c : Char) : Bool :=
  c == ' ' || c == '\t'

/-- Blanks and line ends. -/
def isSeparator (c : Char) : Bool :=
  isSpace c || c == '\n'

/-- The characters that structure lists and records in brackets. -/
def isFlowIndicator (c : Char) : Bool :=
  c == ',' || c == '[' || c == ']' || c == '\x7b' || c == '\x7d'

/-- Whether nothing that extends a token comes first. -/
def endsToken (inFlow : Bool) : List Char → Bool
  | [] => true
  | c :: _ => isSeparator c || (inFlow && isFlowIndicator c)

/-- Whether a text begins with `word` as a token. -/
def startsWord (word : String) (s : List Char) : Bool :=
  (word.toList.isPrefixOf? s).any (endsToken false)

/-- Whether a line parts documents. -/
def isMarker (line : List Char) : Bool :=
  startsWord "---" line || startsWord "..." line

/-- A line end within a scalar: one becomes a space, and `n` more become `n` line ends. -/
def foldedBreak (more : Nat) : List Char :=
  if more = 0 then [' '] else List.replicate more '\n'

/-- A place in a text. -/
structure Cursor where
  column : Nat
  rest : List Char
  anchors : List (String × ConfigValue)
  handles : List (List Char)

namespace Cursor

/-- The place `n` characters further on. -/
def skip : Nat → Cursor → Cursor
  | 0, cur => cur
  | n + 1, cur =>
    match cur.rest with
    | [] => cur
    | c :: s => skip n { cur with column := if c = '\n' then 0 else cur.column + 1, rest := s }

/-- The place at which only `s` is left. -/
def skipTo (s : List Char) (cur : Cursor) : Cursor :=
  cur.skip (cur.rest.length - s.length)

/-- The length of the blanks, line ends and comments in front of a text. A comment follows a blank
or begins a line. -/
def gapLength (spaced inComment : Bool) : List Char → Nat
  | [] => 0
  | c :: s =>
    if c = '\n' then gapLength true false s + 1
    else if inComment then gapLength false true s + 1
    else if isSpace c then gapLength true false s + 1
    else if c = '#' && spaced then gapLength false true s + 1
    else 0

/-- The next token, and whether it is the first on its line. -/
def gap (cur : Cursor) : Cursor × Bool :=
  let n := gapLength (cur.column == 0) false cur.rest
  (cur.skip n, cur.column == 0 || (cur.rest.take n).contains '\n')

/-- The next character on the line that is not a blank. -/
def afterSpaces (cur : Cursor) : Cursor :=
  cur.skip (cur.rest.takeWhile isSpace).length

/-- Whether the text goes on with `word` as a token. -/
def atWord (word : String) (cur : Cursor) : Bool :=
  startsWord word cur.rest

/-- Whether a line begins here that parts documents. -/
def atMarker (cur : Cursor) : Bool :=
  cur.column == 0 && isMarker cur.rest

/-- Whether there is no more of the document. -/
def atEnd (cur : Cursor) : Bool :=
  cur.rest.isEmpty || cur.atMarker

/-- The place with one more anchor. A later anchor of the same name hides an earlier one. -/
def anchor (name : String) (value : ConfigValue) (cur : Cursor) : Cursor :=
  { cur with anchors := (name, value) :: cur.anchors }

end Cursor

end AccountGrants.Yaml
