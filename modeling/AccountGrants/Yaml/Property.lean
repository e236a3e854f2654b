import AccountGrants.Yaml.Cursor

/-!
What stands in front of a node's content: a tag, which does not change the value, and an anchor,
which gives the value a name for aliases. A node has at most one of each.
-/

namespace AccountGrants.Yaml

/-- The properties of a node that have been read. -/
structure Properties where
  tagged : Bool := false
  anchor : Option String := none

namespace Properties

/-- Whether no property has been read. -/
def isEmpty (props : Properties) : Bool :=
  !props.tagged && props.anchor.isNone

/-- Gives a value that was read its name. -/
def attach (props : Properties) : ConfigValue × Cursor → ConfigValue × Cursor
  | (value, cur) => (value, match props.anchor with
      | some name => cur.anchor name value
      | none => cur)

end Properties

/-- The name that begins a text, and the rest. Blanks and the punctuation of brackets are no part of
it. -/
def name? (inFlow : Bool) (s : List Char) : Option (List Char × List Char) :=
  let inName := fun c => !isSeparator c && !isFlowIndicator c
  let rest := s.dropWhile inName
  if endsToken inFlow rest then some (s.takeWhile inName, rest) else none

/-- Whether a tag can be used where `handles` are declared. A name between two exclamation marks is
a handle together with them. The first mark has been read. -/
def isUsableTag (handles : List (List Char)) (tag : List Char) : Bool :=
  let name := tag.takeWhile (· != '!')
  name.isEmpty || !tag.contains '!' || handles.contains ('!' :: name ++ ['!'])

/-- What is left behind a tag, of which the first exclamation mark has been read. A tag between
angle brackets stands for itself. -/
def afterTag? (inFlow : Bool) (handles : List (List Char)) : List Char → Option (List Char)
  | '<' :: s =>
    match s.dropWhile fun c => !isSeparator c && c != '>' with
    | '>' :: rest => if endsToken inFlow rest then some rest else none
    | _ => none
  | s => do
    let (tag, rest) ← name? inFlow s
    if isUsableTag handles tag then some rest else none

/-- One more property of a node, if it begins here and the node has none of its kind yet. -/
def property? (inFlow : Bool) (props : Properties) (cur : Cursor) : Option (Properties × Cursor) :=
  match cur.rest with
  | '!' :: s => do
    let rest ← afterTag? inFlow cur.handles s
    if props.tagged then none else some ({ props with tagged := true }, cur.skipTo rest)
  | '&' :: s => do
    let (name, rest) ← name? inFlow s
    if name.isEmpty || props.anchor.isSome then none
    else some ({ props with anchor := some (String.ofList name) }, cur.skipTo rest)
  | _ => none

/-- The value that an alias stands for. -/
def alias? (inFlow : Bool) (cur : Cursor) : Option (ConfigValue × Cursor) :=
  match cur.rest with
  | '*' :: s => do
    let (name, rest) ← name? inFlow s
    let value ← cur.anchors.lookup (String.ofList name)
    return (value, cur.skipTo rest)
  | _ => none

end AccountGrants.Yaml
