import AccountGrants.Yaml.Property
import AccountGrants.Yaml.Scalar.Block
import AccountGrants.Yaml.Scalar.Plain
import AccountGrants.Yaml.Scalar.Quoted

/-!
Nodes of a YAML document: scalars, lists and records, written in brackets or by indentation. Each
reader starts at a place in the text and yields a value and the place behind it. Readers of nodes
have a budget, which every step into or along a collection lowers by one; a collection has fewer
parts than characters.
-/

namespace AccountGrants.Yaml

/-- An alias or a scalar other than a block scalar. An alias has no properties. -/
def flowScalar? (inFlow : Bool) (least : Nat) (props : Properties) (cur : Cursor) :
    Option (ConfigValue × Cursor) :=
  if cur.rest.head? = some '*' then if props.isEmpty then alias? inFlow cur else none
  else (quoted? cur).or (plain? inFlow least cur)

mutual

/-- A node between brackets, some of whose properties may have been read. The lines of a plain
scalar begin at column `least` or later. -/
def flowNode? (least : Nat) (props : Properties) : Nat → Cursor → Option (ConfigValue × Cursor)
  | 0, _ => none
  | budget + 1, cur =>
    let cur := cur.gap.1
    match property? true props cur with
    | some (props, after) => flowNode? least props budget after
    | none =>
      props.attach <$> match cur.rest with
      | '[' :: _ => do
        let (entries, cur) ← flowEntries? least ']' budget (cur.skip 1)
        let item := fun (entry : ConfigValue × Option ConfigValue) => match entry with
          | (key, some value) => .record [(key, value)]
          | (value, none) => value
        return (.list (entries.map item), cur)
      | '\x7b' :: _ => do
        let (entries, cur) ← flowEntries? least '\x7d' budget (cur.skip 1)
        return (.record (entries.map fun (key, value) => (key, value.getD .null)), cur)
      | c :: s =>
        if c = ',' || c = ']' || c = '\x7d' || (c = ':' && endsToken true s) then some (.null, cur)
        else flowScalar? true least props cur
      | [] => none

/-- The entries up to a closing bracket. An entry is a node, which a colon and a second node may
follow. -/
def flowEntries? (least : Nat) (closing : Char) :
    Nat → Cursor → Option (List (ConfigValue × Option ConfigValue) × Cursor)
  | 0, _ => none
  | budget + 1, cur =>
    let cur := cur.gap.1
    if cur.rest.head? = some closing then some ([], cur.skip 1)
    else if cur.rest.head? = some ',' then none
    else do
      let start := if cur.atWord "?" then cur.skip 1 else cur
      let (key, after) ← flowNode? least {} budget start
      let next := after.gap.1
      let (value, next) ← match next.rest with
        | ':' :: _ => do
          let (value, after) ← flowNode? least {} budget (next.skip 1)
          some (some value, after.gap.1)
        | _ => some (none, next)
      if next.rest.head? = some ',' then
        let (entries, last) ← flowEntries? least closing budget (next.skip 1)
        some ((key, value) :: entries, last)
      else if next.rest.head? = some closing then some ([(key, value)], next.skip 1)
      else none

end

/-- A node outside brackets that no indentation structures, behind its properties. -/
def inlineNode? (least : Nat) (props : Properties) (budget : Nat) (cur : Cursor) :
    Option (ConfigValue × Cursor) :=
  match cur.rest with
  | '[' :: _ | '\x7b' :: _ => flowNode? least props budget cur
  | _ => props.attach <$> flowScalar? false least props cur

/-- Whether a colon stands here that parts a key from its value. -/
def atColon (cur : Cursor) : Bool :=
  match cur.rest with
  | ':' :: s => endsToken false s
  | _ => false

/-- The key of a record's field, which stands on one line before a colon, and the place behind the
colon. `budget` bounds the number of tags and anchors before it. -/
def implicitKey? (props : Properties) : Nat → Cursor → Option (ConfigValue × Cursor)
  | 0, _ => none
  | budget + 1, cur =>
    match property? false props cur with
    | some (props, after) => implicitKey? props budget after.afterSpaces
    | none => do
      let line := { cur with rest := cur.rest.takeWhile (· != '\n') }
      let (key, after) ←
        if atColon line then some (props.attach (.null, line)) else inlineNode? 0 props budget line
      let next := { after with rest := after.rest ++ cur.rest.drop line.rest.length }.afterSpaces
      if atColon next then some (key, next.skip 1) else none

mutual

/-- The node behind an indicator, some of whose properties may have been read. Its lines begin at
column `least` or later, the dashes of a list at `leastDash` or later. A list or record by
indentation begins on a line of its own, or behind the indicator where `compact` holds. -/
def blockNode? (least leastDash : Nat) (compact : Bool) (props : Properties) :
    Nat → Cursor → Option (ConfigValue × Cursor)
  | 0, _ => none
  | budget + 1, cur =>
    let (next, fresh) := cur.gap
    let dash := next.atWord "-"
    if next.atEnd || (fresh && next.column < least && !(dash && leastDash ≤ next.column)) then
      some (props.attach (.null, cur))
    else if (fresh || compact) && dash then
      (blockList? next.column budget next).map fun (items, cur) => props.attach (.list items, cur)
    else if (fresh || compact) && (next.atWord "?" || (implicitKey? {} budget next).isSome) then
      (blockRecord? next.column budget next).map fun (fields, cur) =>
        props.attach (.record fields, cur)
    else match property? false props next with
      | some (props, after) => blockNode? least leastDash false props budget after
      | none =>
        match next.rest with
        | '|' :: _ | '>' :: _ => props.attach <$> blockScalar? least next
        | _ => inlineNode? least props budget next
termination_by structural budget => budget

/-- The items of a list whose dashes stand at `column`. -/
def blockList? (column : Nat) : Nat → Cursor → Option (List ConfigValue × Cursor)
  | 0, _ => none
  | budget + 1, cur => do
    let (item, after) ← blockNode? (column + 1) (column + 1) true {} budget (cur.skip 1)
    let (next, fresh) := after.gap
    if next.atEnd then some ([item], after)
    else if !fresh || column < next.column then none
    else if next.column = column && next.atWord "-" then
      let (items, last) ← blockList? column budget next
      some (item :: items, last)
    else some ([item], after)
termination_by structural budget => budget

/-- The fields of a record whose keys stand at `column`. -/
def blockRecord? (column : Nat) :
    Nat → Cursor → Option (List (ConfigValue × ConfigValue) × Cursor)
  | 0, _ => none
  | budget + 1, cur => do
    let (field, after) ←
      if cur.atWord "?" then do
        let (key, after) ← blockNode? (column + 1) (column + 1) true {} budget (cur.skip 1)
        let (next, fresh) := after.gap
        if fresh && next.column = column && atColon next then
          let (value, after) ← blockNode? (column + 1) (column + 1) true {} budget (next.skip 1)
          some ((key, value), after)
        else some ((key, .null), after)
      else do
        let (key, after) ← implicitKey? {} budget cur
        let (value, after) ← blockNode? (column + 1) column false {} budget after
        some ((key, value), after)
    let (next, fresh) := after.gap
    if next.atEnd then some ([field], after)
    else if !fresh || column < next.column then none
    else if next.column = column then
      let (fields, last) ← blockRecord? column budget next
      some (field :: fields, last)
    else some ([field], after)
termination_by structural budget => budget

end

end AccountGrants.Yaml
