import AccountGrants.Yaml.Directive
import AccountGrants.Yaml.Node

/-!
A YAML text as a sequence of documents, with `---` before and `...` after a document where they are
needed to part it from its neighbours, and with directives in front.
-/

namespace AccountGrants.Yaml

/-- A text with every line ended by the same character. -/
def unifyLines : List Char → List Char
  | '\r' :: '\n' :: s => '\n' :: unifyLines s
  | c :: s => (if c = '\r' then '\n' else c) :: unifyLines s
  | [] => []

/-- The place behind the ends of documents. -/
def afterEnds : Nat → Cursor → Cursor
  | 0, cur => cur
  | budget + 1, cur =>
    let next := cur.gap.1
    if next.column = 0 && next.atWord "..." then afterEnds budget (next.skip 3) else cur

/-- The place in which the first node of a document begins. A document with directives has to be
opened by `---`. -/
def documentStart? (budget : Nat) (cur : Cursor) : Option Cursor := do
  let (directives, start) ← directives? budget cur
  let start := { start with anchors := [], handles := directives.filterMap Directive.handle? }
  let next := start.gap.1
  if !Directive.areCompatible directives then none
  else if next.column = 0 && next.atWord "---" then some (next.skip 3)
  else if directives.isEmpty then some start
  else none

/-- The documents from a place on. The budget serves for each node and for their number. -/
def documentsFrom? : Nat → Cursor → Option (List ConfigValue)
  | 0, _ => none
  | budget + 1, cur => do
    let start ← documentStart? budget cur
    let (value, after) ← blockNode? 0 0 false {} budget start
    let (next, fresh) := after.gap
    if next.rest.isEmpty then some [value]
    else if !fresh || !next.atMarker then none
    else
      let behind := afterEnds budget next
      if behind.gap.1.rest.isEmpty then some [value]
      else
        let values ← documentsFrom? budget behind
        some (value :: values)

/-- The documents of a text. A text without any content holds one, whose value is null. -/
def documents? (text : String) : Option (List ConfigValue) :=
  let s := unifyLines text.toList
  let budget := 4 * s.length + 4
  let start : Cursor := { column := 0, rest := s, anchors := [], handles := [] }
  documentsFrom? budget (afterEnds budget start)

end AccountGrants.Yaml
