import AccountGrants.Yaml.Cursor

/-!
Block scalars, which are always texts: literal ones keep their line ends, folded ones do not.
-/

namespace AccountGrants.Yaml

/-- How the line ends after a block scalar are treated. -/
inductive Chomping where
  | strip
  | clip
  | keep

/-- The header of a block scalar: how it is chomped and how far it is indented beyond its parent,
in either order. -/
def blockHeader? : List Char → Option (Chomping × Option Nat)
  | [] => some (.clip, none)
  | [c] =>
    if c = '-' then some (.strip, none)
    else if c = '+' then some (.keep, none)
    else if '1' ≤ c ∧ c ≤ '9' then some (.clip, some (c.toNat - '0'.toNat))
    else none
  | [c, d] =>
    match blockHeader? [c], blockHeader? [d] with
    | some (.clip, some n), some (chomping, none) => some (chomping, some n)
    | some (chomping, none), some (.clip, some n) => some (chomping, some n)
    | _, _ => none
  | _ => none

/-- The lines of a folded scalar as one text. A line end next to a line that begins with a blank is
kept; `indented` tells whether the line before, if there is one, was such a line, and `blank` counts
the empty lines since. -/
def foldBlock (indented : Option Bool) (blank : Nat) : List (List Char) → List Char
  | [] => []
  | [] :: lines => foldBlock indented (blank + 1) lines
  | line :: lines =>
    let starts := line.head?.any isSpace
    let breaks := match indented with
      | none => List.replicate blank '\n'
      | some before =>
        if before || starts then List.replicate (blank + 1) '\n' else foldedBreak blank
    breaks ++ line ++ foldBlock (some starts) 0 lines

/-- The number of spaces a line begins with. -/
def indentation (line : List Char) : Nat :=
  (line.takeWhile (· == ' ')).length

/-- Whether a line has nothing but spaces. -/
def isBlankLine (line : List Char) : Bool :=
  line.all (· == ' ')

/-- The lines that belong to a block scalar indented by `indent`. -/
def blockLines (indent : Nat) (lines : List (List Char)) : List (List Char) :=
  lines.takeWhile fun line => isBlankLine line || (indent ≤ indentation line && !isMarker line)

/-- The indentation of a block scalar whose header does not tell it: that of its first line with
any content, and never less than `least`. -/
def blockIndent (least : Nat) (lines : List (List Char)) : Nat :=
  match lines.find? fun line => !isBlankLine line with
  | some line => max least (indentation line)
  | none => least

/-- The text of a block scalar from its lines. -/
def blockText (folded : Bool) (chomping : Chomping) (lines : List (List Char)) : List Char :=
  let blank := (lines.reverse.takeWhile List.isEmpty).length
  let lines := lines.take (lines.length - blank)
  let body := if folded then foldBlock none 0 lines else ['\n'].intercalate lines
  let last := if lines.isEmpty then 0 else 1
  body ++ match chomping with
    | .strip => []
    | .clip => List.replicate last '\n'
    | .keep => List.replicate (last + blank) '\n'

/-- A block scalar, whose lines begin at column `least` or later. -/
def blockScalar? (least : Nat) (cur : Cursor) : Option (ConfigValue × Cursor) :=
  match cur.rest.takeWhile fun c => !isSeparator c with
  | [] => none
  | c :: header =>
    if c = '|' || c = '>' then do
      let (chomping, further) ← blockHeader? header
      let (_, onNextLine) := (cur.skip (header.length + 1)).gap
      let firstLine := cur.rest.takeWhile (· != '\n')
      if !onNextLine && firstLine.length < cur.rest.length then none
      let start := cur.skip (firstLine.length + 1)
      let lines := start.rest.splitOn '\n'
      let indent := match further with
        | some n => least - 1 + n
        | none => blockIndent least lines
      let lines := blockLines indent lines
      let behind := start.skip (lines.flatten.length + lines.length)
      let ended := behind.rest.isEmpty && lines.getLast? = some []
      let lines := (if ended then lines.dropLast else lines).map (·.drop indent)
      return (.text (String.ofList (blockText (c == '>') chomping lines)), behind)
    else none

end AccountGrants.Yaml
