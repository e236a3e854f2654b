import AccountGrants.Grant
import AccountGrants.Text.Scan

/-!
The three shapes of a listed grant, tried in this order:

* `GRANT` roles `TO` identity,
* `GRANT` privileges `ON` kind routine `TO` identity,
* `GRANT` privileges `ON` table `TO` identity.

Each reader takes a trimmed row after the word GRANT and yields what is granted together with the
text that begins with the identity.
-/

namespace AccountGrants.Row

open Text

/-- Puts a character in front of the text that a reader has taken. -/
def grow (c : Char) : List Char × List Char → List Char × List Char
  | (taken, rest) => (c :: taken, rest)

/-- The text that begins with the identity: all that follows TO, on one line. -/
def recipient? (s : List Char) : Option (List Char) := do
  let s ← afterGap? s
  let s ← after? "TO" s
  let s ← afterGap? s
  if s.isEmpty || s.contains '\n' then none else some s

/-- The characters of a role, marks included. -/
def isRoleChar (c : Char) : Bool :=
  !isBlank c && c != ',' && c != '(' && c != ')'

/-- Where in a list of roles a text begins: where a role has to come, behind a character of a role,
or in a gap that a comma follows. -/
inductive RolePlace where
  | beforeRole | afterRole | beforeComma
deriving DecidableEq

/-- A list of roles with commas between them, and the rest. A gap behind a role belongs to the list
when a comma follows it. -/
def roleList? (place : RolePlace) : List Char → Option (List Char × List Char)
  | [] => if place = .afterRole then some ([], []) else none
  | c :: s =>
    if isRoleChar c && place ≠ .beforeComma then (roleList? .afterRole s).map (grow c)
    else if c = ',' && place ≠ .beforeRole then (roleList? .beforeRole s).map (grow c)
    else if isBlank c && place ≠ .afterRole then (roleList? place s).map (grow c)
    else if isBlank c && (s.dropWhile isBlank).head? = some ',' then
      (roleList? .beforeComma s).map (grow c)
    else if place = .afterRole then some ([], c :: s)
    else none

/-- What may stand around a role in a list. -/
def isRoleMark (c : Char) : Bool :=
  isNameMark c || c == '@' || c == '%' || c == ' '

/-- The roles of a list, without the marks around them. -/
def roles (list : List Char) : List String :=
  (list.splitOn ',').map fun role => String.ofList (strip isRoleMark role)

/-- Membership in roles. -/
def membership? (s : List Char) : Option (Entitlement × List Char) := do
  let s ← afterGap? s
  let (list, s) ← roleList? .beforeRole s
  let who ← recipient? s
  some (.membership (roles list), who)

/-- A reference to an object, and the rest: all up to the first blank outside back-ticks. -/
def reference? (quoted : Bool) : List Char → Option (List Char × List Char)
  | [] => if quoted then none else some ([], [])
  | c :: s =>
    if c = backTick then (reference? (!quoted) s).map (grow c)
    else if isBlank c && !quoted then some ([], c :: s)
    else (reference? quoted s).map (grow c)

/-- ON and a table, and the text that begins with the identity. Without a dot the reference is that
of a database. -/
def table? (s : List Char) : Option (Object × List Char) := do
  let s ← after? "ON" s
  let s ← afterGap? s
  let (reference, s) ← reference? false s
  let who ← recipient? s
  let (database, name) := splitReference reference
  some (.table database (name.getD ""), who)

/-- The keyword of a kind of routine. -/
def routineKind? (s : List Char) : Option (RoutineKind × List Char) :=
  ((after? "FUNCTION" s).map (.function, ·)).or ((after? "PROCEDURE" s).map (.procedure, ·))

/-- ON and a routine, and the text that begins with the identity. Without a dot the reference names
both the database and the routine. -/
def routine? (s : List Char) : Option (Object × List Char) := do
  let s ← after? "ON" s
  let s ← afterGap? s
  let (kind, s) ← routineKind? s
  let s ← afterGap? s
  let (reference, s) ← reference? false s
  let who ← recipient? s
  let (database, name) := splitReference reference
  some (.routine kind database (name.getD database), who)

/-- The shortest text on one line that does not end with a blank and after which a gap comes and
then `object` reads, with what it reads. -/
def privilegesBefore? {α : Type} (object : List Char → Option α) :
    List Char → Option (List Char × α)
  | [] => none
  | c :: s =>
    if c = '\n' then none
    else match (if isBlank c then none else (afterGap? s).bind object) with
      | some found => some ([c], found)
      | none => (privilegesBefore? object s).map fun (list, found) => (c :: list, found)

/-- A blank that stands for privileges where none are between GRANT and ON: the last one inside the
gap between them that does not end the line. -/
def blankPrivileges? (gap : List Char) : Option (List Char) :=
  ((gap.drop 1).dropLast.reverse.find? (· != '\n')).map ([·])

/-- Privileges on an object. -/
def privileges? (object : List Char → Option (Object × List Char)) (s : List Char) :
    Option (Entitlement × List Char) := do
  let after ← afterGap? s
  let blank := (object after).bind fun found =>
    (blankPrivileges? (s.takeWhile isBlank)).map (·, found)
  let (list, object, who) ← (privilegesBefore? object after).or blank
  some (.privileges (Privilege.canonicalize (Privilege.split (String.ofList list))) object, who)

/-- What a row grants. Membership comes first, because the shape of tables is the loosest. -/
def entitlement? (s : List Char) : Option (Entitlement × List Char) :=
  (membership? s).or ((privileges? routine? s).or (privileges? table? s))

/-- The marks around the names of an identity. -/
def isIdentityMark (c : Char) : Bool :=
  c == singleQuote || c == backTick

/-- A name between two marks, which need not be the same, and the rest. -/
def markedName? : List Char → Option (List Char × List Char)
  | [] => none
  | c :: s =>
    if isIdentityMark c then
      match s.dropWhile fun c => !isIdentityMark c with
      | [] => none
      | _ :: rest => some (s.takeWhile fun c => !isIdentityMark c, rest)
    else none

/-- The identity that a text begins with: a name and a host, or else the name of a role. -/
def identity? (s : List Char) : Option Identity := do
  let (name, rest) ← markedName? s
  match (after? "@" rest).bind markedName? with
  | some (host, _) => some (.user (String.ofList name) (String.ofList host))
  | none => if name.isEmpty then none else some (.role (String.ofList name))

end AccountGrants.Row
