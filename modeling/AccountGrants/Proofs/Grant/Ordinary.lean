import AccountGrants.Row
import AccountGrants.Proofs.Privilege.Split

/-!
Grants made of ordinary names, and what they are listed as once their statement has been applied.
Names may hold blanks, dots and the words ON and TO. What they may not hold are the marks around
names, line breaks and the words that a row is searched for.
-/

namespace AccountGrants

open Text

/-- The words that a row is searched for as a whole. -/
def searchedWords : List String :=
  ["REQUIRE", "OPTION", "FUNCTION", "PROCEDURE"]

/-- A name of a database, a table, a routine, a user, a host or a role. -/
structure IsName (name : List Char) : Prop where
  line : '\n' ∉ name
  unmarked : ∀ c ∈ name, isNameMark c = false
  noWord : ∀ word ∈ searchedWords, ¬word.toList <:+: name

/-- An object with ordinary names. The name of a routine has no blank, as no marks are written around
it. -/
def Object.IsOrdinary : Object → Prop
  | .table database name => IsName database.toList ∧ IsName name.toList
  | .routine _ database name =>
    IsName database.toList ∧ IsName name.toList ∧ ∀ c ∈ name.toList, isBlank c = false

/-- An identity with ordinary names. That of a role is not empty. -/
def Identity.IsOrdinary : Identity → Prop
  | .user name host => IsName name.toList ∧ IsName host.toList
  | .role name => IsName name.toList ∧ name ≠ ""

/-- An item of a list, and no part of a clause whatever stands around the list. -/
structure IsItem (item : List Char) : Prop where
  ne_nil : item ≠ []
  notRequire : ¬"REQUIRE".toList <:+ item
  notOption : ¬"OPTION".toList <+: item

/-- A privilege in a statement: all of them, one by its name, or one on some columns. The names of
privileges and columns have no blank, comma or parenthesis, as those of roles have none. -/
inductive IsToken : List Char → Prop
  | all : IsToken Privilege.allPrivileges.toList
  | name {name : List Char} (hitem : IsItem name) (hchar : ∀ c ∈ name, Row.isRoleChar c = true) :
      IsToken name
  | columns {name : List Char} {columns : List (List Char)} (hitem : IsItem name)
      (hchar : ∀ c ∈ name, Row.isRoleChar c = true)
      (hcolumns : ∀ column ∈ columns, ∀ c ∈ column, Row.isRoleChar c = true) :
      IsToken (name ++ '(' :: (commaList columns ++ [')']))

/-- A role in a statement. The marks that rows may have around roles are not at its ends. -/
structure IsRole (role : List Char) : Prop where
  item : IsItem role
  char : ∀ c ∈ role, Row.isRoleChar c = true
  head : ∀ c ∈ role.head?, Row.isRoleMark c = false
  last : ∀ c ∈ role.getLast?, Row.isRoleMark c = false

/-- At least one privilege in canonical form, on an ordinary object, or at least one role. -/
def Entitlement.IsOrdinary : Entitlement → Prop
  | .privileges tokens object =>
    tokens ≠ [] ∧ Privilege.canonicalize tokens = tokens ∧
      (∀ token ∈ tokens, IsToken token.toList) ∧ object.IsOrdinary
  | .membership roles => roles ≠ [] ∧ ∀ role ∈ roles, IsRole role.toList

/-- What connections must use, so that a row that states it states nothing else with it. -/
structure IsRequirement (tls : List Char) : Prop where
  line : '\n' ∉ tls
  startsInk : StartsInk tls
  endsInk : EndsInk tls
  noRequire : ¬"REQUIRE".toList <:+: tls
  noOption : ∀ phrase ∈ Row.optionPhrases, ¬phrase.toList <:+: tls
  noRoutine : ∀ (gap : List Char) (kind : RoutineKind), IsGap gap →
    ¬"ON".toList ++ (gap ++ kind.sql.toList) <:+: tls

namespace Grant

/-- A grant of ordinary names, whose requirement is stated alone. -/
structure IsOrdinary (g : Grant) : Prop where
  entitlement : g.entitlement.IsOrdinary
  identity : g.identity.IsOrdinary
  requirement : requireClause g.tlsOption ≠ "" → IsRequirement g.tlsOption.toList

end Grant

/-- An entitlement as it is listed: the tables of a database are an asterisk. -/
def Entitlement.listed : Entitlement → Entitlement
  | .privileges tokens (.table database name) =>
    .privileges tokens (.table database (if name = "" then "*" else name))
  | .privileges tokens (.routine kind database name) =>
    .privileges tokens (.routine kind database name)
  | .membership roles => .membership roles

namespace Grant

/-- A requirement as it is listed. It runs to the end of the row, with the option behind it. -/
def listedRequirement (g : Grant) : String :=
  if requireClause g.tlsOption = "" then "" else g.tlsOption ++ g.optionClause

/-- A grant as the row that its statement leaves is read. -/
def listed (g : Grant) : Grant :=
  { g with entitlement := g.entitlement.listed, tlsOption := g.listedRequirement }

end Grant

end AccountGrants
