import AccountGrants.ConfigValue
import AccountGrants.Declaration

/-!
Declared grants as configuration values: a record of named fields or, in documents, a list of the
fields' values in their fixed order.
-/

namespace AccountGrants.Declaration

/-- The fields of a declared grant. -/
inductive Field where
  | user | host | role | database | table | privileges | roles | grantOption | tlsOption
deriving DecidableEq

/-- The fields in their order. -/
def Field.all : List Field :=
  [.user, .host, .role, .database, .table, .privileges, .roles, .grantOption, .tlsOption]

/-- The name of a field in a record. -/
def Field.name : Field → String
  | .user => "user"
  | .host => "host"
  | .role => "role"
  | .database => "database"
  | .table => "table"
  | .privileges => "privileges"
  | .roles => "roles"
  | .grantOption => "grant"
  | .tlsOption => "tls_option"

/-- The value of a field that is given, read by `read`, and else its default. -/
def fieldOr {α : Type} (default : α) (read : ConfigValue → Option α) :
    Option ConfigValue → Option α
  | none => some default
  | some value => read value

/-- Reads a value of which null says that there is none. -/
def optional? {α : Type} (read : ConfigValue → Option α) (value : ConfigValue) :
    Option (Option α) :=
  if value.isNull then some none else (read value).map some

/-- A declared grant from the values of its fields, with texts read by `text?`. The database has to
be given. -/
def ofFields? (text? : ConfigValue → Option String) (field : Field → Option ConfigValue) :
    Option Declaration := do
  let texts? := fun value : ConfigValue => value.items? >>= List.mapM text?
  let blank : Declaration := {}
  let user ← fieldOr blank.user (optional? text?) (field .user)
  let host ← fieldOr blank.host text? (field .host)
  let role ← fieldOr blank.role (optional? text?) (field .role)
  let database ← field .database >>= text?
  let table ← fieldOr blank.table text? (field .table)
  let privileges ← fieldOr blank.privileges texts? (field .privileges)
  let roles ← fieldOr blank.roles (optional? texts?) (field .roles)
  let grantOption ← fieldOr blank.grantOption ConfigValue.bool? (field .grantOption)
  let tlsOption ← fieldOr blank.tlsOption text? (field .tlsOption)
  return { user, host, role, database, table, privileges, roles, grantOption, tlsOption }

/-- The value that a record holds under a name; of several the last one counts. -/
def lookup (fields : List (ConfigValue × ConfigValue)) (name : String) : Option ConfigValue :=
  (fields.reverse.find? fun field => field.1.text? == some name).map (·.2)

/-- A declared grant from a record whose texts are texts and nothing else. -/
def ofRecord? : ConfigValue → Option Declaration
  | .record fields => ofFields? ConfigValue.text? fun field => lookup fields field.name
  | _ => none

/-- A declared grant from an item of a document, where every scalar can stand for a text as a value,
but only a text can name a field. -/
def ofItem? : ConfigValue → Option Declaration
  | .record fields =>
    if fields.all fun field => field.1.text?.isSome then
      ofFields? ConfigValue.scalarText? fun field => lookup fields field.name
    else none
  | .list items =>
    ofFields? ConfigValue.scalarText? fun field => items[Field.all.idxOf field]?
  | _ => none

end AccountGrants.Declaration
