/-!
Values of configuration documents, whatever notation they are written in.
-/

namespace AccountGrants

/-- A value of a configuration. A number keeps the digits it was written with. -/
inductive ConfigValue where
  | null
  | bool (value : Bool)
  | number (digits : String)
  | text (value : String)
  | list (items : List ConfigValue)
  | record (fields : List (ConfigValue × ConfigValue))
deriving Inhabited

namespace ConfigValue

/-- The text of a text. -/
def text? : ConfigValue → Option String
  | .text value => some value
  | _ => none

/-- The text of any value that is neither a list nor a record. -/
def scalarText? : ConfigValue → Option String
  | .null => some "null"
  | .bool value => some (if value then "true" else "false")
  | .number digits => some digits
  | .text value => some value
  | .list _ => none
  | .record _ => none

/-- The truth value of a truth value. -/
def bool? : ConfigValue → Option Bool
  | .bool value => some value
  | _ => none

/-- The items of a list. -/
def items? : ConfigValue → Option (List ConfigValue)
  | .list items => some items
  | _ => none

/-- Whether the value is null. -/
def isNull : ConfigValue → Bool
  | .null => true
  | _ => false

end ConfigValue

end AccountGrants
