import AccountGrants.Declaration.Fields
import AccountGrants.Yaml.Document

/-!
Declared grants in YAML documents and files.
-/

namespace AccountGrants

/-- Why a configuration cannot be had. -/
inductive ConfigError where
  | unreadable
  | malformed
deriving DecidableEq

/-- The reason in words. -/
def ConfigError.message : ConfigError → String
  | .unreadable => "Reading file"
  | .malformed => "Deserializing grant config"

namespace Declaration

/-- The declared grants of one document, which is a list of them. -/
def ofDocument? (document : ConfigValue) : Option (List Declaration) :=
  document.items? >>= List.mapM ofItem?

/-- The declared grants of a text. All its documents have to be lists of declared grants; only the
first one counts. -/
def ofYaml (text : String) : Except ConfigError (List Declaration) :=
  match Yaml.documents? text >>= List.mapM ofDocument? with
  | some (declarations :: _) => .ok declarations
  | some [] => .ok []
  | none => .error .malformed

/-- The declared grants of a file, whose bytes are there if the file is. -/
def ofFile (bytes : Option ByteArray) : Except ConfigError (List Declaration) :=
  match bytes >>= String.fromUTF8? with
  | some text => ofYaml text
  | none => .error .unreadable

end Declaration

end AccountGrants
