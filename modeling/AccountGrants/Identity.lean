import AccountGrants.Text.Quote

/-!
Who a grant is held by.
-/

namespace AccountGrants

open Text

/-- A login, which is a user name at a host, or a role. -/
inductive Identity where
  | user (name host : String)
  | role (name : String)
deriving DecidableEq

/-- The quoted form that statements use. The host is always written, also the wildcard. -/
def Identity.sql : Identity → String
  | .user name host => singleQuoted name ++ "@" ++ singleQuoted host
  | .role name => singleQuoted name

/-- The bare form that grant identifiers begin with. -/
def Identity.label : Identity → String
  | .user name host => name ++ "@" ++ host
  | .role name => name

end AccountGrants
