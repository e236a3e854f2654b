import AccountGrants.Privilege

/-!
The difference of two lists of privileges.
-/

namespace AccountGrants

/-- What to grant and what to revoke to come from one list of privileges to another. -/
structure PrivilegeChange where
  added : List String
  removed : List String
deriving DecidableEq

namespace PrivilegeChange

/-- The tokens of `xs` that `ys` lacks, each once, in the order in which `xs` first has them. -/
def missing (xs ys : List String) : List String :=
  xs.eraseDups.filter (!ys.contains ·)

/-- The change from `old` to `new`. Privileges count as equal when their canonical forms are. -/
def between (old new : List String) : PrivilegeChange :=
  let old := Privilege.canonicalize old
  let new := Privilege.canonicalize new
  { added := missing new old, removed := missing old new }

/-- Nothing to grant and nothing to revoke. -/
def isEmpty (c : PrivilegeChange) : Bool :=
  c.added.isEmpty && c.removed.isEmpty

end PrivilegeChange

end AccountGrants
