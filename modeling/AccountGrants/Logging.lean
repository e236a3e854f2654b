/-!
Which events are logged, and the one-time installation of the log.
-/

namespace AccountGrants.Logging

/-- The filter in force unless the user gives another. -/
def defaultFilter : String := "grantsync_core=debug,grantsync_mysql=debug"

/-- Installs the log. This succeeds only where none is installed, and there is one afterwards. -/
def install (installed : Bool) : Bool × Bool :=
  (!installed, true)

end AccountGrants.Logging
