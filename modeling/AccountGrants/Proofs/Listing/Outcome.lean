import AccountGrants.Proofs.Reconcile

/-!
What the listing of an identity comes to. `Reconcile.IsListing` says it for each answer to the
query: an error that means there are no grants, any other error, rows that can all be read, and rows
of which some cannot. `Reconcile.list_exact` says that a listing does nothing else.
-/

namespace AccountGrants

namespace Reconcile

end Reconcile

end AccountGrants
