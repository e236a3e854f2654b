import AccountGrants.Declaration.Document
import AccountGrants.Logging
import AccountGrants.Proofs.Create
import AccountGrants.Proofs.Declaration.Applied
import AccountGrants.Proofs.Declaration.Meaning
import AccountGrants.Proofs.Grant.QuotedNames
import AccountGrants.Proofs.Grant.Routine
import AccountGrants.Proofs.Grant.TableName
import AccountGrants.Proofs.Import.Lookup
import AccountGrants.Proofs.ImportedDeclaration
import AccountGrants.Proofs.Listing.Outcome
import AccountGrants.Proofs.Privilege.Distinct
import AccountGrants.Proofs.Server.Version
import AccountGrants.Proofs.Session.Isolation
import AccountGrants.Proofs.Session.Recovery
import AccountGrants.Proofs.Session.Report
import AccountGrants.Proofs.Session.Retry
import AccountGrants.Proofs.Spelling.Row
import AccountGrants.Proofs.Update
import AccountGrants.Proofs.Update.Rights
import AccountGrants.Session
