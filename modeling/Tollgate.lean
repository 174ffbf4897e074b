import Tollgate.Calendar.ZoneText
import Tollgate.Gate.Operation
import Tollgate.Policy.Configuration
import Tollgate.Worker.Bench
import Tollgate.Proofs.Admission
import Tollgate.Proofs.Calendar.Day
import Tollgate.Proofs.Catalog.Alias
import Tollgate.Proofs.Catalog.Effect
import Tollgate.Proofs.Catalog.History
import Tollgate.Proofs.Catalog.Hub
import Tollgate.Proofs.Catalog.ModelSet
import Tollgate.Proofs.Catalog.Provision
import Tollgate.Proofs.Catalog.Readers
import Tollgate.Proofs.Catalog.Replacement
import Tollgate.Proofs.Catalog.Seeding
import Tollgate.Proofs.Catalog.View
import Tollgate.Proofs.Credential
import Tollgate.Proofs.Credential.Priority
import Tollgate.Proofs.Credential.Scheme
import Tollgate.Proofs.Descriptor
import Tollgate.Proofs.EnvFile
import Tollgate.Proofs.Funding.Amount
import Tollgate.Proofs.Funding.Bills
import Tollgate.Proofs.Funding.Entitlement
import Tollgate.Proofs.Funding.Growth
import Tollgate.Proofs.Funding.Inquiry
import Tollgate.Proofs.Funding.Today
import Tollgate.Proofs.Gate.Background
import Tollgate.Proofs.Gate.Handling
import Tollgate.Proofs.Gate.Isolation
import Tollgate.Proofs.Gate.LastUse
import Tollgate.Proofs.Gate.Management
import Tollgate.Proofs.Gate.Outage
import Tollgate.Proofs.Gate.Provision
import Tollgate.Proofs.Gate.Publication
import Tollgate.Proofs.Gate.Registration
import Tollgate.Proofs.Gate.Rejection
import Tollgate.Proofs.Gate.Run
import Tollgate.Proofs.Gate.Serve
import Tollgate.Proofs.Gate.Withdrawal
import Tollgate.Proofs.Policy.Reload
import Tollgate.Proofs.Policy.Writing
import Tollgate.Proofs.Text.Blank
import Tollgate.Proofs.Text.Slice
import Tollgate.Proofs.Text.Utf8
import Tollgate.Proofs.Vault.Ground
import Tollgate.Proofs.Vault.Identity
import Tollgate.Proofs.Vault.Reading
import Tollgate.Proofs.Vault.Switch
import Tollgate.Proofs.Vault.Use
import Tollgate.Proofs.Vault.Writing
import Tollgate.Proofs.Web.Form
import Tollgate.Proofs.Web.Headers
import Tollgate.Proofs.Web.Opening
import Tollgate.Proofs.Web.Path
import Tollgate.Proofs.Worker.Settle
import Tollgate.Proofs.Worker.Shutdown
