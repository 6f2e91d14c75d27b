import AssetRegistry.Main
import AssetRegistry.Proofs.Acceptance
import AssetRegistry.Proofs.Amendments
import AssetRegistry.Proofs.Bearers
import AssetRegistry.Proofs.Cataloguing
import AssetRegistry.Proofs.Clauses
import AssetRegistry.Proofs.Discretion
import AssetRegistry.Proofs.DisplayNames
import AssetRegistry.Proofs.Exclusive
import AssetRegistry.Proofs.Facets
import AssetRegistry.Proofs.FirstLogins
import AssetRegistry.Proofs.FormTexts
import AssetRegistry.Proofs.Lifecycle
import AssetRegistry.Proofs.Lifetimes
import AssetRegistry.Proofs.Listings
import AssetRegistry.Proofs.Numbering
import AssetRegistry.Proofs.Overrides
import AssetRegistry.Proofs.PageSizes
import AssetRegistry.Proofs.Paging
import AssetRegistry.Proofs.Parameters
import AssetRegistry.Proofs.Patterns
import AssetRegistry.Proofs.Privilege
import AssetRegistry.Proofs.Readings
import AssetRegistry.Proofs.Registrations
import AssetRegistry.Proofs.RoundTrips
import AssetRegistry.Proofs.StaffAddresses
import AssetRegistry.Proofs.TokenKinds
import AssetRegistry.Proofs.Warranty
import AssetRegistry.Proofs.Windows
import AssetRegistry.Store.Script
import AssetRegistry.Web.App
import AssetRegistry.Proofs.Spellings
import AssetRegistry.Proofs.Redaction
