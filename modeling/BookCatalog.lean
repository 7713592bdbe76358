import BookCatalog.Library.Workspace
import BookCatalog.Main
import BookCatalog.Proofs.Archive.Reading
import BookCatalog.Proofs.Listing.Lines
import BookCatalog.Proofs.Listing.Written
import BookCatalog.Proofs.Query.Expression
import BookCatalog.Proofs.Query.Remainder
import BookCatalog.Proofs.Search.Bound
import BookCatalog.Proofs.Search.Escaping
import BookCatalog.Proofs.Search.Given
import BookCatalog.Proofs.Search.Idle
import BookCatalog.Proofs.Search.Rendering
import BookCatalog.Proofs.Session.Alike
import BookCatalog.Proofs.Session.Commuting
import BookCatalog.Proofs.Session.Containing
import BookCatalog.Proofs.Session.Dates
import BookCatalog.Proofs.Session.Narrowing
import BookCatalog.Proofs.Session.OwnText
import BookCatalog.Proofs.Session.Rebuild
import BookCatalog.Proofs.Session.Skipping
import BookCatalog.Proofs.Workspace.Accepting
import BookCatalog.Proofs.Workspace.Freshness
import BookCatalog.Proofs.Workspace.Listings
import BookCatalog.Proofs.Workspace.Settings
