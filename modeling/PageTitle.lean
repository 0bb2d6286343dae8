import PageTitle.Main
import PageTitle.Session.Termination
import PageTitle.Proofs.Text.Trim
import PageTitle.Proofs.Format.Tracking
import PageTitle.Proofs.Format.Replacement
import PageTitle.Proofs.Update.Suffix
import PageTitle.Proofs.Update.Shape
import PageTitle.Proofs.Session.Calls
import PageTitle.Proofs.Session.Round
import PageTitle.Proofs.Session.LastWrite
import PageTitle.Proofs.Session.Lockstep
import PageTitle.Proofs.Session.Shown
import PageTitle.Proofs.Session.Suffix
import PageTitle.Proofs.Session.Failures
import PageTitle.Proofs.Session.Duplicates
import PageTitle.Proofs.Session.Renders
import PageTitle.Proofs.FileTree.Writable
import PageTitle.Proofs.FileTree.Kept
import PageTitle.Proofs.Store.FileText
import PageTitle.Proofs.Store.Register
import PageTitle.Proofs.Store.Transaction
import PageTitle.Proofs.Service.Transport
import PageTitle.Proofs.Watch.Prepend
import PageTitle.Proofs.Watch.Render
import PageTitle.Proofs.Command.Serve
import PageTitle.Proofs.Observer.History
import PageTitle.Proofs.Format.Normal
import PageTitle.Proofs.Command.Saved
import PageTitle.Proofs.Domain.Ascii
import PageTitle.Proofs.Url.Rendered
import PageTitle.Proofs.Text.Canonical
import PageTitle.Proofs.Options.Filter
