import CodeIndex.Json.Reader
import CodeIndex.Json.Writer
import CodeIndex.LogFile
import CodeIndex.Proofs.Navigation.Duality
import CodeIndex.Proofs.Navigation.Following
import CodeIndex.Proofs.Navigation.Listing
import CodeIndex.Proofs.Navigation.Reporting
import CodeIndex.Proofs.Repository.Refinement
import CodeIndex.Proofs.Server.BrokenLoads
import CodeIndex.Proofs.Server.OpenBuffers
import CodeIndex.Proofs.Server.Publishing
import CodeIndex.Proofs.Server.Reindexing
import CodeIndex.Proofs.Server.Withdrawing
import CodeIndex.Proofs.Workspace.Cancellation
import CodeIndex.Proofs.Workspace.Closing
import CodeIndex.Proofs.Workspace.Interleaving
import CodeIndex.Proofs.Workspace.PositionLookup
import CodeIndex.Protocol.Decoding
import CodeIndex.Protocol.Encoding
import CodeIndex.Proofs.Server.TokenCaches
import CodeIndex.Proofs.Server.Isolation
import CodeIndex.Proofs.Uri.Canonical
import CodeIndex.Proofs.Server.Spelling
import CodeIndex.Proofs.Server.Progress
import CodeIndex.Proofs.Settings.Merging
import CodeIndex.Proofs.Server.Configuring
import CodeIndex.Proofs.Repository.Batches
import CodeIndex.Proofs.Symbol.Fields
import CodeIndex.Proofs.Symbol.Clashes
import CodeIndex.Proofs.Workspace.WholeTrees
import CodeIndex.Proofs.Workspace.Separation
import CodeIndex.Proofs.Workspace.Integrity
import CodeIndex.Proofs.Workspace.Renaming
import CodeIndex.Proofs.Workspace.Resynchronizing
import CodeIndex.Proofs.Workspace.Retaining
import CodeIndex.Proofs.Source.Offsets
import CodeIndex.Proofs.Source.Slices
import CodeIndex.Proofs.Tree.Outlines
import CodeIndex.Proofs.Workspace.Caching
import CodeIndex.Proofs.Diagnostics.Leaves
import CodeIndex.Proofs.Disk.Discovering
import CodeIndex.Proofs.Repository.Lines
import CodeIndex.Proofs.Tree.Agreement
import CodeIndex.Proofs.Tree.Traversal
import CodeIndex.Proofs.Workspace.Watching
