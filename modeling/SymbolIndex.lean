-- SUMMARY: A structural index and search for C# source trees.
import SymbolIndex.Main
import SymbolIndex.Store.Memory
import SymbolIndex.Glob.Pattern
import SymbolIndex.Glob.Search
import SymbolIndex.Query.Display
import SymbolIndex.Query.Files
import SymbolIndex.Proofs.Document.Identity
import SymbolIndex.Proofs.Store.Contents
import SymbolIndex.Proofs.Watch.Pending
import SymbolIndex.Proofs.Ignore.Walking
import SymbolIndex.Proofs.Watch.Flushing
import SymbolIndex.Proofs.Watch.Run
import SymbolIndex.Proofs.Watch.Convergence
import SymbolIndex.Proofs.Watch.Order
import SymbolIndex.Proofs.Watch.VanishedDirectory
import SymbolIndex.Proofs.Ignore.Verdicts
import SymbolIndex.Proofs.Watch.Agreement
import SymbolIndex.Proofs.Watch.Removal
import SymbolIndex.Proofs.Store.Calls
import SymbolIndex.Proofs.Watch.Calls
import SymbolIndex.Proofs.Watch.Eligibility
import SymbolIndex.Proofs.Watch.Orphans
import SymbolIndex.Proofs.Watch.Coalescing
import SymbolIndex.Proofs.Symbols.DeclaredNames
import SymbolIndex.Proofs.Bulk.Contents
import SymbolIndex.Proofs.Watch.Debounce
import SymbolIndex.Proofs.Watch.LateRemoval
import SymbolIndex.Proofs.Symbols.Contributions
import SymbolIndex.Proofs.Syntax.Traversal
import SymbolIndex.Proofs.Query.Mentions
import SymbolIndex.Proofs.Query.Recorded
import SymbolIndex.Proofs.Query.Attributes
import SymbolIndex.Proofs.Query.Uses
import SymbolIndex.Proofs.Query.Literals
import SymbolIndex.Proofs.Text.Space
import SymbolIndex.Proofs.Text.Arguments
import SymbolIndex.Proofs.Text.Distinct
import SymbolIndex.Proofs.Query.TypeNames
import SymbolIndex.Proofs.Symbols.Locality
import SymbolIndex.Proofs.Symbols.Composition
import SymbolIndex.Proofs.Query.Declarations
import SymbolIndex.Proofs.Query.Restrictions
import SymbolIndex.Proofs.Text.Utf8
import SymbolIndex.Proofs.Text.Lines
import SymbolIndex.Proofs.Query.ShownLines
import SymbolIndex.Proofs.Json.Tokens
import SymbolIndex.Proofs.Json.RoundTrip
import SymbolIndex.Proofs.Search.Filters
import SymbolIndex.Proofs.Store.ImportBody
import SymbolIndex.Proofs.File.Resolution
import SymbolIndex.Proofs.Query.FromSearch
import SymbolIndex.Proofs.Query.LineOrder
import SymbolIndex.Proofs.Bulk.Batches
import SymbolIndex.Proofs.Query.BareNames
import SymbolIndex.Proofs.Watch.Reconciling
import SymbolIndex.Proofs.Store.Answers
import SymbolIndex.Proofs.Bulk.Failure
import SymbolIndex.Proofs.Bulk.Accounting
import SymbolIndex.Proofs.Watch.Accounting
import SymbolIndex.Proofs.Store.ImportReply
import SymbolIndex.Proofs.Watch.Starting
import SymbolIndex.Proofs.Document.RoundTrip
import SymbolIndex.Proofs.Query.Neighbours
import SymbolIndex.Proofs.Store.Protocol
import SymbolIndex.Proofs.Query.Expansion
import SymbolIndex.Proofs.Symbols.Normalized
import SymbolIndex.Proofs.Symbols.Visiting
import SymbolIndex.Proofs.Config.Overrides
