import ElementSearch.CommandLine.Commands
import ElementSearch.Files.Directory
import ElementSearch.History.Operation
import ElementSearch.Main
import ElementSearch.Proofs.CommandLine.Reading
import ElementSearch.Json.Quoted
import ElementSearch.Proofs.Tree.Forest
import ElementSearch.Proofs.Search.Outermost
import ElementSearch.Proofs.Search.Walk
import ElementSearch.Proofs.Search.Coverage
import ElementSearch.Proofs.Arena.Records
import ElementSearch.Proofs.Arena.Growth
import ElementSearch.Proofs.Arena.Refiling
import ElementSearch.Proofs.Arena.Additions
import ElementSearch.Proofs.Snapshot.Building
import ElementSearch.Proofs.History.Reachable
import ElementSearch.Proofs.Arena.Links
import ElementSearch.Proofs.Text.LetterCase
import ElementSearch.Proofs.Arena.Filing
import ElementSearch.Proofs.Arena.Lookup
import ElementSearch.Proofs.Arena.Exactness
import ElementSearch.Proofs.Arena.Preorder
import ElementSearch.Proofs.Arena.PlainHost
import ElementSearch.Proofs.Tree.Relink
import ElementSearch.Proofs.Arena.Cycles
import ElementSearch.Proofs.Arena.Extension
import ElementSearch.Proofs.Snapshot.Layout
import ElementSearch.Proofs.Tree.Frames
import ElementSearch.Proofs.Arena.Hanging
import ElementSearch.Proofs.Snapshot.Depth
import ElementSearch.Proofs.RuleSet.Validity
import ElementSearch.Proofs.RuleSet.Accepted
import ElementSearch.Proofs.RuleSet.Run
import ElementSearch.Proofs.Arena.Tidiness
import ElementSearch.Proofs.Arena.Consistency
import ElementSearch.Proofs.Search.Layers
import ElementSearch.Proofs.Search.Confinement
import ElementSearch.Proofs.Search.Rearrangement
import ElementSearch.Proofs.Search.Reduction
import ElementSearch.Proofs.Arena.Searches
import ElementSearch.Proofs.Arena.FrameLinks
import ElementSearch.Proofs.Snapshot.FrameLinks
import ElementSearch.Proofs.History.Failures
import ElementSearch.Proofs.History.Attachments
import ElementSearch.Proofs.Search.Narrowing
import ElementSearch.Proofs.Arena.Narrowing
import ElementSearch.Proofs.Rule.RoundTrip
import ElementSearch.Proofs.Rule.Grammar
import ElementSearch.Proofs.Arena.Walks
import ElementSearch.Proofs.Snapshot.Loaded
import ElementSearch.Proofs.Snapshot.Outcome
import ElementSearch.Proofs.Snapshot.ReadBack
import ElementSearch.Proofs.Tree.SharedLinks
import ElementSearch.Proofs.Search.Likeness
import ElementSearch.Proofs.Search.Agreement
import ElementSearch.Proofs.Arena.Folding
import ElementSearch.Proofs.Arena.FoldedSearch
import ElementSearch.Proofs.Snapshot.Folding
import ElementSearch.Proofs.History.Respelling
import ElementSearch.Proofs.Arena.Sparing
import ElementSearch.Proofs.Arena.Spared
import ElementSearch.Proofs.Snapshot.Isolation
import ElementSearch.Proofs.Arena.LoneLookups
import ElementSearch.Proofs.Snapshot.BaseUrls
import ElementSearch.Proofs.Tree.Subtrees
import ElementSearch.Proofs.Tree.FrameLevels
import ElementSearch.Proofs.Arena.FrameDiscovery
import ElementSearch.Proofs.Arena.HiddenRegions
import ElementSearch.Proofs.Search.Ordering
import ElementSearch.Proofs.Arena.ResultOrder
import ElementSearch.Proofs.Url.Rooted
import ElementSearch.Proofs.Arena.SourcePaths
import ElementSearch.Proofs.Tree.ElementChains
import ElementSearch.Proofs.Search.Scopes
import ElementSearch.Proofs.Text.Occurrences
import ElementSearch.Proofs.Arena.MissingSources
import ElementSearch.Proofs.Url.PathEnds
import ElementSearch.Proofs.Url.Containment
import ElementSearch.Proofs.Arena.Widening
import ElementSearch.Proofs.Arena.Navigation
import ElementSearch.Proofs.Text.Lengths
import ElementSearch.Proofs.Search.Measures
import ElementSearch.Proofs.Snapshot.Routes
