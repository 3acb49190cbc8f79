import RegionBuild.Compiler.Recorder
import RegionBuild.Main
import RegionBuild.Proofs.Region.Concatenation
import RegionBuild.Proofs.Region.Erasure
import RegionBuild.Proofs.Region.Shortcut
import RegionBuild.Proofs.Region.WellFormed
import RegionBuild.Proofs.Session.Incremental
import RegionBuild.Settings.Selection
import RegionBuild.Proofs.Cache.History
import RegionBuild.Proofs.FileStore.Standing
import RegionBuild.Proofs.FileStore.Writing
import RegionBuild.Proofs.Session.Rebuild
import RegionBuild.Proofs.Region.LineEndings
import RegionBuild.Proofs.Session.SourceMap
import RegionBuild.Proofs.Session.Gathering
import RegionBuild.Proofs.Region.Symmetry
import RegionBuild.Proofs.Region.Prefixes
import RegionBuild.Proofs.Text.Lines
import RegionBuild.Proofs.Diagnostic.RoundTrip
import RegionBuild.Proofs.Path.Absolute
import RegionBuild.Proofs.Tool.Agreement
import RegionBuild.Proofs.Region.Modes
import RegionBuild.Proofs.Region.Operands
import RegionBuild.Proofs.Region.Comments
import RegionBuild.Proofs.Text.LineRemoval
import RegionBuild.Proofs.Session.Failure
import RegionBuild.Proofs.Session.Pending
import RegionBuild.Proofs.Json.Numbers
import RegionBuild.Proofs.Json.Strings
import RegionBuild.Proofs.Json.Members
import RegionBuild.Proofs.Json.RoundTrip
import RegionBuild.Proofs.Json.Readable
import RegionBuild.Proofs.Path.Components
import RegionBuild.Proofs.Path.Relative
import RegionBuild.Proofs.SourceMap.Embedding
import RegionBuild.Proofs.SourceMap.Rebasing
import RegionBuild.Proofs.Architecture
import RegionBuild.Proofs.Diagnostic.Joining
import RegionBuild.Proofs.Path.Nesting
import RegionBuild.Proofs.Session.Confinement
import RegionBuild.Proofs.Region.Invariant
import RegionBuild.Proofs.Region.Machine
