import CSubset.File.Store
import CSubset.Limits.Generate
import CSubset.Main
import CSubset.Proofs.Arguments
import CSubset.Proofs.ByteOrder
import CSubset.Proofs.Clamp
import CSubset.Proofs.Excerpt
import CSubset.Proofs.Files
import CSubset.Proofs.Json
import CSubset.Proofs.LineCount
import CSubset.Proofs.Lines
import CSubset.Proofs.Merge
import CSubset.Proofs.Parse.Blocks
import CSubset.Proofs.Parse.Charges
import CSubset.Proofs.Parse.Consumption
import CSubset.Proofs.Parse.Criteria
import CSubset.Proofs.Parse.Declarations
import CSubset.Proofs.Parse.Isolation
import CSubset.Proofs.Parse.Later
import CSubset.Proofs.Parse.Lockstep
import CSubset.Proofs.Parse.PhysicalLines
import CSubset.Proofs.Parse.Places
import CSubset.Proofs.Parse.Stability
import CSubset.Proofs.Parse.Translation
import CSubset.Proofs.Parse.Values
import CSubset.Proofs.Reports
import CSubset.Proofs.Session
import CSubset.Proofs.Spans
import CSubset.Proofs.Survival
import CSubset.Proofs.Symbol.Json
import CSubset.Proofs.Token.Composition
import CSubset.Proofs.Token.Joining
import CSubset.Proofs.Token.Lexical
import CSubset.Proofs.Token.Metrics
import CSubset.Proofs.Token.Tiling
import CSubset.Proofs.Underline
import CSubset.Symbol.Json
import CSubset.Token.Cursor
import CSubset.Token.Metrics
