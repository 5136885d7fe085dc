import BasicBench.Main
import BasicBench.Editor.Help
import BasicBench.Files.Disk
import BasicBench.Json.Unordered
import BasicBench.Check.Request
import BasicBench.Proofs.Actions
import BasicBench.Proofs.Insertions
import BasicBench.Proofs.Wrapping
import BasicBench.Proofs.Idempotence
import BasicBench.Proofs.Places
import BasicBench.Proofs.Validity
import BasicBench.Proofs.Delays
import BasicBench.Proofs.Enhancements
import BasicBench.Proofs.OutputValidity
import BasicBench.Proofs.SessionRuns
import BasicBench.Proofs.Rounds
import BasicBench.Proofs.FaultsKept
import BasicBench.Proofs.WaitRemedies
import BasicBench.Proofs.Levels
import BasicBench.Proofs.Ranking
import BasicBench.Proofs.ProcedureParts
import BasicBench.Proofs.Settling
import BasicBench.Proofs.DrawnLines
import BasicBench.Proofs.Rearrangement
import BasicBench.Proofs.Frames
import BasicBench.Proofs.EditDistance
import BasicBench.Proofs.AliasAnswers
import BasicBench.Proofs.SearchTiers
import BasicBench.Proofs.BlockPartners
import BasicBench.Proofs.OpenStrings
import BasicBench.Proofs.HiddenText
import BasicBench.Proofs.Undeclared
import BasicBench.Proofs.IssueLines
import BasicBench.Proofs.AssignedPlaces
import BasicBench.Proofs.DimReports
import BasicBench.Proofs.TrailingNewline
import BasicBench.Proofs.DialectReports
import BasicBench.Proofs.KeywordReports
import BasicBench.Proofs.Completions
import BasicBench.Proofs.Bookkeeping
import BasicBench.Proofs.Scores
import BasicBench.Proofs.CursorWords
import BasicBench.Proofs.SharedCatalogs
import BasicBench.Proofs.FunctionDefinitions
import BasicBench.Proofs.BlockMasks
import BasicBench.Proofs.DeviceTraps
