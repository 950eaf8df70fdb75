import StrategyDesk.LogFilter
import StrategyDesk.Main
import StrategyDesk.Rehearsal.Acts
import StrategyDesk.Rehearsal.Trial
import StrategyDesk.Proofs.Polling.Loops
import StrategyDesk.Proofs.Polling.Pace
import StrategyDesk.Proofs.Runs
import StrategyDesk.Proofs.Polling.Clock
import StrategyDesk.Proofs.Backtest.Execution
import StrategyDesk.Proofs.Backtest.Job
import StrategyDesk.Proofs.Backtest.SlotAgreement
import StrategyDesk.Proofs.Backtest.StaleWrites
import StrategyDesk.Proofs.Backtest.Course
import StrategyDesk.Proofs.Backtest.Refinement
import StrategyDesk.Proofs.Backtest.Abandonment
import StrategyDesk.Proofs.Gateway.Execution
import StrategyDesk.Proofs.Gateway.Supersession
import StrategyDesk.Proofs.Gateway.TerminalStates
import StrategyDesk.Proofs.Gateway.Actions
import StrategyDesk.Proofs.Rehearsal.Requests
import StrategyDesk.Proofs.Gateway.Refreshes
import StrategyDesk.Proofs.Polling.Pacing
import StrategyDesk.Proofs.Gateway.Refinement
import StrategyDesk.Proofs.Monitor.Loops
import StrategyDesk.Proofs.Monitor.Requests
import StrategyDesk.Proofs.Monitor.Hands
import StrategyDesk.Proofs.Monitor.Readings
import StrategyDesk.Proofs.Monitor.Stops
import StrategyDesk.Proofs.Monitor.Displays
import StrategyDesk.Proofs.Strategy.Editing
import StrategyDesk.Proofs.Strategy.NodeIds
import StrategyDesk.Proofs.Number.Digits
import StrategyDesk.Proofs.Number.Rounding
import StrategyDesk.Proofs.Number.Shortest
import StrategyDesk.Proofs.Json.KeyMaps
import StrategyDesk.Proofs.Json.Values
import StrategyDesk.Proofs.Json.Quotes
import StrategyDesk.Proofs.Json.Numbers
import StrategyDesk.Proofs.Json.Rereading
import StrategyDesk.Proofs.Json.Floats
import StrategyDesk.Proofs.Json.RereadValues
import StrategyDesk.Proofs.Json.RoundTrips
import StrategyDesk.Proofs.Timestamps
import StrategyDesk.Proofs.Json.Readable
import StrategyDesk.Proofs.Json.LawfulWires
import StrategyDesk.Proofs.Exchange.Records
import StrategyDesk.Proofs.Exchange.Messages
import StrategyDesk.Proofs.Strategy.Documents
import StrategyDesk.Proofs.Strategy.RoundTrip
import StrategyDesk.Proofs.Strategy.WellFormed
import StrategyDesk.Proofs.Strategy.Normalization
import StrategyDesk.Proofs.Strategy.ActionSides
import StrategyDesk.Proofs.Strategy.Edits
import StrategyDesk.Proofs.Strategy.Numerals
import StrategyDesk.Proofs.Text.Blanks
import StrategyDesk.Proofs.Text.Pieces
import StrategyDesk.Proofs.Text.Uppercases
import StrategyDesk.Proofs.Client.Checks
import StrategyDesk.Proofs.Client.Operations
import StrategyDesk.Proofs.Session.Trials
import StrategyDesk.Proofs.Session.GraphEdits
import StrategyDesk.Proofs.Session.GraphFiles
import StrategyDesk.Proofs.Session.GraphTurns
import StrategyDesk.Proofs.Session.DanglingEdges
import StrategyDesk.Proofs.Session.Refusals
import StrategyDesk.Proofs.Session.WellFormedFiles
import StrategyDesk.Proofs.Session.Calls
import StrategyDesk.Proofs.Exchange.Requests
import StrategyDesk.Proofs.Session.RequestBodies
import StrategyDesk.Proofs.Settings.Files
import StrategyDesk.Proofs.Settings.UsableForms
import StrategyDesk.Proofs.Number.Ranges
import StrategyDesk.Proofs.Backtest.Reports
import StrategyDesk.Proofs.Session.Polls
import StrategyDesk.Proofs.Backtest.Failures
import StrategyDesk.Proofs.Backtest.Curves
import StrategyDesk.Proofs.Session.FollowedLogs
import StrategyDesk.Proofs.Backtest.EquityRanges
import StrategyDesk.Proofs.Backtest.Symbols
import StrategyDesk.Proofs.Compile.Comments
import StrategyDesk.Proofs.Backtest.Durations
import StrategyDesk.Proofs.Exchange.Addresses
import StrategyDesk.Proofs.Notices
