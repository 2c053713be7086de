import BoardConsole.Config.Write
import BoardConsole.Main
import BoardConsole.Proofs.Console.Interval
import BoardConsole.Proofs.Console.SaveLoad
import BoardConsole.Proofs.Storage.History
import BoardConsole.Session
import BoardConsole.Proofs.Lines.Pieces
import BoardConsole.Proofs.Script.Literal
import BoardConsole.Proofs.Console.Depth
import BoardConsole.Proofs.Script.Nesting
import BoardConsole.Proofs.Console.Calling
import BoardConsole.Proofs.Output.Order
import BoardConsole.Proofs.Config.RoundTrip
import BoardConsole.Proofs.Storage.InPlace
import BoardConsole.Proofs.Time.Clock
import BoardConsole.Proofs.Storage.Removing
import BoardConsole.Proofs.Tasks.History
import BoardConsole.Proofs.Console.Deadline
import BoardConsole.Proofs.Console.Sequence
import BoardConsole.Proofs.Scheduler.Counters
import BoardConsole.Proofs.Scheduler.Interruptions
import BoardConsole.Proofs.Scheduler.Throttle
import BoardConsole.Proofs.Lines.Failing
import BoardConsole.Proofs.Storage.Beyond
