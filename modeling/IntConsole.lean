import IntConsole.Main
import IntConsole.Proofs.CommandLine.Arrangement
import IntConsole.Proofs.Program
import IntConsole.Proofs.Reading.Demand
import IntConsole.Proofs.Reading.Literal
import IntConsole.Proofs.Reading.Progress
import IntConsole.Proofs.Script.Course
import IntConsole.Proofs.Script.Strictness
import IntConsole.Proofs.Script.Sufficiency
import IntConsole.Proofs.Script.Turn
import IntConsole.Proofs.Script.Value
import IntConsole.Proofs.Session.Accounting
import IntConsole.Proofs.Session.Arrival
import IntConsole.Proofs.Session.ReadBack
import IntConsole.Proofs.Session.Rejection
