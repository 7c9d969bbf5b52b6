import ExactFactorial.Main
import ExactFactorial.Proofs.Calculator.Log
import ExactFactorial.Proofs.CommandLine.Defaults
import ExactFactorial.Proofs.CommandLine.LastLimit
import ExactFactorial.Proofs.CommandLine.LastWins
import ExactFactorial.Proofs.CommandLine.LimitNumerals
import ExactFactorial.Proofs.Program.Aborts
import ExactFactorial.Proofs.Program.EndToEnd
import ExactFactorial.Proofs.Program.Hosts
import ExactFactorial.Proofs.Session.Conversation
import ExactFactorial.Proofs.Session.DigitsMode
import ExactFactorial.Proofs.Session.OneLine
import ExactFactorial.Proofs.Session.Recognition
import ExactFactorial.Proofs.Session.RefusalLog
import ExactFactorial.Proofs.Session.Refusals
import ExactFactorial.Proofs.Settings.Fields
import ExactFactorial.Proofs.Settings.Quoting
import ExactFactorial.Proofs.Settings.TrimmedLines
