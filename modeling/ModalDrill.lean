import ModalDrill.Bank.Catalogue
import ModalDrill.Main
import ModalDrill.Manifest
import ModalDrill.Proofs.Command.Run
import ModalDrill.Proofs.Session.Accounting
import ModalDrill.Proofs.Session.Replay
import ModalDrill.Proofs.Shell.Records
import ModalDrill.Proofs.Service.Book
import ModalDrill.Proofs.Service.Isolation
import ModalDrill.Proofs.Service.Playable
import ModalDrill.Service.Hall
import ModalDrill.Session.Round
import ModalDrill.Proofs.Shell.Line
import ModalDrill.Proofs.Shell.Whole
import ModalDrill.Proofs.Command.Effects
import ModalDrill.Proofs.CommandLine.Opening
import ModalDrill.Proofs.Session.Deadline
import ModalDrill.Proofs.Shell.Endings
import ModalDrill.Proofs.Command.Parking
import ModalDrill.Proofs.Command.Spelling
import ModalDrill.Proofs.Command.Words
import ModalDrill.Proofs.CommandLine.History
import ModalDrill.Proofs.Store.Atomicity
import ModalDrill.Proofs.Store.Leaderboard
import ModalDrill.Proofs.Buffer.Caret
import ModalDrill.Proofs.Command.Pasting
import ModalDrill.Proofs.Command.Walking
import ModalDrill.Proofs.Bank.WrittenForm
import ModalDrill.Proofs.Service.Turns
import ModalDrill.Proofs.CommandLine.Duration
import ModalDrill.Proofs.Command.Grammar
import ModalDrill.Proofs.Session.Grading
import ModalDrill.Proofs.Shell.Table
import ModalDrill.Proofs.Manifest.Lookup
