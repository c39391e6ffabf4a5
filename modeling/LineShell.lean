import LineShell.Machine.Changes
import LineShell.Main
import LineShell.Proofs.Word.Grammar
import LineShell.Proofs.Word.Runs
import LineShell.Proofs.Word.Layout
import LineShell.Proofs.Command.Rendering
import LineShell.Proofs.Run.Reply
import LineShell.Proofs.Run.Account
import LineShell.Proofs.Run.Delivery
import LineShell.Proofs.Run.Marks
import LineShell.Proofs.Run.Files
import LineShell.Proofs.Run.Session
import LineShell.Proofs.Path.Join
import LineShell.Proofs.Run.Requests
import LineShell.Proofs.Run.Directory
import LineShell.Proofs.Run.Dropped
import LineShell.Proofs.Run.Image
import LineShell.Proofs.Run.Reading
import LineShell.Proofs.Run.Launch
import LineShell.Proofs.Run.Naming
import LineShell.Proofs.Run.Screens
import LineShell.Proofs.Run.Variables
import LineShell.Proofs.Command.Division
import LineShell.Proofs.Command.Remainder
import LineShell.Proofs.Word.Continuation
import LineShell.Proofs.Word.Plain
import LineShell.Proofs.Run.Move
import LineShell.Proofs.Run.Passage
import LineShell.Proofs.Run.Creation
import LineShell.Proofs.Word.Joined
import LineShell.Proofs.Run.Search
import LineShell.Proofs.Run.Frame
import LineShell.Proofs.Run.Indifference
import LineShell.Proofs.Run.Streams
import LineShell.Proofs.Run.Destination
import LineShell.Proofs.Text.Unbroken
import LineShell.Proofs.Run.Unbroken
import LineShell.Proofs.Run.Route
import LineShell.Proofs.Run.Resolution
import LineShell.Proofs.Machine.Growth
import LineShell.Proofs.Machine.Soundness
import LineShell.Proofs.Machine.Storage
