import LC3.Session
import LC3.Description
import LC3.Keyboard.Scripted
import LC3.Keyboard.Stream
import LC3.Keyboard.Pending
import LC3.Keyboard.Terminal
import LC3.Keyboard.Attended
import LC3.Console.Collector
import LC3.Console.LineFeed
import LC3.CommandLine.Program
import LC3.Main
import LC3.Proofs.InstructionTable
import LC3.Proofs.TypedCharacters
import LC3.Proofs.TypedOrder
import LC3.Proofs.Handshake
import LC3.Proofs.IntervalPoll
import LC3.Proofs.PipedInput
import LC3.Proofs.Shutdown
import LC3.Proofs.NoRefusal
import LC3.Proofs.StepLimits
import LC3.Proofs.ProgramImages
import LC3.Proofs.BrokenConsoles
import LC3.Proofs.ExitCodes
import LC3.Proofs.UnreadInput
import LC3.Proofs.LastStored
import LC3.Proofs.StoredStrings
import LC3.Proofs.EchoPrograms
import LC3.Proofs.ConditionFlag
import LC3.Proofs.FailedSteps
import LC3.Proofs.RunAgain
import LC3.Proofs.PrintedStrings
import LC3.Proofs.LimitedRuns
import LC3.Proofs.LineEnds
import LC3.Proofs.FaultyStreams
import LC3.Proofs.TrapSteps
import LC3.Proofs.VisibleOutput
import LC3.Proofs.EndOfInput
import LC3.Proofs.AbandonedPolls
import LC3.Proofs.ExactCuts
