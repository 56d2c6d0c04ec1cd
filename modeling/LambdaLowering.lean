import LambdaLowering.Batch
import LambdaLowering.Chain
import LambdaLowering.Proofs.BuilderRuns
import LambdaLowering.Proofs.Checks
import LambdaLowering.Proofs.DescriptorText
import LambdaLowering.Proofs.Forwarding
import LambdaLowering.Proofs.Lockstep
import LambdaLowering.Proofs.Numbering
import LambdaLowering.Proofs.Promises
import LambdaLowering.Proofs.Replay
import LambdaLowering.Proofs.Schedules
import LambdaLowering.Proofs.Transcripts
import LambdaLowering.Proofs.AccessorTable
import LambdaLowering.Proofs.Idempotence
import LambdaLowering.Proofs.Neighbours
import LambdaLowering.Proofs.Refusals
import LambdaLowering.Proofs.Tallies
import LambdaLowering.Proofs.UnwantedMethods
import LambdaLowering.Proofs.ClosedInput
import LambdaLowering.Proofs.Rebuilding
import LambdaLowering.Proofs.ConsultedMethods
import LambdaLowering.Proofs.FaultOffsets
import LambdaLowering.Proofs.ReadableDescriptors
import LambdaLowering.Proofs.CursorRuns
import LambdaLowering.Proofs.UnambiguousText
