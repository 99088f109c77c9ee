import RevAgent.Proof.HoldRecovery
import RevAgent.Proof.RecoveryStranding
import RevAgent.Proof.InvocationWindow
import RevAgent.Proof.ConfirmationSingleUse
import RevAgent.Proof.SequenceWindows
import RevAgent.Proof.RetentionTakeover
import RevAgent.Proof.BatchPrefix
import RevAgent.Proof.ClearanceBinding
import RevAgent.Proof.FrameDecoding
import RevAgent.Proof.CanonicalAgreement
import RevAgent.Proof.OwnershipRelease
import RevAgent.Proof.BlobPresence
import RevAgent.Proof.SpanExactness
import RevAgent.Proof.SpatialPartition
import RevAgent.Proof.HoldAgreement
import RevAgent.Proof.DependencyDigest
import RevAgent.Proof.StreamAssembly
import RevAgent.Proof.IntegerReaders
import RevAgent.Proof.ConfirmedArguments
import RevAgent.Proof.WatchInterference
import RevAgent.Proof.SequenceRecovery
import RevAgent.Proof.RecoveryLedgers
