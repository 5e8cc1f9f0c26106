import SelfUpdate.CommandLine.Rehearsal
import SelfUpdate.FileSystem.Session
import SelfUpdate.Main
import SelfUpdate.Proofs.Archive.BoundedRead
import SelfUpdate.Proofs.Archive.RegularFiles
import SelfUpdate.Proofs.Archive.Tar.Continuation
import SelfUpdate.Proofs.FileSystem.FailedCalls
import SelfUpdate.Proofs.FileSystem.OpenFiles
import SelfUpdate.Proofs.FileSystem.Respelling
import SelfUpdate.Proofs.Release.Address
import SelfUpdate.Proofs.Release.Download
import SelfUpdate.Proofs.Settings.Layers
import SelfUpdate.Proofs.Update.Cancellation
import SelfUpdate.Proofs.Update.Convergence
import SelfUpdate.Proofs.Update.Mirroring
import SelfUpdate.Proofs.Update.Resolution
import SelfUpdate.Proofs.Update.Scratch
