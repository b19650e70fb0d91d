import GpuProfiler.Config.Reader
import GpuProfiler.Json.Data
import GpuProfiler.Layer.Call
import GpuProfiler.Layer.Text
import GpuProfiler.Text.Lossy
import GpuProfiler.Proofs.Arena.History
import GpuProfiler.Proofs.Command.Totals
import GpuProfiler.Proofs.Config.Overrides
import GpuProfiler.Proofs.Counter.Omissions
import GpuProfiler.Proofs.Eager.Layer
import GpuProfiler.Proofs.Frames.Counters
import GpuProfiler.Proofs.Frames.Marks
import GpuProfiler.Proofs.Frames.Unsampled
import GpuProfiler.Proofs.Indifference.Runs
import GpuProfiler.Proofs.Layer.Drained
import GpuProfiler.Proofs.Layer.Ledger
import GpuProfiler.Proofs.Layer.Misuse
import GpuProfiler.Proofs.Layer.Owned
import GpuProfiler.Proofs.Layer.Rejected
import GpuProfiler.Proofs.Recorder.Labels
import GpuProfiler.Proofs.Registry.Execution
import GpuProfiler.Proofs.Registry.Lookups
import GpuProfiler.Proofs.RenderPass.Executed
import GpuProfiler.Proofs.RenderPass.Split
import GpuProfiler.Proofs.Replay.Chains
import GpuProfiler.Proofs.Replay.Origins
import GpuProfiler.Proofs.Replay.Submissions
import GpuProfiler.Proofs.Telemetry.Lines
import GpuProfiler.Proofs.Transparency.Layer
import GpuProfiler.Proofs.Trap.Interleaving
import GpuProfiler.Proofs.Trap.Polling
