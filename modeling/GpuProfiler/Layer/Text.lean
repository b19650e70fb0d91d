import GpuProfiler.Layer
import GpuProfiler.Text.Quoted

set_option autoImplicit false

namespace GpuProfiler

def TrapTiming.logText (timing : TrapTiming) : String :=
  "TrapConfig \x7b poll_interval_us: " ++ toString timing.pollMicros.toNat ++ ", settle_delay_ms: "
    ++ toString timing.settleMillis.toNat ++ " \x7d"

def Config.logText (config : Config) : String :=
  "ProfileConfig \x7b frame_mode: " ++ config.mode.logText
    ++ ", frame_list: " ++ bracketed (config.frameList.map fun frame => toString frame.toNat)
    ++ ", periodic_min_frame: " ++ toString config.periodicMinFrame.toNat
    ++ ", periodic_frame: " ++ toString config.periodicFrame.toNat
    ++ ", sample_workloads: " ++ toString config.sampleWorkloads
    ++ ", sample_frames: " ++ toString config.sampleFrames
    ++ ", trap: " ++ config.trap.logText
    ++ ", counters: " ++ bracketed (config.counters.map quotedText) ++ " \x7d"

def Layer.logText (layer : Layer) : String :=
  "Layer \x7b config: " ++ layer.config.logText ++ ", telemetry: " ++ layer.shared.sender.logText
    ++ ", .. \x7d"

end GpuProfiler
