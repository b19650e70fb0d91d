import GpuProfiler.Proofs.Layer.Run

set_option autoImplicit false

namespace GpuProfiler

namespace Word

theorem mul_eq (a b : UInt64) :
    mul a b = if a.toNat * b.toNat < bound then .ok (UInt64.ofNat (a.toNat * b.toNat)) else .error .multiplyOverflow := by
  unfold mul
  split
  · exact congrArg Except.ok (UInt64.toNat_inj.mp (by rw [UInt64.toNat_mul, UInt64.toNat_ofNat']))
  · rfl

theorem toNat_ofNat_small {size : Nat} (fits : size < bound) : (UInt64.ofNat size).toNat = size :=
  UInt64.toNat_ofNat_of_lt fits

end Word

def ImageRegion.texels (region : ImageRegion) : Nat :=
  region.extent.width.toNat * region.extent.height.toNat * region.extent.depth.toNat * max region.layers.toNat 1

namespace Extent

variable (extent : Extent) (layers : UInt32)

theorem area_fits : extent.width.toNat * extent.height.toNat < Word.bound := by
  have width : extent.width.toNat ≤ 2 ^ 32 - 1 := Nat.le_sub_one_of_lt extent.width.toNat_lt
  have height : extent.height.toNat ≤ 2 ^ 32 - 1 := Nat.le_sub_one_of_lt extent.height.toNat_lt
  calc extent.width.toNat * extent.height.toNat
      ≤ (2 ^ 32 - 1) * (2 ^ 32 - 1) := Nat.mul_le_mul width height
    _ < Word.bound := by decide

theorem toNat_layers : (max layers 1).toUInt64.toNat = max layers.toNat 1 := by
  rw [UInt32.toNat_toUInt64]
  by_cases some : layers ≤ 1
  · rw [show max layers 1 = 1 from if_pos some]
    have := UInt32.le_iff_toNat_le.mp some
    simp at this ⊢
    omega
  · rw [show max layers 1 = layers from if_neg some]
    have := fun less => some (UInt32.le_iff_toNat_le.mpr less)
    simp at this ⊢
    omega

theorem texels_eq : extent.texels =
    if extent.width.toNat * extent.height.toNat * extent.depth.toNat < Word.bound then
      .ok (UInt64.ofNat (extent.width.toNat * extent.height.toNat * extent.depth.toNat))
    else .error .multiplyOverflow := by
  have area := extent.area_fits
  unfold texels
  rw [Word.mul_eq, UInt32.toNat_toUInt64, UInt32.toNat_toUInt64, if_pos area]
  dsimp only
  rw [Word.mul_eq, Word.toNat_ofNat_small area, UInt32.toNat_toUInt64]

-- A product too large at first stays so, since no region counts for less than one layer.
theorem pixels_eq : extent.pixels layers =
    if (ImageRegion.mk extent layers).texels < Word.bound then .ok (UInt64.ofNat (ImageRegion.mk extent layers).texels)
    else .error .multiplyOverflow := by
  unfold pixels ImageRegion.texels
  rw [texels_eq]
  by_cases fits : extent.width.toNat * extent.height.toNat * extent.depth.toNat < Word.bound
  · rw [if_pos fits]
    dsimp only
    rw [Word.mul_eq, Word.toNat_ofNat_small fits, toNat_layers]
  · rw [if_neg fits]
    have more : extent.width.toNat * extent.height.toNat * extent.depth.toNat ≤
        extent.width.toNat * extent.height.toNat * extent.depth.toNat * max layers.toNat 1 :=
      Nat.le_mul_of_pos_right _ (by omega)
    rw [if_neg fun less => fits (Nat.lt_of_le_of_lt more less)]

end Extent

theorem ImageRegion.each_pixels_eq (regions : List ImageRegion) : eachPixels regions =
    if ∀ region ∈ regions, region.texels < Word.bound then
      .ok (regions.map fun region => .known (UInt64.ofNat region.texels))
    else .error .multiplyOverflow := by
  induction regions with
  | nil => rfl
  | cons region rest ih =>
    unfold eachPixels pixels
    rw [Extent.pixels_eq, ih]
    simp only [List.forall_mem_cons]
    by_cases here : region.texels < Word.bound
    · by_cases beyond : ∀ other ∈ rest, other.texels < Word.bound
      · rw [if_pos here, if_pos beyond, if_pos ⟨here, beyond⟩]
        rfl
      · rw [if_pos here, if_neg beyond, if_neg (mt And.right beyond)]
        rfl
    · rw [if_neg here, if_neg (mt And.left here)]

-- The regions that a command is sized by. A clear of a known extent is sized as one region.
def Command.sizedRegions : Command → List ImageRegion
  | .clearColorImage (some extent) layers | .clearDepthStencilImage (some extent) layers => [⟨extent, layers⟩]
  | .copyImage regions | .blitImage regions | .resolveImage regions | .copyBufferToImage regions
  | .copyImageToBuffer regions => regions
  | _ => []

def Command.Oversized (command : Command) : Prop := ∃ region ∈ command.sizedRegions, Word.bound ≤ region.texels

namespace Command

theorem oversized_iff (command : Command) :
    command.Oversized ↔ ¬ ∀ region ∈ command.sizedRegions, region.texels < Word.bound := by
  simp [Oversized]

theorem region_work_cases (kind : ImageTransferKind) (regions : List ImageRegion) :
    (regionWork kind regions = .error .multiplyOverflow ∧ ¬ ∀ region ∈ regions, region.texels < Word.bound) ∨
      ∃ work, regionWork kind regions = .ok (some work) ∧ ∀ region ∈ regions, region.texels < Word.bound := by
  unfold regionWork ImageRegion.totalPixels
  rw [ImageRegion.each_pixels_eq]
  by_cases fit : ∀ region ∈ regions, region.texels < Word.bound
  · rw [if_pos fit]
    exact .inr ⟨_, rfl, fit⟩
  · rw [if_neg fit]
    exact .inl ⟨rfl, fit⟩

theorem clear_work_cases (kind : ImageTransferKind) (extent : Extent) (layers : UInt32) :
    (imageWork kind (clearPixels (some extent) layers) = .error .multiplyOverflow ∧
        ¬ (ImageRegion.mk extent layers).texels < Word.bound) ∨
      ∃ work, imageWork kind (clearPixels (some extent) layers) = .ok (some work) ∧
        (ImageRegion.mk extent layers).texels < Word.bound := by
  rw [show clearPixels (some extent) layers = (extent.pixels layers).map Count.known from rfl, Extent.pixels_eq]
  by_cases fits : (ImageRegion.mk extent layers).texels < Word.bound
  · rw [if_pos fits]
    exact .inr ⟨_, rfl, fits⟩
  · rw [if_neg fits]
    exact .inl ⟨rfl, fits⟩

theorem workload_cases (command : Command) :
    (command.workload = .error .multiplyOverflow ∧ command.Oversized) ∨
      ∃ found, command.workload = .ok found ∧ ¬ command.Oversized := by
  have plain (found : Option Workload) (stands : command.workload = .ok found) (unsized : command.sizedRegions = []) :
      ∃ found, command.workload = .ok found ∧ ¬ command.Oversized :=
    ⟨found, stands, by simp [oversized_iff, unsized]⟩
  have regions (kind : ImageTransferKind) (stands : command.workload = regionWork kind command.sizedRegions) :
      (command.workload = .error .multiplyOverflow ∧ command.Oversized) ∨
        ∃ found, command.workload = .ok found ∧ ¬ command.Oversized := by
    rw [oversized_iff, stands, not_not]
    rcases region_work_cases kind command.sizedRegions with exceeds | ⟨work, known, fit⟩
    · exact .inl exceeds
    · exact .inr ⟨some work, known, fit⟩
  have clears (kind : ImageTransferKind) (extent : Extent) (layers : UInt32)
      (stands : command.workload = imageWork kind (clearPixels (some extent) layers))
      (sized : command.sizedRegions = [⟨extent, layers⟩]) :
      (command.workload = .error .multiplyOverflow ∧ command.Oversized) ∨
        ∃ found, command.workload = .ok found ∧ ¬ command.Oversized := by
    rw [oversized_iff, stands, sized, List.forall_mem_singleton, not_not]
    rcases clear_work_cases kind extent layers with exceeds | ⟨work, known, fits⟩
    · exact .inl exceeds
    · exact .inr ⟨some work, known, fits⟩
  cases command with
  | clearColorImage extent layers =>
    cases extent with
    | none => exact .inr (plain _ rfl rfl)
    | some extent => exact clears .clearColor extent layers rfl rfl
  | clearDepthStencilImage extent layers =>
    cases extent with
    | none => exact .inr (plain _ rfl rfl)
    | some extent => exact clears .clearDepthStencil extent layers rfl rfl
  | copyImage sources => exact regions .copyImage rfl
  | blitImage sources => exact regions .blitImage rfl
  | resolveImage sources => exact regions .resolveImage rfl
  | copyBufferToImage sources => exact regions .copyBufferToImage rfl
  | copyImageToBuffer sources => exact regions .copyImageToBuffer rfl
  | _ => exact .inr (plain _ rfl rfl)

theorem workload_error_iff (command : Command) (reason : Halt) :
    command.workload = .error reason ↔ reason = .multiplyOverflow ∧ command.Oversized := by
  rcases command.workload_cases with ⟨exceeds, large⟩ | ⟨found, stands, small⟩
  · rw [exceeds, Except.error.injEq, eq_comm]
    exact ⟨fun same => ⟨same, large⟩, And.left⟩
  · rw [stands]
    exact ⟨fun never => (nomatch never), fun both => absurd both.2 small⟩

end Command

theorem Word.add_error {a b : UInt64} {reason : Halt} (stopped : Word.add a b = .error reason) :
    reason = .addOverflow := by
  unfold Word.add at stopped
  split at stopped
  · cases stopped
  · cases stopped
    rfl

theorem Recorder.draw_error {recorder : Recorder} {count : UInt64} {reason : Halt}
    (stopped : recorder.draw count = .error reason) : reason = .addOverflow := by
  unfold Recorder.draw at stopped
  split at stopped
  · next inner =>
    cases stopped
    exact Word.add_error inner
  · split at stopped
    · cases stopped
    · exact Word.add_error (map_error stopped)

namespace Recording

-- Recording a command goes on past its size if the size fits, and a draw can still overflow a count.
def Sizes (recorded : Command) (_ : List Event) (reason : Halt) : Prop :=
  reason = .multiplyOverflow ↔ recorded.Oversized

theorem ends_draw_sized (s : Recording) {recorded : Command} (count : UInt64) (unsized : ¬ recorded.Oversized) :
    Act.Ends (draw count) s (fun _ _ _ => ¬ recorded.Oversized) (Sizes recorded) := by
  simp only [draw, Act.ends_bind, Act.ends_get, Act.ends_check, Act.ends_set]
  refine ⟨fun _ _ => unsized, fun reason stopped => ?_⟩
  rw [Sizes, Recorder.draw_error stopped]
  constructor
  · intro never
    cases never
  · exact fun large => absurd large unsized

theorem ends_work_sized (s : Recording) (mode : CaptureMode) (recorded : Command) :
    Act.Ends
      (do match ← Act.check recorded.workload with
          | some workload => record workload mode.captures
          | none => pure false) s
      (fun _ _ _ => ¬ recorded.Oversized) (Sizes recorded) := by
  rw [Act.ends_bind, Act.ends_check]
  constructor
  · intro found known
    have small : ¬ recorded.Oversized := by
      intro large
      have exceeds := (recorded.workload_error_iff .multiplyOverflow).mpr ⟨rfl, large⟩
      rw [known] at exceeds
      cases exceeds
    cases found with
    | none => exact small
    | some workload =>
      simp only [record, Act.ends_bind, Act.ends_get, Act.ends_note_if, Act.ends_set, Act.ends_pure]
      exact small
  · intro reason stopped
    obtain ⟨rfl, large⟩ := (recorded.workload_error_iff reason).mp stopped
    exact ⟨fun _ => large, fun _ => rfl⟩

theorem ends_sized (s : Recording) (recorded : Command) (mode : CaptureMode) :
    Act.Ends (command recorded mode) s (fun _ _ _ => ¬ recorded.Oversized) (Sizes recorded) := by
  have plain (unsized : recorded.sizedRegions = []) : ¬ recorded.Oversized := by
    simp [Command.oversized_iff, unsized]
  cases recorded with
  | beginDebugLabel label => exact plain rfl
  | endDebugLabel =>
    simp only [command, popLabel, update, Act.ends_bind, Act.ends_get, Act.ends_note_if, Act.ends_modify, Act.ends_pure]
    exact plain rfl
  | beginRenderPass begun =>
    simp only [command, beginPass, Act.ends_bind, Act.ends_get]
    split <;> exact plain rfl
  | endRenderPass => exact plain rfl
  | draw vertices instances =>
    simp only [command, Command.drawCount, Act.ends_bind]
    exact ends_draw_sized s 1 (plain rfl)
  | drawIndirect draws =>
    simp only [command, Command.drawCount, Act.ends_bind]
    exact ends_draw_sized s draws.toUInt64 (plain rfl)
  | _ => exact ends_work_sized s mode _

end Recording

namespace Layer

variable {layer : Layer} {buffer : BufferId} {recorder : Recorder}

theorem ends_command_sized (live : layer.recorder buffer = .ok recorder) (command : Command) :
    Act.Ends (perform (.command buffer command)) layer (fun _ _ _ => ¬ command.Oversized) (Recording.Sizes command) := by
  obtain ⟨device, here, held⟩ := (recorder_ok layer buffer recorder).mp live
  have known : (DeviceScope.trackingPart.get ⟨device, layer.shared⟩).registry.buffers.get? buffer.buffer = some recorder :=
    held
  simp only [perform, Layer.command, Act.ends_bind, Act.ends_pure, ends_on_device, here, DeviceScope.command,
    Act.ends_get, Act.ends_on, Tracking.ends_with_buffer, known]
  refine Act.ends_mono (Recording.ends_sized _ command device.captureMode) ?_ (fun _ _ sizes => sizes)
  intro shown stops next small
  refine Act.ends_mono (Driver.ends_command recorder.raw command _) ?_ (fun _ _ never => never.elim)
  intro later _ driver _
  unfold DeviceScope.emitTrap
  split
  · rw [Act.ends_on]
    exact Act.ends_mono (TrapEvents.ends_emit _ recorder.raw _) (fun _ _ _ _ => small) (fun _ _ never => never.elim)
  · exact small

/-- Sizing the work of a command overflows exactly if the command has a region of more texels than
a word counts, and in no other way than in a product. Recording the command into a live buffer then
stops there, and stops so for no other reason: not for what the device captures, and not for whether
it is profiled at all. -/
theorem oversized_region_stops_recording (layer : Layer) (buffer : BufferId) (recorder : Recorder) (command : Command)
    (live : layer.recorder buffer = .ok recorder) :
    (∀ reason, command.workload = .error reason ↔
      reason = .multiplyOverflow ∧ ∃ region ∈ command.sizedRegions, Word.bound ≤ region.texels) ∧
    ((perform (.command buffer command) layer).outcome = .error .multiplyOverflow ↔
      ∃ region ∈ command.sizedRegions, Word.bound ≤ region.texels) := by
  refine ⟨command.workload_error_iff, ?_⟩
  have ends := ends_command_sized live command
  rcases ran : perform (.command buffer command) layer with ⟨shown, reason | ⟨reply, next⟩⟩
  · have sizes := Act.ends_of_error ends ran
    rw [Except.error.injEq]
    exact sizes
  · have small := Act.ends_of_ok ends ran
    exact ⟨fun never => (nomatch never), fun large => absurd large small⟩

def unprofiledBuffer : Layer := (fresh .default ⟨[], 0⟩).outcome ((fresh .default ⟨[], 0⟩).trace [
  .createDevice (.new "gpu" [] [] false) .empty,
  .allocate ⟨0, 0⟩ .primary,
  .beginBuffer ⟨⟨0, 0⟩, ⟨0, 0⟩⟩])

def cubeCopy : Command := .copyImage [⟨⟨65536, 65536, 65536⟩, 65536⟩]

theorem cube_copy_stops :
    unprofiledBuffer.isCapturing ⟨0, 0⟩ = .ok false ∧ (unprofiledBuffer.recorder ⟨⟨0, 0⟩, ⟨0, 0⟩⟩).isOk = true ∧
      (perform (.command ⟨⟨0, 0⟩, ⟨0, 0⟩⟩ cubeCopy) unprofiledBuffer).outcome.map (·.1) = .error .multiplyOverflow := by
  decide +kernel

theorem cube_copy_oversized :
    ∃ recorder, unprofiledBuffer.recorder ⟨⟨0, 0⟩, ⟨0, 0⟩⟩ = .ok recorder ∧
      (perform (.command ⟨⟨0, 0⟩, ⟨0, 0⟩⟩ cubeCopy) unprofiledBuffer).outcome = .error .multiplyOverflow := by
  obtain ⟨recorder, live⟩ : ∃ recorder, unprofiledBuffer.recorder ⟨⟨0, 0⟩, ⟨0, 0⟩⟩ = .ok recorder := ⟨_, rfl⟩
  refine ⟨recorder, live, ?_⟩
  exact (oversized_region_stops_recording unprofiledBuffer ⟨⟨0, 0⟩, ⟨0, 0⟩⟩ recorder cubeCopy live).2.mpr
    ⟨_, List.mem_singleton.mpr rfl, by decide⟩

end Layer

end GpuProfiler
