import GpuProfiler.Proofs.Command.Sizing
import GpuProfiler.Proofs.Command.Wire

set_option autoImplicit false

namespace GpuProfiler

namespace Word

def capped (total : Nat) : UInt64 := UInt64.ofNat (min total (bound - 1))

@[simp] theorem toNat_capped (total : Nat) : (capped total).toNat = min total (bound - 1) := by
  have some : 0 < bound := by decide
  exact toNat_ofNat_small (by omega)

theorem capped_toNat (word : UInt64) : capped word.toNat = word := by
  have fits : word.toNat < bound := word.toNat_lt
  apply UInt64.toNat_inj.mp
  rw [toNat_capped]
  omega

theorem saturating_add_capped (first second : Nat) :
    saturatingAdd (capped first) (capped second) = capped (first + second) := by
  apply UInt64.toNat_inj.mp
  rw [toNat_saturatingAdd, toNat_capped, toNat_capped, toNat_capped]
  omega

-- What is left out once the largest word is reached does not matter, for the sum stays there.
theorem fold_saturating_add (start : Nat) (words : List UInt64) :
    words.foldl saturatingAdd (capped start) = capped (start + (words.map UInt64.toNat).sum) := by
  induction words generalizing start with
  | nil => rfl
  | cons word rest ih =>
    have step : saturatingAdd (capped start) word = capped (start + word.toNat) := by
      rw [← saturating_add_capped, capped_toNat]
    rw [List.foldl_cons, step, ih, List.map_cons, List.sum_cons, Nat.add_assoc]

end Word

theorem Count.sum_known (words : List UInt64) :
    sum (words.map known) = known (Word.capped (words.map UInt64.toNat).sum) := by
  have fold (start : UInt64) : (words.map known).foldl add (known start) = known (words.foldl Word.saturatingAdd start) := by
    induction words generalizing start with
    | nil => rfl
    | cons word rest ih => exact ih (Word.saturatingAdd start word)
  have total := Word.fold_saturating_add 0 words
  rw [Nat.zero_add] at total
  exact (fold 0).trans (congrArg known total)

theorem ImageRegion.total_pixels_eq {regions : List ImageRegion} (fit : ∀ region ∈ regions, region.texels < Word.bound) :
    totalPixels regions = .ok (.known (Word.capped (regions.map texels).sum)) := by
  have exact : (regions.map fun region => UInt64.ofNat region.texels).map UInt64.toNat = regions.map texels := by
    rw [List.map_map]
    exact List.map_congr_left fun region member => Word.toNat_ofNat_small (fit region member)
  have sum := Count.sum_known (regions.map fun region => UInt64.ofNat region.texels)
  rw [exact, List.map_map] at sum
  unfold totalPixels
  rw [each_pixels_eq, if_pos fit]
  exact congrArg Except.ok sum

theorem StructureBuild.common_kind_update_iff (builds : List StructureBuild) :
    commonKind builds = .update ↔ builds ≠ [] ∧ ∀ build ∈ builds, build.kind = .update := by
  unfold commonKind
  cases builds <;> simp

theorem StructureBuild.common_kind_perm {builds others : List StructureBuild} (order : builds.Perm others) :
    commonKind builds = commonKind others := by
  have same : commonKind builds = .update ↔ commonKind others = .update := by
    rw [common_kind_update_iff, common_kind_update_iff]
    refine and_congr (not_congr ⟨?_, ?_⟩) (forall_congr' fun build => imp_congr order.mem_iff Iff.rfl)
    · rintro rfl
      exact order.nil_eq.symm
    · rintro rfl
      exact order.eq_nil
  cases one : commonKind builds <;> cases two : commonKind others <;> simp [one, two] at same ⊢

namespace Command

-- Commands made from a list: the amount that each item counts for, and the work of a list with its
-- total size.
inductive AddsUp : {α : Type} → (List α → Command) → (α → Nat) → (List α → UInt64 → Workload) → Prop
  | copyImage : AddsUp .copyImage ImageRegion.texels fun _ total => .imageTransfer .copyImage (.known total)
  | blitImage : AddsUp .blitImage ImageRegion.texels fun _ total => .imageTransfer .blitImage (.known total)
  | resolveImage : AddsUp .resolveImage ImageRegion.texels fun _ total => .imageTransfer .resolveImage (.known total)
  | copyBufferToImage :
      AddsUp .copyBufferToImage ImageRegion.texels fun _ total => .imageTransfer .copyBufferToImage (.known total)
  | copyImageToBuffer :
      AddsUp .copyImageToBuffer ImageRegion.texels fun _ total => .imageTransfer .copyImageToBuffer (.known total)
  | copyBuffer : AddsUp .copyBuffer UInt64.toNat fun _ total => .bufferTransfer .copyBuffer (.known total)
  | buildStructures : AddsUp .buildStructures (fun build => build.primitives.toNat) fun builds total =>
      .structureBuild (StructureBuild.commonKind builds) (.known total)

inductive Clears : (Option Extent → UInt32 → Command) → ImageTransferKind → Prop
  | color : Clears .clearColorImage .clearColor
  | depthStencil : Clears .clearDepthStencilImage .clearDepthStencil

def Fits (command : Command) : Prop := ∀ region ∈ command.sizedRegions, region.texels < Word.bound

section AddsUp

variable {α : Type} {make : List α → Command} {amount : α → Nat} {work : List α → UInt64 → Workload} {items : List α}

theorem adds_up_workload (adds : AddsUp make amount work) (fits : (make items).Fits) :
    (make items).workload = .ok (some (work items (Word.capped (items.map amount).sum))) := by
  have regions (kind : ImageTransferKind) (sources : List ImageRegion) (fit : ∀ region ∈ sources, region.texels < Word.bound) :
      regionWork kind sources = .ok (some (.imageTransfer kind (.known (Word.capped (sources.map ImageRegion.texels).sum)))) := by
    rw [regionWork, ImageRegion.total_pixels_eq fit]
    rfl
  cases adds with
  | copyImage => exact regions .copyImage items fits
  | blitImage => exact regions .blitImage items fits
  | resolveImage => exact regions .resolveImage items fits
  | copyBufferToImage => exact regions .copyBufferToImage items fits
  | copyImageToBuffer => exact regions .copyImageToBuffer items fits
  | copyBuffer =>
    have total := Word.fold_saturating_add 0 items
    rw [Nat.zero_add] at total
    exact congrArg (fun bytes => Except.ok (some (Workload.bufferTransfer .copyBuffer (.known bytes)))) total
  | buildStructures =>
    have total := Count.sum_known (items.map fun build => build.primitives)
    rw [List.map_map, List.map_map] at total
    exact congrArg (fun count => Except.ok (some (Workload.structureBuild _ count))) total

theorem adds_up_fits (adds : AddsUp make amount work) (fits : (make items).Fits) {others : List α} (among : others ⊆ items) :
    (make others).Fits := by
  cases adds with
  | copyBuffer | buildStructures => exact fits
  | _ => exact fun region member => fits region (among member)

theorem adds_up_sizes (adds : AddsUp make amount work) (total : UInt64) : (work items total).sizes = [.known total] := by
  cases adds <;> rfl

theorem adds_up_perm (adds : AddsUp make amount work) (fits : (make items).Fits) {others : List α}
    (order : others.Perm items) : (make others).workload = (make items).workload := by
  have same : (others.map amount).sum = (items.map amount).sum := (order.map amount).sum_nat
  have works : work others = work items := by
    cases adds with
    | buildStructures =>
      funext total
      exact congrArg (Workload.structureBuild · (.known total)) (StructureBuild.common_kind_perm order)
    | _ => rfl
  rw [adds_up_workload adds fits, adds_up_workload adds (adds_up_fits adds fits order.subset), same, works]

end AddsUp

theorem clears_workload {make : Option Extent → UInt32 → Command} {kind : ImageTransferKind} (clears : Clears make kind)
    (layers : UInt32) :
    (make none layers).workload = .ok (some (.imageTransfer kind .unknown)) ∧
      ∀ extent, (ImageRegion.mk extent layers).texels < Word.bound →
        (make (some extent) layers).workload =
          .ok (some (.imageTransfer kind (.known (Word.capped (ImageRegion.mk extent layers).texels)))) := by
  have known (extent : Extent) (fits : (ImageRegion.mk extent layers).texels < Word.bound) :
      imageWork kind (clearPixels (some extent) layers) =
        .ok (some (.imageTransfer kind (.known (Word.capped (ImageRegion.mk extent layers).texels)))) := by
    have small : min (ImageRegion.mk extent layers).texels (Word.bound - 1) = (ImageRegion.mk extent layers).texels := by
      omega
    unfold Word.capped
    rw [small, show clearPixels (some extent) layers = (extent.pixels layers).map Count.known from rfl,
      Extent.pixels_eq, if_pos fits]
    rfl
  cases clears with
  | color => exact ⟨rfl, known⟩
  | depthStencil => exact ⟨rfl, known⟩

/-- Where no region has more texels than a word counts, the size of a command made from a list is the
exact total of its items, or the largest word if that is less. Another order of the list makes no
difference, and the sizes of two parts of the list add up, up to the largest word, to that of the
whole. Structure builds are an update exactly if there are some and all of them are. A clear is sized
by its extent, and of unknown size without one. -/
theorem sizes_are_capped_totals :
    (∀ {α : Type} {make : List α → Command} {amount : α → Nat} {work : List α → UInt64 → Workload},
      AddsUp make amount work → ∀ items : List α, (∀ region ∈ (make items).sizedRegions, region.texels < Word.bound) →
        ∃ total, (make items).workload = .ok (some (work items total)) ∧ (work items total).sizes = [.known total] ∧
          total.toNat = min (items.map amount).sum (Word.bound - 1) ∧
          (∀ others : List α, others.Perm items → (make others).workload = (make items).workload) ∧
          ∀ front back, items = front ++ back → ∃ ahead behind,
            (make front).workload = .ok (some (work front ahead)) ∧ (make back).workload = .ok (some (work back behind)) ∧
            total.toNat = min (ahead.toNat + behind.toNat) (Word.bound - 1)) ∧
    (∀ builds, StructureBuild.commonKind builds = .update ↔ builds ≠ [] ∧ ∀ build ∈ builds, build.kind = .update) ∧
    ∀ make kind, Clears make kind → ∀ layers,
      (make none layers).workload = .ok (some (.imageTransfer kind .unknown)) ∧
      ∀ extent, (ImageRegion.mk extent layers).texels < Word.bound → ∃ pixels,
        (make (some extent) layers).workload = .ok (some (.imageTransfer kind (.known pixels))) ∧
        pixels.toNat = (ImageRegion.mk extent layers).texels := by
  refine ⟨?_, StructureBuild.common_kind_update_iff, ?_⟩
  · intro α make amount work adds items fits
    refine ⟨Word.capped (items.map amount).sum, adds_up_workload adds fits, adds_up_sizes adds _, Word.toNat_capped _,
      fun others order => adds_up_perm adds fits order, ?_⟩
    rintro front back rfl
    refine ⟨Word.capped (front.map amount).sum, Word.capped (back.map amount).sum,
      adds_up_workload adds (adds_up_fits adds fits (List.subset_append_left front back)),
      adds_up_workload adds (adds_up_fits adds fits (List.subset_append_right front back)), ?_⟩
    rw [Word.toNat_capped, Word.toNat_capped, Word.toNat_capped, List.map_append, List.sum_append]
    omega
  · intro make kind clears layers
    obtain ⟨unknown, known⟩ := clears_workload clears layers
    refine ⟨unknown, fun extent fits => ⟨_, known extent fits, ?_⟩⟩
    rw [Word.toNat_capped]
    omega

def halfRegion : ImageRegion := ⟨⟨2147483648, 2147483648, 2⟩, 0⟩

theorem halves_copied_together :
    (∀ region ∈ (copyImage [halfRegion, halfRegion]).sizedRegions, region.texels < Word.bound) ∧
      ∃ half, (copyImage [halfRegion]).workload = .ok (some (.imageTransfer .copyImage (.known half))) ∧
        half.toNat = 2 ^ 63 ∧
        (copyImage [halfRegion, halfRegion]).workload = .ok (some (.imageTransfer .copyImage (.known Word.largest))) := by
  have fits : ∀ region ∈ (copyImage [halfRegion, halfRegion]).sizedRegions, region.texels < Word.bound := by decide
  obtain ⟨total, whole, _, sum, _, _⟩ := sizes_are_capped_totals.1 .copyImage [halfRegion, halfRegion] fits
  obtain ⟨half, one, _, size, _, _⟩ := sizes_are_capped_totals.1 .copyImage [halfRegion] (by decide)
  obtain rfl : total = Word.largest := UInt64.toNat_inj.mp (sum.trans (by decide))
  exact ⟨fits, half, one, size.trans (by decide), whole⟩

end Command

end GpuProfiler
