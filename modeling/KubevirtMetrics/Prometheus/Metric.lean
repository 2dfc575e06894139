import Mathlib.Data.Rat.Defs
import KubevirtMetrics.Data.Table

namespace KubevirtMetrics.Prometheus

open Data

/-! Metrics as a collector hands them to the registry. -/

structure ConstHistogram where
  count : UInt64
  sum : ℚ
  buckets : Table ℚ UInt64

inductive MetricValue
  | counter (value : ℚ)
  | gauge (value : ℚ)
  | histogram (value : ConstHistogram)

structure Metric (D : Type) where
  desc : D
  value : MetricValue
  labels : List String

variable {D : Type}

def Metric.series (metric : Metric D) : D × List String :=
  (metric.desc, metric.labels)

/-- Metrics that share a descriptor differ in their label values. -/
def DistinctSeries (metrics : List (Metric D)) : Prop :=
  (metrics.map Metric.series).Nodup

instance [DecidableEq D] (metrics : List (Metric D)) :
    Decidable (DistinctSeries metrics) :=
  inferInstanceAs (Decidable (metrics.map Metric.series).Nodup)

theorem distinctSeries_iff_pairwise (metrics : List (Metric D)) :
    DistinctSeries metrics ↔
      metrics.Pairwise fun metric other => metric.series ≠ other.series :=
  List.pairwise_map

theorem distinctSeries_append (front back : List (Metric D)) :
    DistinctSeries (front ++ back) ↔
      DistinctSeries front ∧ DistinctSeries back ∧
        ∀ metric ∈ front, ∀ other ∈ back, metric.series ≠ other.series := by
  simp only [distinctSeries_iff_pairwise, List.pairwise_append]

theorem distinctSeries_append_of_desc {front back : List (Metric D)}
    (apart : ∀ metric ∈ front, ∀ other ∈ back, metric.desc ≠ other.desc) :
    DistinctSeries (front ++ back) ↔
      DistinctSeries front ∧ DistinctSeries back := by
  rw [distinctSeries_append]
  constructor
  · rintro ⟨first, second, -⟩
    exact ⟨first, second⟩
  · rintro ⟨first, second⟩
    refine ⟨first, second, fun metric inFront other inBack same => ?_⟩
    exact apart metric inFront other inBack (congrArg Prod.fst same)

theorem distinctSeries_of_desc {metrics : List (Metric D)}
    (distinct : (metrics.map Metric.desc).Nodup) : DistinctSeries metrics := by
  apply List.Nodup.of_map Prod.fst
  rw [List.map_map]
  exact distinct

/-- Metrics under other names. -/
theorem distinctSeries_map_desc {E : Type} {rename : D → E}
    (injective : Function.Injective rename) (metrics : List (Metric D)) :
    DistinctSeries (metrics.map fun metric =>
        (⟨rename metric.desc, metric.value, metric.labels⟩ : Metric E)) ↔
      DistinctSeries metrics := by
  have renamed :
      (metrics.map fun metric =>
        (⟨rename metric.desc, metric.value, metric.labels⟩ : Metric E)).map Metric.series =
      (metrics.map Metric.series).map (Prod.map rename id) := by
    rw [List.map_map, List.map_map]
    rfl
  unfold DistinctSeries
  rw [renamed, List.nodup_map_iff (injective.prodMap Function.injective_id)]

theorem distinctSeries_filterMap {α : Type} (f : α → Option (Metric D))
    (sources : List α) :
    DistinctSeries (sources.filterMap f) ↔
      sources.Pairwise fun a b => ∀ metric, f a = some metric →
        ∀ other, f b = some other → metric.series ≠ other.series := by
  rw [distinctSeries_iff_pairwise, List.pairwise_filterMap]

theorem distinctSeries_flatMap {α : Type} (f : α → List (Metric D))
    (sources : List α) :
    DistinctSeries (sources.flatMap f) ↔
      (∀ source ∈ sources, DistinctSeries (f source)) ∧
        sources.Pairwise fun a b => ∀ metric ∈ f a, ∀ other ∈ f b,
          metric.series ≠ other.series := by
  simp only [distinctSeries_iff_pairwise, List.pairwise_flatMap]

/-- Sources whose metrics can be told apart by their labels. -/
theorem distinctSeries_flatMap_of_key {α κ : Type} {f : α → List (Metric D)}
    {sources : List α} (key : List String → κ) (own : α → κ)
    (keyed : ∀ source, ∀ metric ∈ f source, key metric.labels = own source)
    (apart : (sources.map own).Nodup) :
    DistinctSeries (sources.flatMap f) ↔
      ∀ source ∈ sources, DistinctSeries (f source) := by
  rw [distinctSeries_flatMap]
  refine and_iff_left ((List.pairwise_map.mp apart).imp ?_)
  intro source other distinct metric member metric' member' same
  have labels : metric.labels = metric'.labels := congrArg Prod.snd same
  apply distinct
  rw [← keyed source metric member, ← keyed other metric' member', labels]

end KubevirtMetrics.Prometheus
