/-
The rendered metrics are the entries of the snapshot.

`Writes` says what a step of the rendering puts behind the text so far, as the samples that a
reader finds in it.  The steps compose (`writes_foldl`), and every metric of the table is one of
them.  `Exposes` says independently of the rendering which series belong to a snapshot, map by
map.
-/
import RustyGate.Telemetry.Prometheus
import Mathlib.Data.List.Nodup

namespace RustyGate

open Exposition

/-- What is appended is read as the samples. -/
def Writes (write : String → String) (samples : List Sample) : Prop :=
  ∀ output, ∃ written, (write output).toList = output.toList ++ written ∧ Reads written samples

theorem Writes.comp {first second : String → String} {samples samples' : List Sample}
    (hfirst : Writes first samples) (hsecond : Writes second samples') :
    Writes (fun output => second (first output)) (samples ++ samples') := by
  intro output
  obtain ⟨written, htext, hreads⟩ := hfirst output
  obtain ⟨written', htext', hreads'⟩ := hsecond (first output)
  refine ⟨written ++ written', ?_, hreads.append hreads'⟩
  rw [htext', htext, List.append_assoc]

theorem writes_foldl {α : Type} {write : String → α → String} {samples : α → List Sample}
    {items : List α} (h : ∀ item ∈ items, Writes (fun output => write output item) (samples item)) :
    Writes (fun output => items.foldl write output) (items.flatMap samples) := by
  induction items with
  | nil =>
      intro output
      exact ⟨[], (List.append_nil _).symm, Reads.nil⟩
  | cons item items ih =>
      exact (h item List.mem_cons_self).comp
        (ih fun other hother => h other (List.mem_cons_of_mem item hother))

/-! ## Headers and lines -/

/-- A header stays on its lines, and its metric has a name. -/
structure IsHeader (name help kind : String) : Prop where
  name : isMetricName name = true
  help : '\n' ∉ help.toList
  kind : '\n' ∉ kind.toList

theorem isHeader_ofList {name help kind : List Char}
    (h : isWord isNameStart isNameChar name = true ∧ '\n' ∉ help ∧ '\n' ∉ kind) :
    IsHeader (String.ofList name) (String.ofList help) (String.ofList kind) where
  name := isName_ofList h.1
  help := by
    rw [String.toList_ofList]
    exact h.2.1
  kind := by
    rw [String.toList_ofList]
    exact h.2.2

theorem writes_header {name help kind : String} (h : IsHeader name help kind) :
    Writes (fun output => writeLabeledHeader output name help kind) [] := by
  have hfeed := feed_not_mem_name h.name (by decide) (by decide)
  have hhelpLine : Reads ('#' :: (" HELP ".toList ++ name.toList ++ ' ' :: help.toList) ++ ['\n'])
      (none : Option Sample).toList :=
    reads_line (by simp [hfeed, h.help]) (readLine_comment _)
  have hkindLine : Reads ('#' :: (" TYPE ".toList ++ name.toList ++ ' ' :: kind.toList) ++ ['\n'])
      (none : Option Sample).toList :=
    reads_line (by simp [hfeed, h.kind]) (readLine_comment _)
  intro output
  refine ⟨_, ?_, hhelpLine.append hkindLine⟩
  unfold writeLabeledHeader
  simp

variable {F : Type} {asF64 : Nat → F} {formatPrometheusNumber : F → String} {value : F}
  {labels : List (String × String)} {label outer inner : String}
  {entries : OrdMap String (OrdMap String Nat)} {P : List (String × String) → F → Prop}

theorem writes_metric {name help kind : String} (h : IsHeader name help kind)
    (hnumber : isNumber (formatPrometheusNumber value) = true) :
    Writes (fun output => writeMetric formatPrometheusNumber output name help kind value)
      [⟨name, [], formatPrometheusNumber value, none⟩] := by
  have hline := reads_line (feed_not_mem_plainText h.name hnumber)
    (readLine_plainText h.name hnumber)
  intro output
  obtain ⟨written, htext, hreads⟩ := writes_header h output
  refine ⟨_, ?_, hreads.append hline⟩
  unfold writeMetric plainText
  simp [htext]

theorem writes_labeledMetric {name : String} (hname : isMetricName name = true)
    (hlabels : ∀ label ∈ labels, isLabelName label.1 = true)
    (hnumber : isNumber (formatPrometheusNumber value) = true) :
    Writes (fun output => writeLabeledMetric formatPrometheusNumber output name labels value)
      [⟨name, labels, formatPrometheusNumber value, none⟩] := by
  intro output
  exact ⟨_, toList_writeLabeledMetric output name labels value,
    reads_line (feed_not_mem_sampleText hname hlabels hnumber)
      (readLine_sampleText hname hlabels hnumber)⟩

/-! ## Rows -/

theorem mem_labeledRows {entries : OrdMap String F} :
    (labels, value) ∈ labeledRows label entries ↔
      ∃ key, entries.get? key = some value ∧ labels = [(label, key)] := by
  unfold labeledRows
  rw [List.mem_map]
  constructor
  · rintro ⟨⟨key, value'⟩, hmem, heq⟩
    obtain ⟨rfl, rfl⟩ := Prod.mk.inj heq
    exact ⟨key, OrdMap.mem_entries.mp hmem, rfl⟩
  · rintro ⟨key, hget, rfl⟩
    exact ⟨(key, value), OrdMap.mem_entries.mpr hget, rfl⟩

theorem mem_nestedRows {entries : OrdMap String (OrdMap String F)} :
    (labels, value) ∈ nestedRows outer inner entries ↔
      ∃ key innerEntries innerKey, entries.get? key = some innerEntries ∧
        innerEntries.get? innerKey = some value ∧
        labels = [(outer, key), (inner, innerKey)] := by
  unfold nestedRows
  rw [List.mem_flatMap]
  constructor
  · rintro ⟨⟨key, innerEntries⟩, hmem, hrow⟩
    obtain ⟨⟨innerKey, value'⟩, hinner, heq⟩ := List.mem_map.mp hrow
    obtain ⟨rfl, rfl⟩ := Prod.mk.inj heq
    exact ⟨key, innerEntries, innerKey, OrdMap.mem_entries.mp hmem,
      OrdMap.mem_entries.mp hinner, rfl⟩
  · rintro ⟨key, innerEntries, innerKey, hget, hinner, rfl⟩
    exact ⟨(key, innerEntries), OrdMap.mem_entries.mpr hget,
      List.mem_map.mpr ⟨(innerKey, value), OrdMap.mem_entries.mpr hinner, rfl⟩⟩

/-- Rows of a metric: their labels have names, there is at least one, and no two rows have the
same labels. -/
structure Regular (rows : List (List (String × String) × F)) : Prop where
  named : ∀ row ∈ rows, ∀ label ∈ row.1, isLabelName label.1 = true
  labeled : ∀ row ∈ rows, row.1 ≠ []
  distinct : (rows.map Prod.fst).Nodup

/-- A map has no key twice, so rows that tell keys apart have no labels twice. -/
theorem nodup_labels_entries {labelsOf : String → List (String × String)}
    (hinj : Function.Injective labelsOf) (entries : OrdMap String F) :
    ((entries.entries.map fun entry => (labelsOf entry.1, entry.2)).map Prod.fst).Nodup := by
  have heq : (entries.entries.map fun entry => (labelsOf entry.1, entry.2)).map Prod.fst =
      entries.keys.map labelsOf := by
    unfold OrdMap.keys
    rw [List.map_map, List.map_map]
    rfl
  rw [heq]
  exact entries.nodup_keys.map hinj

theorem regular_labeledRows (hlabel : isLabelName label = true) (entries : OrdMap String F) :
    Regular (labeledRows label entries) where
  named := by
    rintro ⟨labels, value⟩ hrow other hother
    obtain ⟨key, _, rfl⟩ := mem_labeledRows.mp hrow
    rw [List.mem_singleton.mp hother]
    exact hlabel
  labeled := by
    rintro ⟨labels, value⟩ hrow
    obtain ⟨key, _, rfl⟩ := mem_labeledRows.mp hrow
    exact List.cons_ne_nil _ _
  distinct := by
    have hinj : Function.Injective fun key : String => [(label, key)] :=
      fun key key' h => by simpa using h
    exact nodup_labels_entries hinj entries

theorem regular_nestedRows (houter : isLabelName outer = true) (hinner : isLabelName inner = true)
    (entries : OrdMap String (OrdMap String F)) :
    Regular (nestedRows outer inner entries) where
  named := by
    rintro ⟨labels, value⟩ hrow other hother
    obtain ⟨key, _, innerKey, _, _, rfl⟩ := mem_nestedRows.mp hrow
    rcases List.mem_cons.mp hother with rfl | hlast
    · exact houter
    · rw [List.mem_singleton.mp hlast]
      exact hinner
  labeled := by
    rintro ⟨labels, value⟩ hrow
    obtain ⟨key, _, innerKey, _, _, rfl⟩ := mem_nestedRows.mp hrow
    exact List.cons_ne_nil _ _
  distinct := by
    unfold nestedRows
    rw [List.map_flatMap, List.nodup_flatMap]
    constructor
    · intro entry _
      have hinj : Function.Injective
          fun innerKey : String => [(outer, entry.1), (inner, innerKey)] :=
        fun key key' h => by simpa using h
      exact nodup_labels_entries hinj entry.2
    · -- Rows of different outer keys differ in their first label.
      have hkeys : entries.entries.Pairwise fun entry other => entry.1 ≠ other.1 :=
        List.pairwise_map.mp entries.nodup_keys
      refine hkeys.imp fun {entry other} hne => ?_
      intro labels hmem hmem'
      simp only [List.map_map, List.mem_map] at hmem hmem'
      obtain ⟨innerEntry, _, rfl⟩ := hmem
      obtain ⟨innerEntry', _, heq⟩ := hmem'
      simp only [Function.comp_apply, List.cons.injEq, Prod.mk.injEq, true_and] at heq
      exact hne heq.1.symm

/-! ## The tables of metrics -/

variable {snapshot : RenderedSnapshot F}

theorem isHeader_scalarMetrics :
    ∀ metric ∈ scalarMetrics asF64 snapshot, IsHeader metric.name metric.help metric.kind := by
  unfold scalarMetrics
  simp only [List.forall_mem_cons, List.not_mem_nil, false_implies, implies_true, and_true]
  refine ⟨?_, ?_, ?_, ?_, ?_, ?_, ?_, ?_, ?_, ?_, ?_, ?_, ?_⟩ <;>
    exact isHeader_ofList (by decide +kernel)

theorem isHeader_labeledMetrics :
    ∀ metric ∈ labeledMetrics asF64 snapshot, IsHeader metric.name metric.help metric.kind := by
  unfold labeledMetrics
  simp only [List.forall_mem_cons, List.not_mem_nil, false_implies, implies_true, and_true]
  refine ⟨?_, ?_, ?_, ?_, ?_, ?_, ?_, ?_, ?_, ?_, ?_, ?_, ?_, ?_, ?_⟩ <;>
    exact isHeader_ofList (by decide +kernel)

theorem nodup_names_labeledMetrics :
    ((labeledMetrics asF64 snapshot).map LabeledMetric.name).Nodup := by
  unfold labeledMetrics
  simp only [List.map_cons, List.map_nil]
  decide +kernel

theorem regular_labeledMetrics :
    ∀ metric ∈ labeledMetrics asF64 snapshot, Regular metric.rows := by
  have houtcome : isLabelName "outcome" = true := isName_ofList (by decide +kernel)
  have hcategory : isLabelName "category" = true := isName_ofList (by decide +kernel)
  have hreason : isLabelName "reason" = true := isName_ofList (by decide +kernel)
  have hprovider : isLabelName "provider" = true := isName_ofList (by decide +kernel)
  have hpolicy : isLabelName "policy" = true := isName_ofList (by decide +kernel)
  unfold labeledMetrics
  simp only [List.forall_mem_cons, List.not_mem_nil, false_implies, implies_true, and_true]
  exact ⟨regular_labeledRows houtcome _, regular_labeledRows houtcome _,
    regular_labeledRows hcategory _, regular_labeledRows hreason _,
    regular_labeledRows hprovider _, regular_labeledRows hprovider _,
    regular_nestedRows hprovider hcategory _, regular_labeledRows hprovider _,
    regular_labeledRows hprovider _, regular_labeledRows hprovider _,
    regular_labeledRows hprovider _, regular_labeledRows hprovider _,
    regular_labeledRows hprovider _, regular_nestedRows hpolicy hreason _,
    regular_labeledRows houtcome _⟩

/-! ## The samples of the text -/

variable (formatPrometheusNumber)

def scalarSample (metric : ScalarMetric F) : Sample :=
  ⟨metric.name, [], formatPrometheusNumber metric.value, none⟩

def labeledSample (metric : LabeledMetric F) (row : List (String × String) × F) : Sample :=
  ⟨metric.name, row.1, formatPrometheusNumber row.2, none⟩

variable (asF64) (snapshot)

def scalarSamples : List Sample :=
  (scalarMetrics asF64 snapshot).map (scalarSample formatPrometheusNumber)

def labeledSamples : List Sample :=
  (labeledMetrics asF64 snapshot).flatMap fun metric =>
    metric.rows.map (labeledSample formatPrometheusNumber metric)

variable {asF64 formatPrometheusNumber} {snapshot}

theorem writes_labeledRows (hnumber : ∀ value, isNumber (formatPrometheusNumber value) = true)
    {metric : LabeledMetric F} (hmetric : metric ∈ labeledMetrics asF64 snapshot) :
    Writes (fun output => writeLabeledRows formatPrometheusNumber output metric)
      (metric.rows.map (labeledSample formatPrometheusNumber metric)) := by
  have hheader := isHeader_labeledMetrics metric hmetric
  have hregular := regular_labeledMetrics metric hmetric
  have hrows : ∀ row ∈ metric.rows,
      Writes (fun output =>
        writeLabeledMetric formatPrometheusNumber output metric.name row.1 row.2)
        [labeledSample formatPrometheusNumber metric row] := fun row hrow =>
    writes_labeledMetric hheader.name (hregular.named row hrow) (hnumber row.2)
  have hall := (writes_header hheader).comp (writes_foldl hrows)
  rw [List.nil_append, ← List.map_eq_flatMap] at hall
  exact hall

/-- The text is read as the numbers without labels and then those with labels. -/
theorem readText_renderPrometheus
    (hnumber : ∀ value, isNumber (formatPrometheusNumber value) = true)
    (snapshot : RenderedSnapshot F) :
    readText (renderPrometheus asF64 formatPrometheusNumber snapshot).toList =
      some (scalarSamples asF64 formatPrometheusNumber snapshot ++
        labeledSamples asF64 formatPrometheusNumber snapshot) := by
  have hscalar : ∀ metric ∈ scalarMetrics asF64 snapshot,
      Writes (fun output => writeScalarMetric formatPrometheusNumber output metric)
        [scalarSample formatPrometheusNumber metric] := fun metric hmetric =>
    writes_metric (isHeader_scalarMetrics metric hmetric) (hnumber metric.value)
  have hlabeled : ∀ metric ∈ labeledMetrics asF64 snapshot,
      Writes (fun output => writeLabeledRows formatPrometheusNumber output metric)
        (metric.rows.map (labeledSample formatPrometheusNumber metric)) :=
    fun metric hmetric => writes_labeledRows hnumber hmetric
  obtain ⟨written, htext, hreads⟩ := (writes_foldl hscalar).comp (writes_foldl hlabeled) ""
  rw [String.toList_empty, List.nil_append] at htext
  unfold renderPrometheus
  rw [htext, hreads.readText, ← List.map_eq_flatMap]
  rfl

/-! ## The series of a snapshot -/

/-- A metric, its labels and its number, as an entry of one of the maps. -/
inductive Exposes (asF64 : Nat → F) (snapshot : RenderedSnapshot F) :
    String → List (String × String) → F → Prop where
  | cacheLookups {outcome count} (h : snapshot.cacheLookupsByOutcome.get? outcome = some count) :
      Exposes asF64 snapshot "rustygate_cache_lookups_total" [("outcome", outcome)] (asF64 count)
  | streamOutcomes {outcome count}
      (h : snapshot.streamOutcomesByOutcome.get? outcome = some count) :
      Exposes asF64 snapshot "rustygate_stream_outcomes_total" [("outcome", outcome)] (asF64 count)
  | requestErrors {category count}
      (h : snapshot.requestErrorsByCategory.get? category = some count) :
      Exposes asF64 snapshot "rustygate_request_errors_total" [("category", category)]
        (asF64 count)
  | admissionRejections {reason count}
      (h : snapshot.admissionRejectionsByReason.get? reason = some count) :
      Exposes asF64 snapshot "rustygate_admission_rejections_total" [("reason", reason)]
        (asF64 count)
  | providerRequests {provider count} (h : snapshot.requestsByProvider.get? provider = some count) :
      Exposes asF64 snapshot "rustygate_provider_requests_total" [("provider", provider)]
        (asF64 count)
  | providerSuccesses {provider count}
      (h : snapshot.successesByProvider.get? provider = some count) :
      Exposes asF64 snapshot "rustygate_provider_successes_total" [("provider", provider)]
        (asF64 count)
  | providerErrors {provider categories category count}
      (h : snapshot.providerErrorsByProviderAndCategory.get? provider = some categories)
      (hcategory : categories.get? category = some count) :
      Exposes asF64 snapshot "rustygate_provider_errors_total"
        [("provider", provider), ("category", category)] (asF64 count)
  | avgLatency {provider latencyMs}
      (h : snapshot.avgLatencyMsByProvider.get? provider = some latencyMs) :
      Exposes asF64 snapshot "rustygate_provider_latency_ms_avg" [("provider", provider)] latencyMs
  | p95Latency {provider latencyMs}
      (h : snapshot.p95LatencyMsByProvider.get? provider = some latencyMs) :
      Exposes asF64 snapshot "rustygate_provider_latency_ms_p95" [("provider", provider)] latencyMs
  | inFlightRequests {provider count}
      (h : snapshot.inFlightRequestsByProvider.get? provider = some count) :
      Exposes asF64 snapshot "rustygate_provider_in_flight_requests" [("provider", provider)]
        (asF64 count)
  | p50Ttft {provider ttftMs} (h : snapshot.p50TtftMsByProvider.get? provider = some ttftMs) :
      Exposes asF64 snapshot "rustygate_provider_ttft_ms_p50" [("provider", provider)] ttftMs
  | p95Ttft {provider ttftMs} (h : snapshot.p95TtftMsByProvider.get? provider = some ttftMs) :
      Exposes asF64 snapshot "rustygate_provider_ttft_ms_p95" [("provider", provider)] ttftMs
  | queuePressure {provider pressure}
      (h : snapshot.queuePressureByProvider.get? provider = some pressure) :
      Exposes asF64 snapshot "rustygate_provider_queue_pressure" [("provider", provider)] pressure
  | routingDecisions {policy reasons reason count}
      (h : snapshot.routingDecisionsByPolicyAndReason.get? policy = some reasons)
      (hreason : reasons.get? reason = some count) :
      Exposes asF64 snapshot "rustygate_routing_decisions_total"
        [("policy", policy), ("reason", reason)] (asF64 count)
  | prefixFingerprints {outcome count}
      (h : snapshot.prefixFingerprintsByOutcome.get? outcome = some count) :
      Exposes asF64 snapshot "rustygate_prefix_fingerprints_total" [("outcome", outcome)]
        (asF64 count)

/-- The row of a count. -/
theorem mem_labeledCounts {label key : String} {entries : OrdMap String Nat} {count : Nat}
    (h : entries.get? key = some count) :
    ([(label, key)], asF64 count) ∈ labeledRows label (entries.map asF64) := by
  refine mem_labeledRows.mpr ⟨key, ?_, rfl⟩
  rw [OrdMap.get?_map, h]
  rfl

theorem mem_nestedCounts {outer inner key innerKey : String} {innerEntries : OrdMap String Nat}
    {count : Nat} (h : entries.get? key = some innerEntries)
    (hinner : innerEntries.get? innerKey = some count) :
    ([(outer, key), (inner, innerKey)], asF64 count) ∈
      nestedRows outer inner (entries.map (·.map asF64)) := by
  refine mem_nestedRows.mpr ⟨key, innerEntries.map asF64, innerKey, ?_, ?_, rfl⟩
  · rw [OrdMap.get?_map, h]
    rfl
  · rw [OrdMap.get?_map, hinner]
    rfl

/-- The tables have a row for every entry. -/
theorem exists_row_of_exposes {name : String} (h : Exposes asF64 snapshot name labels value) :
    ∃ metric ∈ labeledMetrics asF64 snapshot,
      metric.name = name ∧ (labels, value) ∈ metric.rows := by
  cases h with
  | cacheLookups h =>
      exact ⟨_, List.mem_of_getElem? (i := 0) rfl, rfl, mem_labeledCounts h⟩
  | streamOutcomes h =>
      exact ⟨_, List.mem_of_getElem? (i := 1) rfl, rfl, mem_labeledCounts h⟩
  | requestErrors h =>
      exact ⟨_, List.mem_of_getElem? (i := 2) rfl, rfl, mem_labeledCounts h⟩
  | admissionRejections h =>
      exact ⟨_, List.mem_of_getElem? (i := 3) rfl, rfl, mem_labeledCounts h⟩
  | providerRequests h =>
      exact ⟨_, List.mem_of_getElem? (i := 4) rfl, rfl, mem_labeledCounts h⟩
  | providerSuccesses h =>
      exact ⟨_, List.mem_of_getElem? (i := 5) rfl, rfl, mem_labeledCounts h⟩
  | providerErrors h hcategory =>
      exact ⟨_, List.mem_of_getElem? (i := 6) rfl, rfl, mem_nestedCounts h hcategory⟩
  | avgLatency h =>
      exact ⟨_, List.mem_of_getElem? (i := 7) rfl, rfl, mem_labeledRows.mpr ⟨_, h, rfl⟩⟩
  | p95Latency h =>
      exact ⟨_, List.mem_of_getElem? (i := 8) rfl, rfl, mem_labeledRows.mpr ⟨_, h, rfl⟩⟩
  | inFlightRequests h =>
      exact ⟨_, List.mem_of_getElem? (i := 9) rfl, rfl, mem_labeledCounts h⟩
  | p50Ttft h =>
      exact ⟨_, List.mem_of_getElem? (i := 10) rfl, rfl, mem_labeledRows.mpr ⟨_, h, rfl⟩⟩
  | p95Ttft h =>
      exact ⟨_, List.mem_of_getElem? (i := 11) rfl, rfl, mem_labeledRows.mpr ⟨_, h, rfl⟩⟩
  | queuePressure h =>
      exact ⟨_, List.mem_of_getElem? (i := 12) rfl, rfl, mem_labeledRows.mpr ⟨_, h, rfl⟩⟩
  | routingDecisions h hreason =>
      exact ⟨_, List.mem_of_getElem? (i := 13) rfl, rfl, mem_nestedCounts h hreason⟩
  | prefixFingerprints h =>
      exact ⟨_, List.mem_of_getElem? (i := 14) rfl, rfl, mem_labeledCounts h⟩

/-- A property of the entries of a map is one of its rows. -/
theorem forall_labeledRows {entries : OrdMap String F}
    (h : ∀ key value, entries.get? key = some value → P [(label, key)] value) :
    ∀ labels value, (labels, value) ∈ labeledRows label entries → P labels value := by
  intro labels value hmem
  obtain ⟨key, hget, rfl⟩ := mem_labeledRows.mp hmem
  exact h key value hget

theorem forall_labeledCounts {entries : OrdMap String Nat}
    (h : ∀ key count, entries.get? key = some count → P [(label, key)] (asF64 count)) :
    ∀ labels value, (labels, value) ∈ labeledRows label (entries.map asF64) →
      P labels value := by
  refine forall_labeledRows fun key value hget => ?_
  rw [OrdMap.get?_map] at hget
  obtain ⟨count, hcount, rfl⟩ := Option.map_eq_some_iff.mp hget
  exact h key count hcount

theorem forall_nestedCounts
    (h : ∀ key innerEntries innerKey count, entries.get? key = some innerEntries → innerEntries.get?
      innerKey = some count → P [(outer, key), (inner, innerKey)] (asF64 count)) :
    ∀ labels value, (labels, value) ∈ nestedRows outer inner (entries.map (·.map asF64)) →
      P labels value := by
  intro labels value hmem
  obtain ⟨key, _, innerKey, hget, hinner, rfl⟩ := mem_nestedRows.mp hmem
  rw [OrdMap.get?_map] at hget
  obtain ⟨innerEntries, hentries, rfl⟩ := Option.map_eq_some_iff.mp hget
  rw [OrdMap.get?_map] at hinner
  obtain ⟨count, hcount, rfl⟩ := Option.map_eq_some_iff.mp hinner
  exact h key innerEntries innerKey count hentries hcount

/-- The tables have no row that is not an entry. -/
theorem exposes_of_row :
    ∀ metric ∈ labeledMetrics asF64 snapshot, ∀ labels value, (labels, value) ∈ metric.rows →
      Exposes asF64 snapshot metric.name labels value := by
  unfold labeledMetrics
  simp only [List.forall_mem_cons, List.not_mem_nil, false_implies, implies_true, and_true]
  exact ⟨forall_labeledCounts fun _ _ => .cacheLookups,
    forall_labeledCounts fun _ _ => .streamOutcomes,
    forall_labeledCounts fun _ _ => .requestErrors,
    forall_labeledCounts fun _ _ => .admissionRejections,
    forall_labeledCounts fun _ _ => .providerRequests,
    forall_labeledCounts fun _ _ => .providerSuccesses,
    forall_nestedCounts fun _ _ _ _ => .providerErrors,
    forall_labeledRows fun _ _ => .avgLatency,
    forall_labeledRows fun _ _ => .p95Latency,
    forall_labeledCounts fun _ _ => .inFlightRequests,
    forall_labeledRows fun _ _ => .p50Ttft,
    forall_labeledRows fun _ _ => .p95Ttft,
    forall_labeledRows fun _ _ => .queuePressure,
    forall_nestedCounts fun _ _ _ _ => .routingDecisions,
    forall_labeledCounts fun _ _ => .prefixFingerprints⟩

/-- The attempts and the errors of a provider are exposed as the counters have them. -/
theorem exposes_rendered (s : MetricsSnapshot) (ofRat : ℚ → F) (providers : List String)
    (provider category : String) (count : Nat) :
    (s.requestsByProvider.lookup provider = some count →
      Exposes asF64 (s.rendered ofRat providers) "rustygate_provider_requests_total"
        [("provider", provider)] (asF64 count)) ∧
    (s.providerErrorsByProviderAndCategory.lookup (provider, category) = some count →
      Exposes asF64 (s.rendered ofRat providers) "rustygate_provider_errors_total"
        [("provider", provider), ("category", category)] (asF64 count)) := by
  constructor
  · intro h
    exact .providerRequests ((get?_listed _ _).trans h)
  · intro h
    obtain ⟨categories, hget, hcategory⟩ :=
      Option.bind_eq_some_iff.mp ((get?_listedPairs _ _ _).trans h)
    exact .providerErrors hget hcategory

/-! ## Labels are read as they were written -/

theorem mem_labeledSamples {sample : Sample} :
    sample ∈ labeledSamples asF64 formatPrometheusNumber snapshot ↔
      ∃ value, Exposes asF64 snapshot sample.name sample.labels value ∧
        sample.number = formatPrometheusNumber value ∧ sample.time = none := by
  unfold labeledSamples
  rw [List.mem_flatMap]
  constructor
  · rintro ⟨metric, hmetric, hsample⟩
    obtain ⟨⟨labels, value⟩, hrow, rfl⟩ := List.mem_map.mp hsample
    exact ⟨value, exposes_of_row metric hmetric labels value hrow, rfl, rfl⟩
  · rintro ⟨value, hexposes, hnumber, htime⟩
    obtain ⟨metric, hmetric, hname, hrow⟩ := exists_row_of_exposes hexposes
    refine ⟨metric, hmetric, List.mem_map.mpr ⟨(sample.labels, value), hrow, ?_⟩⟩
    unfold labeledSample
    rw [hname, ← hnumber, ← htime]

theorem labels_ne_nil_of_mem {sample : Sample}
    (h : sample ∈ labeledSamples asF64 formatPrometheusNumber snapshot) : sample.labels ≠ [] := by
  unfold labeledSamples at h
  obtain ⟨metric, hmetric, hsample⟩ := List.mem_flatMap.mp h
  obtain ⟨row, hrow, rfl⟩ := List.mem_map.mp hsample
  exact (regular_labeledMetrics metric hmetric).labeled row hrow

/-- Metrics differ in their names, and the rows of a metric in their labels. -/
theorem nodup_labeledSamples :
    ((labeledSamples asF64 formatPrometheusNumber snapshot).map fun sample =>
      (sample.name, sample.labels)).Nodup := by
  unfold labeledSamples
  rw [List.map_flatMap, List.nodup_flatMap]
  constructor
  · intro metric hmetric
    have hdistinct := (regular_labeledMetrics metric hmetric).distinct
    have heq : (metric.rows.map (labeledSample formatPrometheusNumber metric)).map
        (fun sample => (sample.name, sample.labels)) =
        (metric.rows.map Prod.fst).map fun labels => (metric.name, labels) := by
      rw [List.map_map, List.map_map]
      rfl
    rw [heq]
    exact hdistinct.map fun labels labels' h => (Prod.mk.inj h).2
  · have hnames : (labeledMetrics asF64 snapshot).Pairwise fun metric other =>
        metric.name ≠ other.name := List.pairwise_map.mp nodup_names_labeledMetrics
    refine hnames.imp fun {metric other} hne => ?_
    intro series hmem hmem'
    dsimp only at hmem hmem'
    rw [List.map_map] at hmem hmem'
    obtain ⟨row, _, rfl⟩ := List.mem_map.mp hmem
    obtain ⟨row', _, heq⟩ := List.mem_map.mp hmem'
    exact hne (Prod.mk.inj heq).1.symm

/-- A labelled line is one line, and it is read as the labels and the number that were written.
A rendered snapshot is read as numbers without labels and as the entries of its maps, each
once. -/
theorem labels_readBack {F : Type} (asF64 : Nat → F) (formatPrometheusNumber : F → String) :
    (∀ (output name : String) (labels : List (String × String)) (value : F),
      isMetricName name = true → (∀ label ∈ labels, isLabelName label.1 = true) →
      isNumber (formatPrometheusNumber value) = true →
      ∃ line, '\n' ∉ line ∧
        (writeLabeledMetric formatPrometheusNumber output name labels value).toList =
          output.toList ++ (line ++ ['\n']) ∧
        readLine line = some (some ⟨name, labels, formatPrometheusNumber value, none⟩)) ∧
    ((∀ value, isNumber (formatPrometheusNumber value) = true) →
      ∀ snapshot : RenderedSnapshot F, ∃ plain labeled,
        readText (renderPrometheus asF64 formatPrometheusNumber snapshot).toList =
          some (plain ++ labeled) ∧
        (∀ sample ∈ plain, sample.labels = []) ∧ (∀ sample ∈ labeled, sample.labels ≠ []) ∧
        (labeled.map fun sample => (sample.name, sample.labels)).Nodup ∧
        ∀ sample, sample ∈ labeled ↔
          ∃ value, Exposes asF64 snapshot sample.name sample.labels value ∧
            sample.number = formatPrometheusNumber value ∧ sample.time = none) := by
  constructor
  · intro output name labels value hname hlabels hnumber
    exact ⟨sampleText name labels (formatPrometheusNumber value),
      feed_not_mem_sampleText hname hlabels hnumber,
      toList_writeLabeledMetric output name labels value,
      readLine_sampleText hname hlabels hnumber⟩
  · intro hnumber snapshot
    refine ⟨scalarSamples asF64 formatPrometheusNumber snapshot,
      labeledSamples asF64 formatPrometheusNumber snapshot,
      readText_renderPrometheus hnumber snapshot, ?_, fun sample => labels_ne_nil_of_mem,
      nodup_labeledSamples, fun sample => mem_labeledSamples⟩
    intro sample hsample
    obtain ⟨metric, _, rfl⟩ := List.mem_map.mp hsample
    rfl

/-- The counters after an answer of a provider whose name has a quote, a backslash, a line feed
and a brace.  Numbers are shown by their last digit. -/
def quotedSnapshot : RenderedSnapshot (Fin 10) :=
  ((MetricsRegistry.record {} (.recordChatSuccess "a\"\x7d 1\n\\" {} ⟨0, 0, 0⟩ 5
    [⟨"a\"\x7d 1\n\\", 1, 5, true, false, none⟩])).snapshot).rendered
      (fun number => Fin.ofNat 10 number.floor.toNat) ["a\"\x7d 1\n\\"]

/-- Its line, and the whole text. -/
theorem labels_readBack_quotes :
    let sample : Sample :=
      ⟨"rustygate_provider_requests_total", [("provider", "a\"\x7d 1\n\\")], "1", none⟩
    (∃ line, '\n' ∉ line ∧
      (writeLabeledMetric (fun digit : Fin 10 => digit.val.repr) "" sample.name sample.labels
        1).toList = line ++ ['\n'] ∧ readLine line = some (some sample)) ∧
    ∃ plain labeled,
      readText (renderPrometheus (Fin.ofNat 10) (fun digit => digit.val.repr)
        quotedSnapshot).toList = some (plain ++ labeled) ∧ sample ∈ labeled := by
  intro sample
  have hname : isMetricName "rustygate_provider_requests_total" = true :=
    isName_ofList (by decide +kernel)
  have hlabel : isLabelName "provider" = true := isName_ofList (by decide +kernel)
  have hnumber : ∀ digit : Fin 10, isNumber digit.val.repr = true := by decide +kernel
  obtain ⟨hline, htext⟩ := labels_readBack (Fin.ofNat 10) fun digit : Fin 10 => digit.val.repr
  obtain ⟨plain, labeled, hread, -, -, -, hmem⟩ := htext hnumber quotedSnapshot
  refine ⟨hline "" _ _ 1 hname (by simpa [sample] using hlabel) (hnumber 1), plain, labeled, hread,
    (hmem sample).mpr ⟨1, ?_, rfl, rfl⟩⟩
  exact (exposes_rendered _ _ _ _ "" 1).1 (by decide +kernel)

end RustyGate
