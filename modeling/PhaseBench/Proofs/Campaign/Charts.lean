import PhaseBench.Proofs.Campaign.Failure
import PhaseBench.Proofs.Chart.Ragged
import PhaseBench.Proofs.Table.Mean

/-!
# The charts of a campaign

A mean is not a number when there are no samples, and a chart cannot be shown when a
series is short. Neither happens after a campaign that succeeds: every cell has as
many samples as there are runs, at least one and few enough to be counted exactly
(`fits_of_mem`), every sample is a word (`Exchange.sample_le`), and every series of a
chart has a value for every file that was listed. `run_charts_complete` puts these
together.
-/

namespace PhaseBench

universe u

variable {σ : Type u}

/-! ## Samples -/

theorem Report.reading_le (text : List Char) (metric : Metric) :
    Report.reading text metric ≤ 2 ^ 64 := by
  unfold Report.reading
  split
  · unfold Report.valueOf
    split
    · split
      · next inside => exact Nat.le_of_lt inside
      · exact Nat.zero_le _
    · exact Nat.zero_le _
  · exact Nat.zero_le _

namespace Exchange

/-- Holds when the output of a call reports a phase. -/
def reports (exchange : Exchange) (metric : Metric) : Bool :=
  match exchange.reply with
  | .ok output => (Report.digits? metric output.toList).isSome
  | .error _ => false

/-- Samples are words. -/
theorem sample_le (exchange : Exchange) (metric : Metric) : exchange.sample metric ≤ 2 ^ 64 := by
  unfold sample
  split
  · rw [Report.extract, PerMetric.get_ofFn]
    exact Report.reading_le _ metric
  · exact Nat.zero_le _

theorem sample_eq_zero {exchange : Exchange} {metric : Metric}
    (silent : exchange.reports metric = false) : exchange.sample metric = 0 := by
  unfold reports at silent
  unfold sample
  split
  · next output answer =>
      rw [answer] at silent
      have absent : Report.digits? metric output.toList = none := by simpa using silent
      rw [Report.extract, PerMetric.get_ofFn, Report.reading, absent]
      rfl
  · rfl

end Exchange

/-! ## Room for samples -/

namespace Bench

variable {bench : Bench σ} {plan : Plan} {state final : σ} {visits : List Visit}

/-- Where the first listing is empty no call is ever made, so the others are empty too. -/
theorem Walk.files_eq_nil (walk : bench.Walk plan state visits final)
    (empty : (bench.tree state).inputFiles plan.dir = .ok []) :
    ∀ visit ∈ visits, visit.files = [] := by
  induction walk with
  | done => exact fun _ member => absurd member (by simp)
  | @visit state final visit visits listing walk ih =>
      have none_here : visit.files = [] := by
        rw [empty] at listing
        exact (Except.ok.inj listing).symm
      have unchanged : bench.after (visit.calls plan.runs) state = state := by
        rw [Visit.calls, none_here]
        rfl
      intro other member
      rcases List.mem_cons.mp member with rfl | later
      · exact none_here
      · exact ih (by rw [unchanged]; exact empty) other later

/-- A campaign that visits a file has room for the samples of a cell. -/
theorem fits_of_mem {outcome : Outcome σ SampleTable} {visit : Visit} {file : InputFile}
    (returned : bench.run? plan state = some outcome)
    (walk : bench.Walk plan state visits final)
    (visited : visits.map (·.configuration) = plan.configurations)
    (inside : visit ∈ visits) (member : file ∈ visit.files) : plan.runs < 2 ^ 60 := by
  by_contra full
  cases walk with
  | done => exact absurd inside (by simp)
  | @visit _ _ first later listing rest =>
      rcases files : first.files with _ | ⟨one, others⟩
      · have whole : bench.Walk plan state (first :: later) final := .visit listing rest
        rw [files] at listing
        rw [whole.files_eq_nil listing visit inside] at member
        exact absurd member (by simp)
      · rw [files] at listing
        have beyond : Memory.largest.room < plan.runs := by
          rw [Memory.room_largest]
          omega
        have crowded : bench.Crowded .largest plan state :=
          ⟨by simp [← visited], beyond, one, others, listing⟩
        rw [run?_eq_none_iff.mpr crowded] at returned
        cases returned

end Bench

/-! ## Means and charts of a walk -/

namespace Visit

/-- The inputs of a visit in the summary of the table that a log describes. -/
def means (log : List Exchange) (visit : Visit) : Inputs Double :=
  visit.files.map fun file =>
    (file.name, PerMetric.ofFn fun metric =>
      some (mean ((log.filter (·.call = visit.cell file)).map (·.sample metric))))

theorem map_means_fst (log : List Exchange) (visit : Visit) :
    (visit.means log).map (·.1) = visit.files.map (·.name) := by
  rw [means, List.map_map]
  rfl

end Visit

theorem summarize_entries (log : List Exchange) (visits : List Visit) :
    (SampleTable.summarize ⟨visits.map (Visit.entry log)⟩).entries =
      visits.map fun visit => (visit.configuration, visit.means log) := by
  simp only [SampleTable.summarize, Table.map, List.map_map]
  apply List.map_congr_left
  intro visit _
  simp only [Function.comp_apply, Visit.entry, Visit.means, List.map_map, recorded]
  rfl

/-- A value of a summary: the mean of its samples is a number from zero up to 2^64, and zero
only when all samples are. -/
structure SoundMean (samples : List Nat) (value : Double) : Prop where
  eq_mean : value = mean samples
  finite : ∃ index, value = .finite false index ∧ Double.units index ≤ 2 ^ 64 * Double.one
  zero_iff : value = Double.zero ↔ ∀ sample ∈ samples, sample = 0

/-- The chart of a visit: it has a group for every file that was listed, and in every group
a value and a caption of every phase. -/
structure Visit.Charted (visit : Visit) (chart : Chart) : Prop where
  title_eq : chart.title = Chart.titleOf visit.configuration
  categories_eq : chart.categories = visit.files.map (·.name)
  metrics_eq : chart.series.map (·.metric) = Metric.all
  filled : ∀ series ∈ chart.series,
    series.values.length = visit.files.length ∧ series.captions.length = visit.files.length
  /-- The chart can be shown. -/
  shown : ∃ text, chart.text? = some text
  /-- In the document every series has a bar with its caption for every file, and there is no
  rectangle but these, the background and three marks in the legend. -/
  drawn : ∃ lines, chart.svg = Text.unlines lines ∧
    (∀ place series, chart.series[place]? = some series → ∀ group < visit.files.length,
      ∃ value caption, series.values[group]? = some value ∧
        series.captions[group]? = some caption ∧
        ∀ t < 2, lines[chart.barsFrom place + 2 * group + t]? =
          (Chart.barLines chart.scale series (Chart.color place) value caption group)[t]?) ∧
    lines.countP Chart.isRectangle = 3 * visit.files.length + 4

theorem charted_ofInputs {visit : Visit} {inputs : Inputs Double}
    (names : inputs.map (·.1) = visit.files.map (·.name)) :
    visit.Charted (Chart.ofInputs visit.configuration inputs) := by
  have length : inputs.length = visit.files.length := by
    simpa using congrArg List.length names
  have filled : ∀ series ∈ (Chart.ofInputs visit.configuration inputs).series,
      series.values.length = visit.files.length ∧ series.captions.length = visit.files.length :=
    length ▸ Chart.filled_ofInputs
  refine ⟨rfl, names, rfl, filled, Chart.text?_ofInputs _ inputs,
    (Chart.ofInputs visit.configuration inputs).svgLines, rfl, ?_, ?_⟩
  · intro place series here group inside
    obtain ⟨values, captions⟩ := filled series (List.mem_of_getElem? here)
    have valueAt := List.getElem?_eq_getElem (values ▸ inside)
    have captionAt := List.getElem?_eq_getElem (captions ▸ inside)
    exact ⟨_, _, valueAt, captionAt,
      fun t two => Chart.getElem?_svgLines_bar here valueAt captionAt two⟩
  · rw [Chart.countP_svgLines_ofInputs, length]

theorem forall₂_charted (log : List Exchange) (visits : List Visit) :
    List.Forall₂ Visit.Charted visits
      (Chart.ofSummary (SampleTable.summarize ⟨visits.map (Visit.entry log)⟩)) := by
  rw [Chart.ofSummary, summarize_entries, List.map_map, List.forall₂_map_right_iff,
    List.forall₂_same]
  intro visit _
  exact charted_ofInputs (visit.map_means_fst log)

theorem soundMean_samples {log : List Exchange} (metric : Metric) (some : 0 < log.length)
    (few : log.length ≤ 2 ^ 64) :
    SoundMean (log.map (·.sample metric)) (mean (log.map (·.sample metric))) := by
  have words : ∀ sample ∈ log.map (·.sample metric), sample ≤ 2 ^ 64 := by
    intro sample member
    obtain ⟨exchange, -, rfl⟩ := List.mem_map.mp member
    exact exchange.sample_le metric
  have counted : (log.map (·.sample metric)).length = log.length := List.length_map _
  obtain ⟨index, value, -, bound⟩ := mean_eq_finite (counted ▸ some) (counted ▸ few) words
  exact ⟨rfl, ⟨index, value, bound⟩, mean_eq_zero_iff (counted ▸ some) (counted ▸ few) words⟩

/-- After a campaign that succeeds every mean is a number from zero up to 2^64, and every
chart is complete. -/
theorem run_charts_complete (bench : Bench σ) (plan : Plan) (state : σ)
    (outcome : Outcome σ SampleTable) (table : SampleTable)
    (returned : bench.run? plan state = some outcome) (ok : outcome.result = .ok table) :
    ∃ visits, bench.Walk plan state visits outcome.state ∧
      visits.map (·.configuration) = plan.configurations ∧
      -- Every value of the summary is the mean of as many samples as there are runs.
      (∀ entry ∈ table.summarize.entries, ∀ input ∈ entry.2, ∀ metric, ∃ samples value,
        table.value? entry.1 input.1 metric = some samples ∧ samples.length = plan.runs ∧
        input.2.get metric = some value ∧ SoundMean samples value ∧
        -- It is zero where no output of the cell reports the phase.
        ((∀ exchange ∈ bench.replay outcome.calls state,
            exchange.call = ⟨entry.1, Path.join plan.dir input.1⟩ →
            exchange.reports metric = false) → value = Double.zero)) ∧
      -- There is one chart for each configuration, in the given order.
      List.Forall₂ Visit.Charted visits (Chart.ofSummary table.summarize) := by
  obtain rfl := Bench.eq_run_of_run? returned
  obtain ⟨visits, walk, visited, calls, -, rfl⟩ := Bench.completed_of_ok ok
  refine ⟨visits, walk, visited, ?_, forall₂_charted _ visits⟩
  have distinct : (visits.map (·.configuration)).Nodup := visited ▸ plan.distinct
  intro entry summarized input among metric
  rw [summarize_entries] at summarized
  obtain ⟨visit, inside, rfl⟩ := List.mem_map.mp summarized
  obtain ⟨file, member, rfl⟩ := List.mem_map.mp among
  have listed := walk.listed visit inside
  have runs : ((bench.replay (bench.run plan state).calls state).filter
      (·.call = visit.cell file)).length = plan.runs := by
    rw [Bench.length_filter_replay, calls, count_visitCalls distinct walk.listed inside member]
  have room := Bench.fits_of_mem returned walk visited inside member
  have sound := soundMean_samples metric (runs ▸ plan.runs_pos) (by rw [runs]; omega)
  refine ⟨_, _, value?_entries distinct listed inside member metric, ?_,
    PerMetric.get_ofFn _ metric, sound, ?_⟩
  · rw [List.length_map, runs]
  · intro silent
    rw [sound.zero_iff]
    intro sample taken
    obtain ⟨exchange, own, rfl⟩ := List.mem_map.mp taken
    obtain ⟨made, call⟩ := List.mem_filter.mp own
    refine Exchange.sample_eq_zero (silent exchange made ?_)
    rw [decide_eq_true_iff.mp call, Visit.cell, listed.path_eq file member]

theorem Sample.run?_zero : ∃ outcome table,
    Sample.bench.run? (Sample.plan .zero) (Sample.tree, 0) = some outcome ∧
      outcome.result = .ok table := by
  obtain ⟨table, ok⟩ := Sample.run_zero
  exact ⟨_, table, Bench.run?_of_fits (by decide), ok⟩

/-- A campaign in which a call fails and another takes a file away: the chart of the second
configuration has one group less. -/
theorem run_charts_complete_changing :
    ∃ outcome table, Sample.bench.run? (Sample.plan .zero) (Sample.tree, 0) = some outcome ∧
      outcome.result = .ok table ∧
      (∀ entry ∈ table.summarize.entries, ∀ input ∈ entry.2, ∀ metric, ∃ samples value,
        table.value? entry.1 input.1 metric = some samples ∧ samples.length = 2 ∧
        input.2.get metric = some value ∧ SoundMean samples value) ∧
      List.Forall₂ Visit.Charted Sample.visits (Chart.ofSummary table.summarize) := by
  obtain ⟨outcome, table, returned, ok⟩ := Sample.run?_zero
  obtain ⟨visits, walk, visited, values, charted⟩ := run_charts_complete Sample.bench
    (Sample.plan .zero) (Sample.tree, 0) outcome table returned ok
  have same : visits.map (·.configuration) = Sample.visits.map (·.configuration) ++ [] := visited
  obtain ⟨later, rfl, -⟩ := (Sample.walk .zero).split walk same
  obtain rfl : later = [] := by simpa using same
  rw [List.append_nil] at charted
  refine ⟨outcome, table, returned, ok, ?_, charted⟩
  intro entry summarized input among metric
  obtain ⟨samples, value, found, runs, here, sound, -⟩ :=
    values entry summarized input among metric
  exact ⟨samples, value, found, runs, here, sound⟩

end PhaseBench
