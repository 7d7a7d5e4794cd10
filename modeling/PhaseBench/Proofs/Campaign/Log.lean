import Mathlib
import PhaseBench.Campaign

/-!
# Call logs

The replies that an invoker gave are determined by the calls that were made and the
state they started from: `Bench.replay` makes the calls of a log again and puts the
reply beside each, `Bench.after` is the state they leave. Everything that is said
about a campaign is said about the replay of its log.

Two things can be true of the calls that a campaign is about to make: none of the
replies stops it (`Bench.GoesOn`), or there is a first failure and the policy is to
stop there (`Bench.Stops`). `goesOn_or_stops` says that there is no third way, and
both are read off a log in parts (`goesOn_append`, `Stops.append_cases`).
-/

namespace PhaseBench

universe u

/-- A call and the reply that it got. -/
structure Exchange where
  call : Call
  reply : Except Trace String

namespace Exchange

/-- Holds for a call that failed. -/
def failed (exchange : Exchange) : Bool :=
  match exchange.reply with
  | .ok _ => false
  | .error _ => true

/-- The sample that a call gives to a phase: the reading of its output, zero when it
failed. -/
def sample (exchange : Exchange) (metric : Metric) : Nat :=
  match exchange.reply with
  | .ok output => (Report.extract output).get metric
  | .error _ => 0

end Exchange

/-- What a log holds about a cell: for every phase the samples of the calls of the cell, in
the order of the calls. -/
def recorded (log : List Exchange) (call : Call) : Metrics (List Nat) :=
  PerMetric.ofFn fun metric => some ((log.filter (·.call = call)).map (·.sample metric))

theorem filter_call_eq_nil {log : List Exchange} {call : Call}
    (absent : call ∉ log.map (·.call)) : log.filter (·.call = call) = [] := by
  rw [List.filter_eq_nil_iff]
  intro exchange member same
  exact absent (List.mem_map.mpr ⟨exchange, member, by simpa using same⟩)

theorem recorded_append_left {first second : List Exchange} {call : Call}
    (absent : call ∉ second.map (·.call)) :
    recorded (first ++ second) call = recorded first call := by
  simp [recorded, filter_call_eq_nil absent]

theorem recorded_append_right {first second : List Exchange} {call : Call}
    (absent : call ∉ first.map (·.call)) :
    recorded (first ++ second) call = recorded second call := by
  simp [recorded, filter_call_eq_nil absent]

namespace Bench

variable {σ : Type u} (bench : Bench σ)

/-! ## Replay -/

/-- The state that the calls of a log leave. -/
def after : List Call → σ → σ
  | [], state => state
  | call :: calls, state => after calls (bench.invoker call state).2

/-- The calls of a log with their replies. -/
def replay : List Call → σ → List Exchange
  | [], _ => []
  | call :: calls, state =>
    ⟨call, (bench.invoker call state).1⟩ :: replay calls (bench.invoker call state).2

@[simp]
theorem after_nil (state : σ) : bench.after [] state = state := rfl

@[simp]
theorem after_cons (call : Call) (calls : List Call) (state : σ) :
    bench.after (call :: calls) state = bench.after calls (bench.invoker call state).2 := rfl

@[simp]
theorem after_append (first second : List Call) (state : σ) :
    bench.after (first ++ second) state = bench.after second (bench.after first state) := by
  induction first generalizing state with
  | nil => rfl
  | cons call calls ih => exact ih _

@[simp]
theorem replay_nil (state : σ) : bench.replay [] state = [] := rfl

@[simp]
theorem replay_cons (call : Call) (calls : List Call) (state : σ) :
    bench.replay (call :: calls) state =
      ⟨call, (bench.invoker call state).1⟩ :: bench.replay calls (bench.invoker call state).2 := rfl

@[simp]
theorem replay_append (first second : List Call) (state : σ) :
    bench.replay (first ++ second) state =
      bench.replay first state ++ bench.replay second (bench.after first state) := by
  induction first generalizing state with
  | nil => rfl
  | cons call calls ih =>
      rw [List.cons_append, replay_cons, replay_cons, ih]
      rfl

@[simp]
theorem map_call_replay (calls : List Call) (state : σ) :
    (bench.replay calls state).map (·.call) = calls := by
  induction calls generalizing state with
  | nil => rfl
  | cons call calls ih => rw [replay_cons, List.map_cons, ih]

@[simp]
theorem length_replay (calls : List Call) (state : σ) :
    (bench.replay calls state).length = calls.length := by
  rw [← List.length_map (·.call), map_call_replay]

/-- A cell owns as many exchanges of a replay as it has calls in the log. -/
theorem length_filter_replay (calls : List Call) (state : σ) (call : Call) :
    ((bench.replay calls state).filter (·.call = call)).length = calls.count call := by
  have counted := congrArg (List.count call) (bench.map_call_replay calls state)
  rw [← counted, List.count, List.countP_map, List.countP_eq_length_filter]
  congr 2

/-! ## Going on and stopping -/

/-- No reply along the calls stops a campaign: under the policy to stop, none of them
failed. -/
def GoesOn (policy : FailurePolicy) (calls : List Call) (state : σ) : Prop :=
  policy = .abort → ∀ exchange ∈ bench.replay calls state, exchange.failed = false

/-- The policy is to stop, and the first failure along the calls is that of `call`, after
the calls `before`. -/
structure Stops (policy : FailurePolicy) (calls : List Call) (state : σ)
    (before : List Call) (call : Call) (trace : Trace) : Prop where
  policy_eq : policy = .abort
  isPrefix : before ++ [call] <+: calls
  earlier : ∀ exchange ∈ bench.replay before state, exchange.failed = false
  reply_eq : (bench.invoker call (bench.after before state)).1 = .error trace

variable {bench} {policy : FailurePolicy} {state : σ}

theorem goesOn_zero (calls : List Call) : bench.GoesOn .zero calls state :=
  fun stopping => FailurePolicy.noConfusion stopping

theorem goesOn_append {first second : List Call} :
    bench.GoesOn policy (first ++ second) state ↔
      bench.GoesOn policy first state ∧
        bench.GoesOn policy second (bench.after first state) := by
  constructor
  · intro onward
    refine ⟨fun stopping exchange member => ?_, fun stopping exchange member => ?_⟩
    · exact onward stopping exchange (by simp [member])
    · exact onward stopping exchange (by simp [member])
  · rintro ⟨onFirst, onSecond⟩ stopping exchange member
    rw [replay_append, List.mem_append] at member
    rcases member with member | member
    · exact onFirst stopping exchange member
    · exact onSecond stopping exchange member

/-- A call that succeeds before calls that do. -/
theorem quiet_cons {call : Call} {calls : List Call} {output : String}
    (answer : (bench.invoker call state).1 = .ok output)
    (quiet : ∀ exchange ∈ bench.replay calls (bench.invoker call state).2,
      exchange.failed = false) :
    ∀ exchange ∈ bench.replay (call :: calls) state, exchange.failed = false := by
  intro exchange member
  rw [replay_cons, List.mem_cons] at member
  rcases member with rfl | member
  · simp [Exchange.failed, answer]
  · exact quiet exchange member

/-- Under the policy to stop there is a first failure as soon as there is one. -/
theorem goesOn_or_stops (bench : Bench σ) (policy : FailurePolicy) (calls : List Call)
    (state : σ) :
    bench.GoesOn policy calls state ∨
      ∃ before call trace, bench.Stops policy calls state before call trace := by
  cases policy with
  | zero => exact .inl (goesOn_zero calls)
  | abort =>
      induction calls generalizing state with
      | nil => exact .inl fun _ _ member => absurd member (by simp)
      | cons call calls ih =>
          cases answer : (bench.invoker call state).1 with
          | error trace =>
              exact .inr ⟨[], call, trace, rfl, by simp, by simp, answer⟩
          | ok output =>
              rcases ih (bench.invoker call state).2 with onward | ⟨before, other, trace, stop⟩
              · exact .inl fun stopping => quiet_cons answer (onward stopping)
              · right
                refine ⟨call :: before, other, trace, rfl, ?_, quiet_cons answer stop.earlier,
                  stop.reply_eq⟩
                rw [List.cons_append, List.prefix_cons_inj]
                exact stop.isPrefix

/-- A log in two parts stops in the first part, or goes on through it and stops in the
second. -/
theorem Stops.append_cases {first second before : List Call} {call : Call} {trace : Trace}
    (stop : bench.Stops policy (first ++ second) state before call trace) :
    bench.Stops policy first state before call trace ∨
      bench.GoesOn policy first state ∧ ∃ later, before = first ++ later ∧
        bench.Stops policy second (bench.after first state) later call trace := by
  obtain ⟨unmade, whole⟩ := stop.isPrefix
  rcases List.append_eq_append_iff.mp whole with ⟨rest, inFirst, -⟩ | ⟨rest, split, inSecond⟩
  · exact .inl ⟨stop.policy_eq, ⟨rest, inFirst.symm⟩, stop.earlier, stop.reply_eq⟩
  · rcases List.eq_nil_or_concat rest with rfl | ⟨later, last, rfl⟩
    · -- The whole first part, its last call included, is `before ++ [call]`.
      left
      rw [List.append_nil] at split
      exact ⟨stop.policy_eq, by rw [split], stop.earlier, stop.reply_eq⟩
    · right
      rw [List.concat_eq_append, ← List.append_assoc] at split
      obtain ⟨rfl, lastEq⟩ := List.append_inj' split rfl
      obtain rfl : call = last := by simpa using lastEq
      have quiet := stop.earlier
      refine ⟨fun _ exchange member => quiet exchange (by simp [member]), later, rfl,
        stop.policy_eq, ?_, fun exchange member => quiet exchange (by simp [member]), ?_⟩
      · exact ⟨unmade, by simp [inSecond]⟩
      · simpa using stop.reply_eq

theorem Stops.call_mem {calls before : List Call} {call : Call} {trace : Trace}
    (stop : bench.Stops policy calls state before call trace) : call ∈ calls :=
  stop.isPrefix.subset (by simp)

/-- Stopping is a matter of the calls that are made. -/
theorem Stops.own {calls before : List Call} {call : Call} {trace : Trace}
    (stop : bench.Stops policy calls state before call trace) :
    bench.Stops policy (before ++ [call]) state before call trace :=
  ⟨stop.policy_eq, List.prefix_rfl, stop.earlier, stop.reply_eq⟩

theorem Stops.not_goesOn {calls before : List Call} {call : Call} {trace : Trace}
    (stop : bench.Stops policy calls state before call trace) :
    ¬ bench.GoesOn policy calls state := by
  intro onward
  obtain ⟨rest, rfl⟩ := stop.isPrefix
  have quiet := onward stop.policy_eq ⟨call, .error trace⟩
  rw [replay_append, replay_append, replay_cons, stop.reply_eq] at quiet
  simp [Exchange.failed] at quiet

end Bench

end PhaseBench
