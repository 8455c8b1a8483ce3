import LoraNetwork.Adr.History
import Mathlib.Data.List.Destutter
import Mathlib.Data.List.DropRight

/-!
# The window of recent uplinks

What a history keeps of the uplinks that were recorded, over any sequence of operations. Each is
looked at as it comes: it may start a new data rate, it may have the counter of the one before, and
it may push out the oldest. Seen from the end of the sequence this is a window. Of the uplinks since
the data rate changed or everything was forgotten, those that repeat the counter of the one kept
before them are left out, and of the others the history keeps the last, as many as it has room for.
-/

namespace LoraNetwork

/-- An uplink as it is recorded. -/
structure RecordedUplink where
  /-- What the history keeps of it. -/
  sample : UplinkSample
  /-- Its data rate index. -/
  dataRate : UInt8

/-- Something that is done to a history. -/
inductive HistoryOperation where
  /-- An uplink is recorded. -/
  | record (uplink : RecordedUplink)
  /-- Everything is forgotten. -/
  | clear

namespace UplinkHistory

@[simp] theorem capacity_atRate (history : UplinkHistory) (dataRate : UInt8) :
    (history.atRate dataRate).capacity = history.capacity := by
  unfold atRate
  split <;> rfl

@[simp] theorem dataRate_atRate (history : UplinkHistory) (dataRate : UInt8) :
    (history.atRate dataRate).dataRate = some dataRate := by
  unfold atRate
  split
  · assumption
  · rfl

@[simp] theorem capacity_push (history : UplinkHistory) (sample : UplinkSample) :
    (history.push sample).capacity = history.capacity := by
  unfold push
  split <;> rfl

@[simp] theorem dataRate_push (history : UplinkHistory) (sample : UplinkSample) :
    (history.push sample).dataRate = history.dataRate := by
  unfold push
  split <;> rfl

end UplinkHistory

namespace HistoryOperation

/-- The history after an operation. -/
def applyTo (history : UplinkHistory) : HistoryOperation → UplinkHistory
  | record uplink => history.record uplink.sample.counter uplink.sample.snr uplink.dataRate
  | clear => history.clear

/-- The history after operations, one after the other, when it was empty before. -/
def run (capacity : Nat) (operations : List HistoryOperation) : UplinkHistory :=
  operations.foldl applyTo (.empty capacity)

/-- The uplink that is recorded, if one is. -/
def recorded : HistoryOperation → Option RecordedUplink
  | record uplink => some uplink
  | clear => none

/-- The data rate that holds after an operation. -/
def dataRate (operation : HistoryOperation) : Option UInt8 :=
  operation.recorded.map RecordedUplink.dataRate

@[simp] theorem dataRate_record (uplink : RecordedUplink) :
    (record uplink).dataRate = some uplink.dataRate := rfl

@[simp] theorem dataRate_clear : clear.dataRate = none := rfl

variable {capacity : Nat} {operations : List HistoryOperation} {uplink : RecordedUplink}

/-! ## The uplinks that count -/

/-- The data rate that holds after operations. -/
def lastRate (operations : List HistoryOperation) : Option UInt8 :=
  operations.getLast?.bind dataRate

/-- The uplinks that were recorded since everything was forgotten or the data rate changed. -/
def period (operations : List HistoryOperation) : List RecordedUplink :=
  (operations.rtakeWhile fun operation => operation.dataRate = lastRate operations).filterMap
    recorded

/-- The uplinks without those that have the counter of the one kept before them. -/
def distinct (uplinks : List RecordedUplink) : List RecordedUplink :=
  uplinks.destutter fun kept next => kept.sample.counter ≠ next.sample.counter

@[simp] theorem distinct_nil : distinct [] = [] := rfl

@[simp] theorem lastRate_concat (operation : HistoryOperation) :
    lastRate (operations ++ [operation]) = operation.dataRate := by
  simp [lastRate]

/-- Nothing counts after everything was forgotten. -/
@[simp] theorem period_concat_clear : period (operations ++ [clear]) = [] := by
  refine List.filterMap_eq_nil_iff.mpr fun operation hmem => ?_
  have hrate := List.mem_rtakeWhile_imp hmem
  cases operation with
  | record uplink => simp at hrate
  | clear => rfl

/-- An uplink counts together with those before it if it keeps their data rate. -/
theorem period_concat_record (operations : List HistoryOperation) (uplink : RecordedUplink) :
    period (operations ++ [record uplink]) =
      (if lastRate operations = some uplink.dataRate then period operations else []) ++
        [uplink] := by
  have hrate : lastRate (operations ++ [record uplink]) = some uplink.dataRate :=
    lastRate_concat _
  unfold period
  rw [hrate, List.rtakeWhile_concat_pos _ _ _ (by simp), List.filterMap_append]
  congr 1
  split
  · rename_i hsame
    rw [hsame]
  · rename_i hchanged
    have hnone : (operations.rtakeWhile fun operation =>
        operation.dataRate = some uplink.dataRate) = [] := by
      refine List.rtakeWhile_eq_nil_iff.mpr fun hne hlast => hchanged ?_
      simpa [lastRate, List.getLast?_eq_getLast_of_ne_nil hne] using hlast
    rw [hnone]
    rfl

/-- All of them have the data rate that holds. -/
theorem dataRate_of_mem_period (h : uplink ∈ period operations) :
    lastRate operations = some uplink.dataRate := by
  obtain ⟨operation, hmem, hrecorded⟩ := List.mem_filterMap.mp h
  have hrate : operation.dataRate = lastRate operations := by
    simpa using List.mem_rtakeWhile_imp hmem
  rw [← hrate, dataRate, hrecorded]
  rfl

/-- No data rate holds without an uplink that has it. -/
theorem lastRate_of_period_eq_nil (h : period operations = []) : lastRate operations = none := by
  induction operations using List.reverseRecOn with
  | nil => rfl
  | append_singleton earlier operation ih =>
    cases operation with
    | record uplink => simp [period_concat_record] at h
    | clear => exact lastRate_concat _

/-- What is left of uplinks from one on, when another follows. -/
theorem destutter'_concat {α : Type} (R : α → α → Prop) [DecidableRel R] (first next : α)
    (rest : List α) :
    ∃ kept, (rest.destutter' R first).getLast? = some kept ∧
      (rest ++ [next]).destutter' R first =
        rest.destutter' R first ++ (if R kept next then [next] else []) := by
  induction rest generalizing first with
  | nil =>
    refine ⟨first, rfl, ?_⟩
    by_cases h : R first next <;> simp [h]
  | cons second rest ih =>
    by_cases h : R first second
    · obtain ⟨kept, hlast, hrest⟩ := ih second
      refine ⟨kept, ?_, ?_⟩
      · rw [List.destutter'_cons_pos _ h, List.getLast?_cons, hlast]
        rfl
      · rw [List.cons_append, List.destutter'_cons_pos _ h, List.destutter'_cons_pos _ h, hrest,
          List.cons_append]
    · rw [List.cons_append, List.destutter'_cons_neg _ h, List.destutter'_cons_neg _ h]
      exact ih first

/-- One more uplink is left out if it has the counter of the last one kept. -/
theorem distinct_concat (uplinks : List RecordedUplink) (uplink : RecordedUplink) :
    distinct (uplinks ++ [uplink]) =
      if ((distinct uplinks).getLast?.map fun kept => kept.sample.counter) =
          some uplink.sample.counter then distinct uplinks
      else distinct uplinks ++ [uplink] := by
  cases uplinks with
  | nil => rfl
  | cons first rest =>
    obtain ⟨kept, hlast, hconcat⟩ := destutter'_concat
      (fun kept next : RecordedUplink => kept.sample.counter ≠ next.sample.counter)
      first uplink rest
    rw [distinct, distinct, List.cons_append, List.destutter_cons', List.destutter_cons', hlast,
      hconcat]
    by_cases h : kept.sample.counter = uplink.sample.counter <;> simp [h]

/-- Of uplinks at least one is left. -/
theorem distinct_eq_nil_iff {uplinks : List RecordedUplink} :
    distinct uplinks = [] ↔ uplinks = [] := by
  constructor
  · intro h
    cases uplinks with
    | nil => rfl
    | cons first rest => exact absurd h (List.destutter'_ne_nil _ _)
  · rintro rfl
    rfl

/-! ## What a history keeps -/

/-- The last uplinks, as many as there is room for. -/
def window (capacity : Nat) (uplinks : List RecordedUplink) : List UplinkSample :=
  (uplinks.rtake capacity).map RecordedUplink.sample

@[simp] theorem window_nil (capacity : Nat) : window capacity [] = [] := by
  simp [window]

theorem length_window (capacity : Nat) (uplinks : List RecordedUplink) :
    (window capacity uplinks).length = min capacity uplinks.length := by
  simp [window, List.rtake]
  omega

/-- A window shows the last uplink. -/
theorem getLast?_window (hcapacity : 1 ≤ capacity) (uplinks : List RecordedUplink) :
    (window capacity uplinks).getLast? = uplinks.getLast?.map RecordedUplink.sample := by
  obtain ⟨room, rfl⟩ := Nat.exists_eq_add_of_le' hcapacity
  induction uplinks using List.reverseRecOn with
  | nil => simp [window]
  | append_singleton earlier last ih => simp [window]

/-- With one more uplink the window moves on, once it is full. -/
theorem window_concat (hcapacity : 1 ≤ capacity) (uplinks : List RecordedUplink)
    (uplink : RecordedUplink) :
    window capacity (uplinks ++ [uplink]) =
      (if (window capacity uplinks).length = capacity then (window capacity uplinks).drop 1
        else window capacity uplinks) ++ [uplink.sample] := by
  obtain ⟨room, rfl⟩ := Nat.exists_eq_add_of_le' hcapacity
  rw [length_window]
  split
  · rename_i hfull
    have hnext : uplinks.length - room = uplinks.length - (room + 1) + 1 := by omega
    have hinside : uplinks.length - (room + 1) + 1 ≤ uplinks.length := by omega
    simp [window, List.rtake, hnext, List.drop_append_of_le_length hinside]
  · rename_i hroom
    have hnone : uplinks.length - room = 0 := by omega
    have hnone' : uplinks.length - (room + 1) = 0 := by omega
    simp [window, List.rtake, hnone, hnone']

/-- A sample at the current data rate is one more uplink. -/
theorem samples_push {history : UplinkHistory} {uplinks : List RecordedUplink}
    (uplink : RecordedUplink) (hcapacity : 1 ≤ history.capacity)
    (hsamples : history.samples = window history.capacity (distinct uplinks)) :
    (history.push uplink.sample).samples =
      window history.capacity (distinct (uplinks ++ [uplink])) := by
  have hlast : (history.samples.getLast?.map UplinkSample.counter) =
      (distinct uplinks).getLast?.map fun kept => kept.sample.counter := by
    rw [hsamples, getLast?_window hcapacity, Option.map_map]
    rfl
  rw [UplinkHistory.push, hlast, distinct_concat]
  split
  · exact hsamples
  · rw [window_concat hcapacity, ← hsamples]

/-- What a history knows of the operations that led to it. -/
structure Shows (history : UplinkHistory) (operations : List HistoryOperation) : Prop where
  /-- It keeps the last of the uplinks that count. -/
  samples : history.samples = window history.capacity (distinct (period operations))
  /-- It knows the data rate that holds. -/
  dataRate : history.dataRate = lastRate operations

/-- A history is brought to the data rate of the next uplink, with the uplinks before it that count
together with that one. -/
theorem Shows.samples_atRate {history : UplinkHistory} (h : Shows history operations)
    (dataRate : UInt8) :
    (history.atRate dataRate).samples = window history.capacity
      (distinct (if lastRate operations = some dataRate then period operations else [])) := by
  rw [UplinkHistory.atRate, h.dataRate]
  split
  · exact h.samples
  · simp

/-- An operation is one more of those that led to a history. -/
theorem Shows.applyTo {history : UplinkHistory} (h : Shows history operations)
    (hcapacity : 1 ≤ history.capacity) (operation : HistoryOperation) :
    Shows (operation.applyTo history) (operations ++ [operation]) := by
  cases operation with
  | record uplink =>
    have hroom := UplinkHistory.capacity_atRate history uplink.dataRate
    have hatRate := h.samples_atRate uplink.dataRate
    rw [← hroom] at hcapacity hatRate
    have hsamples := samples_push uplink hcapacity hatRate
    rw [← period_concat_record] at hsamples
    constructor
    · simpa [HistoryOperation.applyTo, UplinkHistory.record] using hsamples
    · simp [HistoryOperation.applyTo, UplinkHistory.record]
  | clear =>
    constructor
    · simp [HistoryOperation.applyTo, UplinkHistory.clear]
    · simp [HistoryOperation.applyTo, UplinkHistory.clear]

/-- No operation changes how much room there is. -/
theorem capacity_applyTo (history : UplinkHistory) (operation : HistoryOperation) :
    (operation.applyTo history).capacity = history.capacity := by
  cases operation with
  | record uplink => simp [HistoryOperation.applyTo, UplinkHistory.record]
  | clear => rfl

theorem run_concat (operation : HistoryOperation) :
    run capacity (operations ++ [operation]) = operation.applyTo (run capacity operations) := by
  simp [run]

theorem capacity_run (capacity : Nat) (operations : List HistoryOperation) :
    (run capacity operations).capacity = capacity := by
  induction operations using List.reverseRecOn with
  | nil => rfl
  | append_singleton earlier operation ih => rw [run_concat, capacity_applyTo, ih]

/-- A history knows the operations that were carried out on it. -/
theorem shows_run (hcapacity : 1 ≤ capacity) (operations : List HistoryOperation) :
    Shows (run capacity operations) operations := by
  induction operations using List.reverseRecOn with
  | nil => exact ⟨by simp [run, UplinkHistory.empty, period], rfl⟩
  | append_singleton earlier operation ih =>
    rw [run_concat]
    exact ih.applyTo (by rw [capacity_run]; exact hcapacity) operation

/-- A history is a window on the operations that led to it. -/
structure IsWindow (capacity : Nat) (operations : List HistoryOperation)
    (history : UplinkHistory) : Prop where
  /-- It keeps the last of the uplinks that count, as many as there is room for. -/
  samples : history.samples = window capacity (distinct (period operations))
  /-- It is full as soon as there are as many of them. -/
  isFull : history.isFull = true ↔ capacity ≤ (distinct (period operations)).length
  /-- Their data rate is the one it knows. -/
  dataRate : ∀ uplink ∈ period operations, history.dataRate = some uplink.dataRate
  /-- Without any it knows none. -/
  unknown : distinct (period operations) = [] → history.dataRate = none

/-- Whatever was recorded and forgotten, a history with room for one uplink at least is a window on
it. -/
theorem isWindow_run (hcapacity : 1 ≤ capacity) (operations : List HistoryOperation) :
    IsWindow capacity operations (run capacity operations) := by
  have hshows := shows_run hcapacity operations
  have hroom := capacity_run capacity operations
  have hsamples := hshows.samples
  rw [hroom] at hsamples
  refine ⟨hsamples, ?_, fun uplink hmem => ?_, fun hnone => ?_⟩
  · rw [UplinkHistory.isFull, decide_eq_true_iff, hroom, hsamples, length_window]
    omega
  · rw [hshows.dataRate, dataRate_of_mem_period hmem]
  · rw [hshows.dataRate, lastRate_of_period_eq_nil (distinct_eq_nil_iff.mp hnone)]

/-- A window of two. The sample before the new data rate is forgotten, the repeated counter pushes
nothing out, and the last uplink does. -/
theorem isWindow_run_two :
    let operations : List HistoryOperation :=
      [.record ⟨⟨1, 0⟩, 5⟩, .clear, .record ⟨⟨4, 0⟩, 5⟩, .record ⟨⟨5, 0⟩, 3⟩,
        .record ⟨⟨6, 0⟩, 3⟩, .record ⟨⟨6, 0⟩, 3⟩, .record ⟨⟨8, 0⟩, 3⟩]
    1 ≤ 2 ∧ IsWindow 2 operations (run 2 operations) ∧
      (run 2 operations).samples.map UplinkSample.counter = [6, 8] := by
  intro operations
  exact ⟨by decide, isWindow_run (by decide) operations, by decide +kernel⟩

end HistoryOperation

end LoraNetwork
