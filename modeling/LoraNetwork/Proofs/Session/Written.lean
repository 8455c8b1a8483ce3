import LoraNetwork.Session.State

/-!
# Progress, what is saved of it, and what is stored

A session knows its progress and what of it was last written, and the store holds a record. A delta
is taken from the first two and written to the third. It cannot say that a field was cleared, so all
of this fits together only because nothing is ever cleared: a generation and commanded settings stay
once they are there. Then the delta is empty exactly when nothing has changed, and after a write
both the session and the record have caught up.
-/

namespace LoraNetwork

namespace SessionProgress

variable {now middle saved : SessionProgress} {delta : SessionDelta}

/-- Nothing that was there before has been cleared. -/
structure Extends (now saved : SessionProgress) : Prop where
  /-- A generation that was honoured is still known. -/
  resetReported : now.resetReported = none → saved.resetReported = none
  /-- So are commanded settings. -/
  adr : now.adr = none → saved.adr = none

namespace Extends

theorem refl (progress : SessionProgress) : progress.Extends progress := ⟨id, id⟩

theorem trans (h : now.Extends middle) (h' : middle.Extends saved) : now.Extends saved :=
  ⟨fun hnone => h'.resetReported (h.resetReported hnone), fun hnone => h'.adr (h.adr hnone)⟩

end Extends

/-! ## Taking a delta -/

/-- A value counts as unchanged exactly when it is. -/
theorem changed_eq_none_iff {α : Type} [DecidableEq α] {now saved : α} :
    changed now saved = none ↔ now = saved := by
  unfold changed
  split <;> simp_all

/-- The value after a write, whether or not it had to be written. -/
@[simp] theorem getD_changed {α : Type} [DecidableEq α] (now saved : α) :
    (changed now saved).getD saved = now := by
  unfold changed
  split <;> simp_all

/-- An optional value that was not cleared counts as unchanged exactly when it is. -/
theorem changedOption_eq_none_iff {α : Type} [DecidableEq α] {now saved : Option α}
    (h : now = none → saved = none) : changedOption now saved = none ↔ now = saved := by
  unfold changedOption
  split
  · simp_all
  · constructor
    · intro hnone
      rw [hnone, h hnone]
    · intro hsame
      contradiction

/-- The optional value after a write, whether or not it had to be written. -/
theorem or_changedOption {α : Type} [DecidableEq α] {now saved : Option α}
    (h : now = none → saved = none) : (changedOption now saved).or saved = now := by
  unfold changedOption
  split
  · simp_all
  · cases now with
    | none => rw [h rfl]; rfl
    | some value => rfl

/-- The settings of a delta that was filled in from settings are these. -/
theorem deltaSettings_of_map {settings : Option AdrSettings}
    (hrate : delta.dataRate = settings.map AdrSettings.dataRate)
    (hpower : delta.txPower = settings.map AdrSettings.txPower)
    (hrepetitions : delta.repetitions = settings.map AdrSettings.repetitions) :
    deltaSettings delta = settings := by
  unfold deltaSettings
  rw [hrate, hpower, hrepetitions]
  cases settings <;> rfl

/-- The settings of a delta are those that changed. -/
@[simp] theorem deltaSettings_deltaFrom (now saved : SessionProgress) :
    deltaSettings (now.deltaFrom saved) = changedOption now.adr saved.adr :=
  deltaSettings_of_map rfl rfl rfl

/-- After a delta was written, what is saved is the progress it was taken from. -/
theorem afterWrite_deltaFrom (h : now.Extends saved) :
    saved.afterWrite (now.deltaFrom saved) = now := by
  have hgeneration := or_changedOption h.resetReported
  have hsettings := or_changedOption h.adr
  unfold afterWrite
  rw [deltaSettings_deltaFrom, hsettings]
  simp [deltaFrom, hgeneration]

/-- A delta is empty exactly when nothing has changed. -/
theorem isEmpty_deltaFrom_iff (h : now.Extends saved) :
    (now.deltaFrom saved).isEmpty = true ↔ now = saved := by
  have hgeneration := changedOption_eq_none_iff h.resetReported
  have hsettings := changedOption_eq_none_iff h.adr
  constructor
  · intro hempty
    have hdelta : now.deltaFrom saved = {} := by simpa [SessionDelta.isEmpty] using hempty
    simp only [deltaFrom, SessionDelta.mk.injEq, changed_eq_none_iff, Option.map_eq_none_iff,
      hgeneration, hsettings] at hdelta
    cases now
    cases saved
    simp_all
  · intro hsame
    have hdelta : saved.deltaFrom saved = {} := by simp [deltaFrom, changed, changedOption]
    rw [hsame, hdelta]
    rfl

/-! ## Writing a delta -/

/-- A delta writes settings whole: data rate, power and repetitions, or none of them. -/
def WritesWhole (delta : SessionDelta) : Prop :=
  ∃ settings : Option AdrSettings, delta.dataRate = settings.map AdrSettings.dataRate ∧
    delta.txPower = settings.map AdrSettings.txPower ∧
    delta.repetitions = settings.map AdrSettings.repetitions

theorem writesWhole_deltaFrom (now saved : SessionProgress) :
    WritesWhole (now.deltaFrom saved) := ⟨_, rfl, rfl, rfl⟩

/-- A write changes the progress that a record holds as it changes what is known to be saved. -/
theorem ofRecord_applyTo (h : WritesWhole delta) (record : SessionRecord) :
    ofRecord (delta.applyTo record) = (ofRecord record).afterWrite delta := by
  obtain ⟨settings, hrate, hpower, hrepetitions⟩ := h
  have hsettings := deltaSettings_of_map hrate hpower hrepetitions
  unfold afterWrite
  rw [hsettings]
  cases settings with
  | none => simp [ofRecord, SessionDelta.applyTo, hrate, hpower, hrepetitions]
  | some settings => simp [ofRecord, SessionDelta.applyTo, hrate, hpower, hrepetitions]

end SessionProgress

end LoraNetwork
