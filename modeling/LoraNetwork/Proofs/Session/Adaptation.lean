import LoraNetwork.Uplink.Answers

/-!
# What adaptive data rate records

An uplink that takes part in adaptive data rate may lead to settings for its device. The session
records them in the step that makes the command, before anything is known of a downlink. From then
on they count as commanded: the same settings are commanded again only to a device that asks for a
sign of life.
-/

namespace LoraNetwork

namespace Session

variable {config : ServerConfig} {s : Session} {counter : UInt32} {metadata : RadioMetadata}
variable {ackRequested : Bool} {settings : AdrSettings}

/-- The session with an uplink in its history. -/
def learn (s : Session) (counter : UInt32) (snr : Float32) (rate : UInt8) : Session :=
  { s with history := s.history.record counter snr rate }

/-- The settings that are computed for an uplink, if there are any. -/
def planned (config : ServerConfig) (s : Session) (counter : UInt32) (metadata : RadioMetadata)
    (ackRequested : Bool) : Option AdrSettings :=
  match s.region.uplinkIndex metadata.dataRate with
  | none => none
  | some rate =>
    let learnt := s.learn counter metadata.snr rate
    Adr.plan s.region config.adr.installationMargin learnt.history (learnt.effectiveSettings rate)
      ackRequested

/-- The device transmits with certain settings already, as far as its uplink shows. -/
def InEffect (s : Session) (metadata : RadioMetadata) (settings : AdrSettings) : Prop :=
  ∃ rate, s.region.uplinkIndex metadata.dataRate = some rate ∧ settings = s.effectiveSettings rate

/-- Settings need no command: the device does not ask for a sign of life, and they are in effect or
recorded. -/
def Needless (s : Session) (metadata : RadioMetadata) (ackRequested : Bool)
    (settings : AdrSettings) : Prop :=
  ackRequested = false ∧ (s.InEffect metadata settings ∨ s.progress.adr = some settings)

/-- What an uplink leads to: nothing needs to be commanded and the progress stays, or the settings
that were computed are commanded and recorded. -/
inductive Adapted (s : Session) (metadata : RadioMetadata) (ackRequested : Bool)
    (planned : Option AdrSettings) : Session × Option MacCommand → Prop where
  /-- Nothing is commanded. -/
  | kept {after : Session} (progress : after.progress = s.progress)
      (needless : ∀ settings ∈ planned, s.Needless metadata ackRequested settings) :
      Adapted s metadata ackRequested planned (after, none)
  /-- Settings are commanded. -/
  | commanded {after : Session} {settings : AdrSettings} (computed : planned = some settings)
      (progress : after.progress = { s.progress with adr := some settings }) :
      Adapted s metadata ackRequested planned (after, some (settingsCommand s.region settings))

/-- Every uplink leads to one of the two. -/
theorem adapted_adapt (config : ServerConfig) (s : Session) (counter : UInt32)
    (metadata : RadioMetadata) (ackRequested : Bool) :
    s.Adapted metadata ackRequested (s.planned config counter metadata ackRequested)
      (s.adapt config counter metadata ackRequested) := by
  cases hrate : s.region.uplinkIndex metadata.dataRate with
  | none =>
    simp only [planned, adapt, hrate]
    exact .kept rfl (fun settings hmem => nomatch hmem)
  | some rate =>
    simp only [planned, adapt, learn, hrate]
    split
    · rename_i hplan
      refine .kept rfl fun settings hmem => ?_
      rw [hplan] at hmem
      cases hmem
    · rename_i next hplan
      split
      · rename_i hneedless
        refine .kept rfl fun settings hmem => ?_
        rw [hplan] at hmem
        rw [← Option.some.inj hmem]
        exact ⟨hneedless.1, hneedless.2.imp_left fun heffect => ⟨rate, hrate, heffect⟩⟩
      · exact .commanded hplan rfl

/-- Settings that are recorded are commanded again only to a device that asks for a sign of life. -/
theorem command_of_recorded
    (hplanned : s.planned config counter metadata ackRequested = some settings)
    (hrecorded : s.progress.adr = some settings) :
    (s.adapt config counter metadata ackRequested).2 =
      if ackRequested then some (settingsCommand s.region settings) else none := by
  cases hrate : s.region.uplinkIndex metadata.dataRate with
  | none => simp [planned, hrate] at hplanned
  | some rate =>
    simp only [planned, learn, hrate] at hplanned
    simp only [adapt, hrate, hplanned, hrecorded]
    cases ackRequested <;> simp

end Session

end LoraNetwork
