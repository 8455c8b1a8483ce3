import LoraNetwork.Proofs.Adr.Range
import LoraNetwork.Proofs.Uplink.Commanding

/-!
# Commanded settings stay in range

Each call computes settings from those of the call before, so that bounds on them are an invariant
of a run: if the settings that a session starts with are in the range of its region, all that are
ever commanded and recorded are. Nothing is assumed of the ratios at which the uplinks are heard.
-/

namespace LoraNetwork

open DataHandling

namespace Session

variable {s after : Session}

/-- The range only depends on the region and on the settings that are recorded. -/
theorem SettingsInRange.of_eq (h : s.SettingsInRange) (hregion : after.region = s.region)
    (hadr : after.progress.adr = s.progress.adr) : after.SettingsInRange := by
  intro settings hmem
  rw [hadr] at hmem
  rw [hregion]
  exact h settings hmem

end Session

/-! ## One call -/

namespace Handling

variable {net : Network} {call : Handling} {command : MacCommand} {settings : AdrSettings}
variable {region : Region}

/-- What a call owes to the settings that it commands after an uplink at a data rate. -/
structure Regulates (net : Network) (call : Handling) (region : Region) (rate : UInt8)
    (settings : AdrSettings) : Prop where
  /-- The uplink was heard at that data rate. -/
  heard : region.uplinkIndex call.uplink.metadata.dataRate = some rate
  /-- The data rate is one that uplinks use. -/
  uplinkIndex : settings.dataRate ∈ region.uplinkIndices
  /-- It is not below that of the uplink. -/
  notSlower : rate ≤ settings.dataRate
  /-- Power and repetitions are in range. -/
  inRange : settings.InRange region
  /-- The command is read back from its bytes as it was made. -/
  readBack : MacCommand.decode .down (Session.settingsCommand region settings).encode =
    .ok [Session.settingsCommand region settings]
  /-- A device that does not ask for a sign of life is only commanded settings that are neither in
  effect nor those commanded last. -/
  needed : call.uplink.frame.header.control.adrAckReq = false →
    settings ≠ call.before.session.effectiveSettings rate ∧
      call.before.session.progress.adr ≠ some settings
  /-- The settings are recorded. -/
  recorded : call.after.session.progress.adr = some settings
  /-- What becomes of the command behind the answers of the call. -/
  brings : call.Brings net (Session.settingsCommand region settings)

/-- What is computed for the uplink is computed by the session that recorded the counter. -/
theorem exists_basis_of_planned (hplanned : call.planned net = some settings) :
    ∃ recorded counter, call.basis net = some (recorded, counter) ∧
      call.uplink.frame.header.control.adr = true ∧
      recorded.planned net.config counter call.uplink.metadata
        call.uplink.frame.header.control.adrAckReq = some settings := by
  obtain ⟨⟨recorded, counter⟩, hbasis, -⟩ := Option.bind_eq_some_iff.mp hplanned
  rw [planned_of_basis hbasis, plannedIfAsked] at hplanned
  split at hplanned
  · rename_i hasks
    exact ⟨recorded, counter, hbasis, hasks, hplanned⟩
  · cases hplanned

/-- Settings that need no command are not commanded. -/
theorem command_of_needless (hplanned : call.planned net = some settings)
    (hneedless : call.before.session.Needless call.uplink.metadata
      call.uplink.frame.header.control.adrAckReq settings) : call.command net = none := by
  obtain ⟨recorded, counter, hbasis, hasks, hcomputed⟩ := exists_basis_of_planned hplanned
  obtain ⟨hprofile, hadr⟩ := of_basis hbasis
  rw [command_of_basis hbasis, adaptIfAsked, if_pos hasks]
  exact (hneedless.of_eq hprofile.symm hadr.symm).command_eq_none hcomputed

/-- What a call commands follows the settings in effect, if those recorded are in range. -/
theorem Occurs.regulates (h : call.Occurs net) (hrange : call.before.session.SettingsInRange)
    (hmade : call.command net = some command) :
    ∃ rate settings, command = Session.settingsCommand call.before.session.region settings ∧
      call.Regulates net call.before.session.region rate settings := by
  cases h.adapts with
  | kept silent =>
    rw [silent] at hmade
    cases hmade
  | @commanded settings computed made recorded brings =>
    obtain ⟨s, counter, hbasis, -, hplanned⟩ := exists_basis_of_planned computed
    obtain ⟨hprofile, hadr⟩ := of_basis hbasis
    obtain ⟨rate, hheard, hfollows⟩ := (hrange.of_eq hprofile.region hadr).follows hplanned
    rw [hprofile.region] at hheard hfollows
    have hslower := hfollows.notSlower
    rw [Session.dataRate_effectiveSettings] at hslower
    refine ⟨rate, settings, Option.some.inj (hmade.symm.trans made), hheard, hfollows.uplinkIndex,
      hslower, hfollows.inRange,
      Session.decode_settingsCommand hfollows.inRange hfollows.uplinkIndex, fun hquiet => ?_,
      recorded, brings⟩
    rw [← not_or]
    intro hreason
    have hneedless : call.before.session.Needless call.uplink.metadata
        call.uplink.frame.header.control.adrAckReq settings :=
      ⟨hquiet, hreason.imp_left fun heffect => ⟨rate, hheard, heffect⟩⟩
    rw [command_of_needless computed hneedless] at hmade
    cases hmade

/-- A call leaves the settings that are recorded in range. -/
theorem Occurs.settingsInRange (h : call.Occurs net)
    (hrange : call.before.session.SettingsInRange) : call.after.session.SettingsInRange := by
  have hregion := (trace_handle h).sameProfile.region
  cases h.adapts with
  | kept silent needless same => exact hrange.of_eq hregion same
  | commanded computed made recorded brings =>
    obtain ⟨rate, settings, -, hregulates⟩ := h.regulates hrange made
    intro other hother
    rw [hregulates.recorded] at hother
    rw [hregion, ← Option.some.inj hother]
    exact hregulates.inRange

end Handling

/-! ## Runs -/

namespace HandlingRun

variable {net : Network} {start last : Device} {calls : List Handling}

/-- Along every run of a session whose settings are in the range of its region, the settings that
are recorded stay in range, and so does each command: its data rate is one that uplinks use and not
below that of the uplink, and it is read back as it was made. A device that does not ask for a sign
of life is commanded nothing that is in effect or was commanded last. -/
theorem commands_in_range (run : HandlingRun net start calls last)
    (hrange : start.session.SettingsInRange) :
    last.session.SettingsInRange ∧
      ∀ call ∈ calls, call.before.session.SettingsInRange ∧ call.after.session.SettingsInRange ∧
        ∀ command, call.command net = some command →
          ∃ rate settings, command = Session.settingsCommand start.session.region settings ∧
            call.Regulates net start.session.region rate settings := by
  induction run with
  | nil device => exact ⟨hrange, by simp⟩
  | @cons call calls last first rest ih =>
    have hafter := first.settingsInRange hrange
    obtain ⟨hlast, hcalls⟩ := ih hafter
    rw [(trace_handle first).sameProfile.region] at hcalls
    refine ⟨hlast, fun other hmem => ?_⟩
    rcases List.mem_cons.mp hmem with rfl | hmem
    · exact ⟨hrange, hafter, fun command hmade => first.regulates hrange hmade⟩
    · exact hcalls other hmem

end HandlingRun

namespace Sample

/-- The device of the sample while it is commanded the lowest power and the most repetitions. -/
def quietest : Device :=
  .ofSession (.ofRecord {} { record with
    dataRate := some 5
    txPower := some 7
    repetitions := some 3 })

end Sample

namespace HandlingRun

/-- Settings at the bounds of the region are in range. The device that uses them asks for a sign of
life, and is commanded full power and as many repetitions as before. -/
theorem commands_in_range_from_quietest :
    let call := Handling.answeredBy Sample.network (Sample.answers (.ok ())) Sample.quietest
      (Sample.asking 5 0)
    Sample.quietest.session.SettingsInRange ∧ call.after.session.SettingsInRange ∧
      call.command Sample.network = some (Session.settingsCommand .eu868 ⟨5, 0, 3⟩) ∧
      call.Regulates Sample.network .eu868 5 ⟨5, 0, 3⟩ := by
  intro call
  have hstart : Sample.quietest.session.SettingsInRange := by
    refine Session.settingsInRange_ofRecord (fun power hmem => ?_) (fun repetitions hmem => ?_)
    · obtain rfl : 7 = power := Option.some.inj hmem
      decide
    · obtain rfl : 3 = repetitions := Option.some.inj hmem
      decide
  have hrun : HandlingRun Sample.network Sample.quietest [call] call.after :=
    .cons (Handling.occurs_answeredBy _ _ _ _) (.nil _)
  obtain ⟨hlast, hcalls⟩ := commands_in_range hrun hstart
  have hmade : call.command Sample.network = some (Session.settingsCommand .eu868 ⟨5, 0, 3⟩) := by
    decide +kernel
  obtain ⟨rate, settings, -, hregulates⟩ := (hcalls call (by simp)).2.2 _ hmade
  have hrecorded : call.after.session.progress.adr = some ⟨5, 0, 3⟩ := by decide +kernel
  have hrate : Region.eu868.uplinkIndex call.uplink.metadata.dataRate = some 5 := by decide
  obtain rfl := Option.some.inj (hregulates.recorded.symm.trans hrecorded)
  obtain rfl := Option.some.inj (hregulates.heard.symm.trans hrate)
  exact ⟨hstart, hlast, hmade, hregulates⟩

end HandlingRun

end LoraNetwork
