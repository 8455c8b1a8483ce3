import LoraNetwork.Proofs.Downlink.Size
import LoraNetwork.Proofs.Uplink.DownlinkCounter

/-!
# Downlinks and the limit of their data rate

How large the downlinks of a device are, over a whole run of handled uplinks. A downlink that is
assembled keeps the limit of the data rate it is sent at. A repeat is sent as it was the first time,
in a window that is chosen anew, and nobody asks whether it still fits: it was within the limit of
the data rate of the first time, which need not be the limit that holds now.
-/

namespace LoraNetwork

/-- What a call leads to, as far as sizes go. `again` is the downlink that the call can send again
and `cache` the one that was kept before. -/
inductive Sized (region : Region) (again cache : Option CachedDownlink) (after : Session) :
    Option Downlink → Prop where
  /-- Nothing is sent. -/
  | silent (cached : after.cached = none ∨ after.cached = cache) :
      Sized region again cache after none
  /-- A downlink within its limit is sent, and kept or not. -/
  | assembled {downlink : Downlink} (new : again = none) (fits : downlink.WithinLimit region)
      (cached : after.cached = none ∨ ∃ n, after.cached = some ⟨downlink.payload, n⟩) :
      Sized region again cache after (some downlink)
  /-- The downlink kept is sent again, at a data rate that has a limit. -/
  | replayed {sent : CachedDownlink} {downlink : Downlink} (repeated : again = some sent)
      (held : cache = some sent) (payload : downlink.payload = sent.payload)
      (limited : ∃ limit, region.maxPayload downlink.dataRateIndex = some limit)
      (cached : after.cached = some sent) : Sized region again cache after (some downlink)

namespace Sized

variable {region : Region} {again cache : Option CachedDownlink} {s after : Session}
variable {out : Option Downlink}

/-- What nothing is kept for can go the same way with something kept as well. -/
theorem of_none (h : Sized region again none after out) : Sized region again cache after out := by
  cases h with
  | silent cached => exact .silent (.inl (cached.elim id id))
  | assembled new fits cached => exact .assembled new fits cached
  | replayed repeated held => cases held

/-- Only the kept downlink of the session counts. -/
theorem of_eq (h : Sized region again cache s out)
    (hconfirmation : after.confirmation = s.confirmation) : Sized region again cache after out := by
  have hcached : after.cached = s.cached := by rw [Session.cached, hconfirmation, Session.cached]
  cases h with
  | silent cached => exact .silent (by rwa [hcached])
  | assembled new fits cached => exact .assembled new fits (by rwa [hcached])
  | replayed repeated held payload limited cached =>
    exact .replayed repeated held payload limited (by rwa [hcached])

end Sized

/-! ## One call -/

namespace DataHandling

variable {net : Network} {timer : WindowTimer} {s : Session} {uplink : DataUplink}
variable {fcntUp n : UInt32} {window : ReceiveWindow} {params : WindowParams} {limit : Nat}

/-- A place in a window comes with the limit of its data rate. -/
theorem maxPayload_of_place (h : place s uplink window = some (params, limit)) :
    s.region.maxPayload params.dataRateIndex = some limit := by
  unfold place at h
  split at h
  · cases h
  · obtain ⟨found, hfound, hpair⟩ := Option.map_eq_some_iff.mp h
    cases hpair
    exact hfound

/-- The parameters of a window are at a data rate that has a limit. -/
theorem exists_maxPayload_of_ofWindow {region : Region} {metadata : RadioMetadata}
    {offset : UInt8} {own : Option UInt8}
    (h : WindowParams.ofWindow region window metadata offset own = some params) :
    ∃ limit, region.maxPayload params.dataRateIndex = some limit := by
  unfold WindowParams.ofWindow at h
  split at h
  · cases h
  · obtain ⟨rate, hrate, hparams⟩ := Option.map_eq_some_iff.mp h
    rw [← hparams]
    exact Region.exists_maxPayload_of_dataRate hrate

/-- The content of a first answer keeps the room of its limit. -/
theorem within_content (uplink : DataUplink) (limit : Nat) (commands : List MacCommand)
    (carried : Option CloudMessage) (pending : Bool) :
    (content uplink limit commands carried pending).Within ∧
      (content uplink limit commands carried pending).available =
        limit - DownlinkBuilder.overhead := by
  have hfilled := (DownlinkBuilder.within_new limit uplink.onPortZero uplink.confirmed
    uplink.frame.header.control.adr).addAll commands
  cases carried with
  | none => exact ⟨hfilled.setPending pending, DownlinkBuilder.available_addAll _ _⟩
  | some message =>
    refine ⟨(hfilled.offer message).setPending pending, ?_⟩
    exact (DownlinkBuilder.available_offer _ message).trans (DownlinkBuilder.available_addAll _ _)

/-- A first answer is within its limit. -/
theorem FirstAnswer.withinLimit {commands : List MacCommand} {downlink : Downlink}
    (h : FirstAnswer net timer s uplink commands n downlink) :
    downlink.WithinLimit s.region := by
  obtain ⟨window, params, limit, carried, pending, hplace, hbuild, hdownlink⟩ := h.assembled
  obtain ⟨hwithin, hroom⟩ := within_content uplink limit commands carried pending
  refine hwithin.withinLimit hroom ?_ hbuild
  rw [hdownlink]
  exact maxPayload_of_place hplace

/-- An acknowledgement is within its limit. -/
theorem Acknowledgement.withinLimit {downlink : Downlink}
    (h : Acknowledgement net timer s uplink n downlink) : downlink.WithinLimit s.region := by
  obtain ⟨window, params, limit, hplace, hbuild, hdownlink⟩ := h.assembled
  refine (DownlinkBuilder.within_new limit false true _).withinLimit rfl ?_ hbuild
  rw [hdownlink]
  exact maxPayload_of_place hplace

/-- A first answer sends what is within its limit. -/
theorem Answered.sized {commands : List MacCommand} {result : Session × Processed}
    (h : Answered net timer s uplink fcntUp commands result) (hcached : s.cached = none) :
    Sized s.region none none result.1 (Downlink.ofResult result.2) := by
  cases h with
  | silent silent =>
    rw [silent]
    exact .silent (.inl hcached)
  | @drawn n _ own delivered =>
    cases delivered with
    | wasted silent =>
      rw [silent]
      exact .silent (.inl hcached)
    | @sent downlink answer =>
      have hfits : downlink.WithinLimit s.region := answer.withinLimit
      have hadopted : (s.adopt n).cached = none := hcached
      exact .assembled rfl hfits ((cached_remember hadopted).imp_right fun h => ⟨n, h⟩)

/-- A repeat sends what was kept, or an acknowledgement within its limit. -/
theorem Repeated.sized {kept : Confirmation} {result : Session × Processed}
    (h : Repeated net timer s uplink kept result) (hconfirmation : s.confirmation = some kept) :
    Sized s.region kept.downlink kept.downlink result.1 (Downlink.ofResult result.2) := by
  have hcached : s.cached = kept.downlink := by rw [Session.cached, hconfirmation]; rfl
  cases h with
  | silent silent =>
    rw [silent]
    exact .silent (.inr hcached)
  | replayed cached answer =>
    obtain ⟨window, params, hparams, hdownlink⟩ := answer.chosen
    refine .replayed cached cached ?_ ?_ (hcached.trans cached) <;> rw [hdownlink]
    · rfl
    · exact exists_maxPayload_of_ofWindow hparams
  | wasted own uncached silent =>
    rw [silent]
    exact .silent (.inr hcached)
  | @acknowledged n downlink own uncached answer =>
    have hfits : downlink.WithinLimit s.region := answer.withinLimit
    exact .assembled uncached hfits (.inr ⟨n, rfl⟩)

/-- An uplink that is carried out is answered within the limit. -/
theorem CarriedOut.sized {device after : Device} {recorded : Session}
    {requests : List MacCommand} {events : List (Event dataInterface)}
    {result : Except UplinkFailure (Option Downlink)}
    (h : CarriedOut net device recorded uplink fcntUp requests events after result)
    (hnone : recorded.confirmation = none) :
    Sized recorded.region none none after.session (Downlink.ofResult result) := by
  obtain ⟨_, _, answered, -, hprocess, hpersist, -, hresult⟩ := h.parts
  obtain ⟨commands, hanswered⟩ := (process_obeys.trace hprocess).2
  have hcached : (prepared net recorded uplink fcntUp).cached = none := by
    rw [prepared_eq net recorded uplink fcntUp, Session.cached, hnone]
    dsimp only
    split <;> rfl
  have hsized := hanswered.sized hcached
  rw [(sameUplink_prepared net recorded uplink fcntUp).profile.region] at hsized
  rw [hresult, Downlink.ofResult_mapError]
  exact hsized.of_eq (persist_trace hpersist).2

end DataHandling

namespace Handling

open DataHandling

variable {net : Network} {call : Handling}

/-- A call sends what is within the limit, or again what was kept. -/
theorem Occurs.sized (h : call.Occurs net) :
    Sized call.before.session.region (call.kept net) call.before.session.cached call.after.session
      call.downlink := by
  obtain ⟨before, uplink, events, after, result⟩ := call
  have hhandled := trace_handle h
  dsimp only [downlink] at hhandled ⊢
  cases hhandled with
  | refused | replay | unsaved => exact .silent (.inr rfl)
  | @repeated counter _ answering writing answered saved examined answer write =>
    let call : Handling := ⟨before, uplink, answering ++ writing, { before with session := saved },
      answered.2.mapError fun reason => ⟨reason, .processing⟩⟩
    have hverdict : call.verdict net = some (.resubmit counter) := by simp [call, verdict, examined]
    have hsized := (resubmit_obeys.trace answer).2.sized rfl
    have hkept : (countRepeat before.session counter).downlink = call.kept net :=
      downlink_countRepeat hverdict
    rw [hkept] at hsized
    have hsaved := hsized.of_eq (persist_trace write).2
    rw [Downlink.ofResult_mapError]
    rcases kept_eq net call with hnone | hcached
    · rw [hnone] at hsaved ⊢
      exact hsaved.of_none
    · rw [hcached] at hsaved ⊢
      exact hsaved
  | restarted examined tells carried =>
    simp only [kept, verdict, examined]
    exact (carried.sized rfl).of_none
  | accepted examined carried =>
    simp only [kept, verdict, examined]
    exact (carried.sized rfl).of_none

end Handling

/-! ## Runs -/

namespace HandlingRun

variable {net : Network} {start last : Device} {calls earlier later : List Handling}

/-- A device keeps its region. -/
theorem region (run : HandlingRun net start calls last) :
    last.session.region = start.session.region :=
  run.sameProfile.region

/-- Some call assembled a downlink with a payload, within the limit of its own data rate. -/
def Assembled (net : Network) (region : Region) (calls : List Handling) (payload : Bytes) : Prop :=
  ∃ call ∈ calls, ∃ downlink, call.downlink = some downlink ∧ call.kept net = none ∧
    downlink.payload = payload ∧ downlink.WithinLimit region

theorem Assembled.mono {region : Region} {payload : Bytes} (h : Assembled net region calls payload)
    (hsub : ∀ call ∈ calls, call ∈ later) : Assembled net region later payload := by
  obtain ⟨call, hmem, hcall⟩ := h
  exact ⟨call, hsub call hmem, hcall⟩

/-- The downlink kept at the end of a run was assembled in it, unless it was kept from the start. -/
theorem assembled_cached (run : HandlingRun net start calls last) {sent : CachedDownlink}
    (h : last.session.cached = some sent) :
    start.session.cached = some sent ∨
      Assembled net start.session.region calls sent.payload := by
  induction run with
  | nil device => exact .inl h
  | @cons call calls last first rest ih =>
    have hregion := (DataHandling.trace_handle first).sameProfile.region
    rcases ih h with hafter | hassembled
    · have hsized := first.sized
      generalize hout : call.downlink = out at hsized
      cases hsized with
      | silent cached =>
        rcases cached with hnone | hkept
        · rw [hnone] at hafter
          cases hafter
        · exact .inl (hkept ▸ hafter)
      | @assembled downlink new fits cached =>
        refine .inr ⟨call, List.mem_cons_self, downlink, hout, new, ?_, fits⟩
        rcases cached with hnone | ⟨n, hkept⟩
        · rw [hnone] at hafter
          cases hafter
        · rw [hkept] at hafter
          cases hafter
          rfl
      | replayed repeated held payload limited cached =>
        rw [cached] at hafter
        exact .inl (held.trans hafter)
    · rw [hregion] at hassembled
      exact .inr (hassembled.mono fun _ hmem => List.mem_cons_of_mem _ hmem)

/-- Every downlink is within the limit of the data rate it is assembled for. In the life of a
session, a downlink that is not the repeat of a kept one carries no more than the region admits at
its own data rate. A repeat has the payload of a downlink that an earlier call assembled, within the
limit of the data rate of that call; so it exceeds the limit of its own data rate at most when that
is the lower one. -/
theorem downlink_within_limit {config : ServerConfig} {record : SessionRecord} {call : Handling}
    {downlink : Downlink}
    (run : HandlingRun net (.ofSession (.ofRecord config record)) (earlier ++ call :: later) last)
    (hsent : call.downlink = some downlink) :
    let region := (Session.ofRecord config record).region
    (call.kept net = none → downlink.WithinLimit region) ∧
      (call.kept net ≠ none → ∃ first ∈ earlier, ∃ one limit limit',
        first.downlink = some one ∧ first.kept net = none ∧ downlink.payload = one.payload ∧
          one.WithinLimit region ∧ region.maxPayload one.dataRateIndex = some limit ∧
          region.maxPayload downlink.dataRateIndex = some limit' ∧
          (limit ≤ limit' → downlink.WithinLimit region)) := by
  intro region
  obtain ⟨middle, hearlier, hlater⟩ := append_iff.mp run
  have hregion : call.before.session.region = region := by
    cases hlater with
    | cons first rest => exact hearlier.region
  have hnone : (Device.ofSession (.ofRecord config record)).session.cached = none := rfl
  cases hlater with
  | cons first rest =>
    have hsized := first.sized
    rw [hsent, hregion] at hsized
    generalize hagain : call.kept net = again at hsized
    cases hsized with
    | assembled new fits cached => exact ⟨fun _ => fits, fun hkept => absurd new hkept⟩
    | @replayed sent _ repeated held payload limited cached =>
      refine ⟨fun hnew => ?_, fun _ => ?_⟩
      · rw [repeated] at hnew
        cases hnew
      · obtain hstart | ⟨one, hmem, downlink', hone, hnew, hpayload, hfits⟩ :=
          hearlier.assembled_cached held
        · rw [hnone] at hstart
          cases hstart
        · obtain ⟨limit, hlimit, hlength⟩ := hfits
          obtain ⟨limit', hlimit'⟩ := limited
          refine ⟨one, hmem, downlink', limit, limit', hone, hnew, payload.trans hpayload.symm,
            ⟨limit, hlimit, hlength⟩, hlimit, hlimit', fun hle => ⟨limit', hlimit', ?_⟩⟩
          rw [payload, ← hpayload]
          exact Nat.le_trans hlength hle

end HandlingRun

/-! ## A repeat at a lower data rate -/

namespace Sample

/-- A cloud message that fits a frame at the highest data rates only. -/
def message : CloudMessage where
  id := "message"
  port := 1
  payload := List.replicate 100 0xAB
  confirmed := false
  commands := []
  expiresAt := none

/-- The answers while no time passes and the message waits in the queue. -/
def mail : (op : DataOperation) → op.Answer
  | .race (.receive ..) _ => some (.ok (some message))
  | op => answers (.ok ()) op

/-- A confirmed uplink at the highest data rate that the message fits. -/
def fast : DataUplink := uplink .confirmedDataUp 5

/-- The same frame again at the lowest data rate. -/
def slow : DataUplink := { fast with metadata := { dataRate := .sf12bw125 } }

end Sample

namespace HandlingRun

/-- The message goes out within the limit of the first uplink's data rate, and goes out again as it
was for the second. -/
theorem downlink_within_limit_of_first_rate :
    let first := Handling.answeredBy Sample.network Sample.mail Sample.device Sample.fast
    let second := Handling.answeredBy Sample.network Sample.mail first.after Sample.slow
    ∃ one two, first.downlink = some one ∧ second.downlink = some two ∧
      one.WithinLimit .eu868 ∧ two.payload = one.payload := by
  intro first second
  obtain ⟨last, hrun⟩ : ∃ last, HandlingRun Sample.network Sample.device ([first] ++ second :: [])
      last :=
    exists_answeredBy Sample.network Sample.mail Sample.device [Sample.fast, Sample.slow]
  obtain ⟨two, htwo⟩ : ∃ two, second.downlink = some two :=
    Option.isSome_iff_exists.mp (by decide +kernel)
  have hkept : second.kept Sample.network ≠ none := by decide +kernel
  obtain ⟨call, hmem, one, limit, limit', hone, -, hpayload, hfits, -⟩ :=
    (downlink_within_limit hrun htwo).2 hkept
  rw [List.mem_singleton.mp hmem] at hone
  exact ⟨one, two, hone, htwo, hfits, hpayload⟩

/-- A downlink may be beyond the limit of its own data rate: the kept frame goes out at the data rate
of the repeat. -/
theorem exists_downlink_beyond_limit :
    ∃ calls last, HandlingRun Sample.network Sample.device calls last ∧
      ∃ call ∈ calls, ∃ downlink, call.downlink = some downlink ∧
        ¬ downlink.WithinLimit Sample.device.session.region := by
  let first := Handling.answeredBy Sample.network Sample.mail Sample.device Sample.fast
  let second := Handling.answeredBy Sample.network Sample.mail first.after Sample.slow
  obtain ⟨last, hrun⟩ := exists_answeredBy Sample.network Sample.mail Sample.device
    [Sample.fast, Sample.slow]
  have hbeyond : ∃ downlink ∈ second.downlink, ¬ downlink.WithinLimit .eu868 := by decide +kernel
  obtain ⟨downlink, hdownlink, hlimit⟩ := hbeyond
  exact ⟨[first, second], last, hrun, second, by simp, downlink, hdownlink, hlimit⟩

end HandlingRun

end LoraNetwork
