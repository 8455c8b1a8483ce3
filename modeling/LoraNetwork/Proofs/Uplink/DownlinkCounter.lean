import LoraNetwork.Proofs.Uplink.Run

/-!
# Downlink counters are not reused

The downlinks of a device with an owner, over a whole run of handled uplinks. Each new one takes the
next counter of the session; a repeat takes none and is sent with the payload that was kept. So as
long as the count neither restarts nor wraps around, one counter never stands for two payloads. The
invariant is a ledger: what was sent lies below the next counter, and what is kept was sent as it
is kept, or never.
-/

namespace LoraNetwork

/-- The downlink kept for repeats. -/
def Session.cached (s : Session) : Option CachedDownlink := s.confirmation.bind (·.downlink)

namespace Handling

/-- The downlink that a call can send again: the one kept for the uplink that is repeated. -/
def kept (net : Network) (call : Handling) : Option CachedDownlink :=
  match call.verdict net with
  | some (.resubmit counter) =>
    call.before.session.confirmation.bind fun kept =>
      if kept.fcntUp = counter then kept.downlink else none
  | _ => none

/-- The downlink counter fell, though the count was not restarted. -/
def Wraps (net : Network) (call : Handling) : Prop :=
  call.honoured net = none ∧
    call.after.session.progress.fcntDown < call.before.session.progress.fcntDown

end Handling

/-! ## One call -/

/-- What a call leads to, from the next counter and the downlink kept: a session, and a downlink or
none. `again` is the downlink that the call can send again. -/
inductive Serves (again : Option CachedDownlink) (next : UInt32) (cache : Option CachedDownlink)
    (after : Session) : Option Downlink → Prop where
  /-- Nothing is sent, and the next counter may be lost. -/
  | silent (count : after.progress.fcntDown = next ∨ after.progress.fcntDown = next + 1)
      (cached : after.cached = none ∨ after.cached = cache) : Serves again next cache after none
  /-- A downlink is sent under the next counter, and kept or not. -/
  | sent {downlink : Downlink} (new : again = none) (carries : downlink.fcntDown = some next)
      (count : after.progress.fcntDown = next + 1)
      (cached : after.cached = none ∨ after.cached = some ⟨downlink.payload, next⟩) :
      Serves again next cache after (some downlink)
  /-- The downlink kept is sent again. -/
  | replayed {sent : CachedDownlink} {downlink : Downlink} (repeated : again = some sent)
      (held : cache = some sent) (payload : downlink.payload = sent.payload)
      (carries : downlink.fcntDown = some sent.fcntDown)
      (count : after.progress.fcntDown = next) (cached : after.cached = some sent) :
      Serves again next cache after (some downlink)

namespace Serves

variable {again cache : Option CachedDownlink} {next : UInt32} {s after : Session}
variable {out : Option Downlink}

/-- What nothing is kept for can be served with something kept as well. -/
theorem of_none (h : Serves again next none after out) : Serves again next cache after out := by
  cases h with
  | silent count cached => exact .silent count (.inl (cached.elim id id))
  | sent new carries count cached => exact .sent new carries count cached
  | replayed repeated held => cases held

/-- Only counter and kept downlink of the session count. -/
theorem of_eq (h : Serves again next cache s out) (hprogress : after.progress = s.progress)
    (hconfirmation : after.confirmation = s.confirmation) : Serves again next cache after out := by
  have hcached : after.cached = s.cached := by rw [Session.cached, hconfirmation, Session.cached]
  cases h with
  | silent count cached => exact .silent (by rw [hprogress]; exact count) (by rwa [hcached])
  | sent new carries count cached =>
    exact .sent new carries (by rw [hprogress]; exact count) (by rwa [hcached])
  | replayed repeated held payload carries count cached =>
    rw [← hprogress] at count
    rw [← hcached] at cached
    exact .replayed repeated held payload carries count cached

end Serves

namespace DataHandling

variable {net : Network} {timer : WindowTimer} {s : Session} {uplink : DataUplink}
variable {fcntUp : UInt32}

/-- Keeping a downlink for repeats keeps this one or none. -/
theorem cached_remember {confirmed : Bool} {sent : CachedDownlink} (h : s.cached = none) :
    (remember s confirmed fcntUp sent).cached = none ∨
      (remember s confirmed fcntUp sent).cached = some sent := by
  cases confirmed with
  | true => exact .inr rfl
  | false => exact .inl h

/-- A first answer of a device with an owner serves it from the next counter. -/
theorem Answered.serves {commands : List MacCommand} {result : Session × Processed}
    (h : Answered net timer s uplink fcntUp commands result) (hown : s.gatewayId.isSome = true)
    (hcached : s.cached = none) :
    Serves none s.progress.fcntDown none result.1 (Downlink.ofResult result.2) := by
  cases h with
  | silent silent =>
    rw [silent]
    exact .silent (.inl rfl) (.inl hcached)
  | @drawn n _ own delivered =>
    have hn := own hown
    cases delivered with
    | wasted silent =>
      rw [silent]
      exact .silent (.inr (by rw [← hn]; rfl)) (.inl hcached)
    | @sent downlink answer =>
      have hcounter : (remember (s.adopt n) uplink.confirmed fcntUp
          ⟨downlink.payload, n⟩).progress.fcntDown = n + 1 := by
        unfold remember
        split <;> rfl
      refine .sent rfl (by rw [answer.fcntDown, hn]) (by rw [hcounter, hn]) ?_
      rw [← hn]
      exact cached_remember hcached

/-- A repeat of a device with an owner is served from the next counter and what is kept. -/
theorem Repeated.serves {kept : Confirmation} {result : Session × Processed}
    (h : Repeated net timer s uplink kept result) (hown : s.gatewayId.isSome = true)
    (hconfirmation : s.confirmation = some kept) :
    Serves kept.downlink s.progress.fcntDown kept.downlink result.1
      (Downlink.ofResult result.2) := by
  have hcached : s.cached = kept.downlink := by rw [Session.cached, hconfirmation]; rfl
  cases h with
  | silent silent =>
    rw [silent]
    exact .silent (.inl rfl) (.inr hcached)
  | replayed cached answer =>
    obtain ⟨window, params, -, hdownlink⟩ := answer.chosen
    refine .replayed cached cached ?_ ?_ rfl (hcached.trans cached) <;> rw [hdownlink] <;> rfl
  | wasted own uncached silent =>
    rw [silent]
    exact .silent (.inr (by rw [← own hown]; rfl)) (.inr hcached)
  | acknowledged own uncached answer =>
    refine .sent uncached (by rw [answer.fcntDown, own hown]) (by rw [← own hown]; rfl) (.inr ?_)
    rw [← own hown]
    rfl

/-- An uplink of a device with an owner is carried out from the next counter, with nothing kept. -/
theorem CarriedOut.serves {device after : Device} {recorded : Session}
    {requests : List MacCommand} {events : List (Event dataInterface)}
    {result : Except UplinkFailure (Option Downlink)}
    (h : CarriedOut net device recorded uplink fcntUp requests events after result)
    (hown : recorded.gatewayId.isSome = true) (hnone : recorded.confirmation = none) :
    Serves none recorded.progress.fcntDown none after.session (Downlink.ofResult result) := by
  obtain ⟨_, _, answered, -, hprocess, hpersist, -, hresult⟩ := h.parts
  obtain ⟨commands, hanswered⟩ := (process_obeys.trace hprocess).2
  have hprepared := prepared_eq net recorded uplink fcntUp
  have hcached : (prepared net recorded uplink fcntUp).cached = none := by
    rw [hprepared, Session.cached, hnone]
    dsimp only
    split <;> rfl
  have hcount : (prepared net recorded uplink fcntUp).progress.fcntDown =
      recorded.progress.fcntDown := by rw [hprepared]
  have hgateway : (prepared net recorded uplink fcntUp).gatewayId.isSome = true := by
    rw [hprepared]
    exact hown
  have hserves := hanswered.serves hgateway hcached
  obtain ⟨hprogress, hconfirmation⟩ := persist_trace hpersist
  rw [hresult, Downlink.ofResult_mapError, ← hcount]
  exact hserves.of_eq hprogress hconfirmation

end DataHandling

namespace Handling

open DataHandling

variable {net : Network} {call : Handling}

/-- What is kept for a repeated uplink is what the call can send again. -/
theorem downlink_countRepeat {counter : UInt32} (h : call.verdict net = some (.resubmit counter)) :
    (countRepeat call.before.session counter).downlink = call.kept net := by
  unfold kept countRepeat
  rw [h]
  cases call.before.session.confirmation with
  | none => rfl
  | some kept =>
    dsimp only [Option.bind_some]
    split <;> rfl

/-- What a call can send again is the downlink kept. -/
theorem kept_eq (net : Network) (call : Handling) :
    call.kept net = none ∨ call.kept net = call.before.session.cached := by
  unfold kept Session.cached
  split
  · cases call.before.session.confirmation with
    | none => exact .inl rfl
    | some kept =>
      dsimp only [Option.bind_some]
      split
      · exact .inr rfl
      · exact .inl rfl
  · exact .inl rfl

/-- A call on a device with an owner serves it from its next counter and the downlink kept, or it
restarts the count and serves the device from zero with nothing kept. -/
theorem Occurs.serves (h : call.Occurs net) (hown : call.before.session.gatewayId.isSome = true) :
    (call.honoured net = none ∧
        Serves (call.kept net) call.before.session.progress.fcntDown call.before.session.cached
          call.after.session call.downlink) ∨
      ((call.honoured net).isSome = true ∧
        Serves none 0 none call.after.session call.downlink) := by
  obtain ⟨before, uplink, events, after, result⟩ := call
  have hhandled := trace_handle h
  dsimp only [downlink] at hhandled hown ⊢
  cases hhandled with
  | refused examined =>
    exact .inl ⟨by simp [honoured, verdict, examined], .silent (.inl rfl) (.inr rfl)⟩
  | replay examined =>
    exact .inl ⟨by simp [honoured, verdict, examined], .silent (.inl rfl) (.inr rfl)⟩
  | unsaved examined =>
    refine .inl ⟨?_, .silent (.inl rfl) (.inr rfl)⟩
    simp [honoured, verdict, examined, startsWithWrite, restartWrite]
  | @repeated counter _ answering writing answered saved examined answer write =>
    let call : Handling := ⟨before, uplink, answering ++ writing, { before with session := saved },
      answered.2.mapError fun reason => ⟨reason, .processing⟩⟩
    have hverdict : call.verdict net = some (.resubmit counter) := by simp [call, verdict, examined]
    have hserves := (resubmit_obeys.trace answer).2.serves hown rfl
    obtain ⟨hprogress, hconfirmation⟩ := persist_trace write
    have hkept : (countRepeat before.session counter).downlink = call.kept net :=
      downlink_countRepeat hverdict
    rw [hkept] at hserves
    have hsaved := hserves.of_eq hprogress hconfirmation
    rw [Downlink.ofResult_mapError]
    refine .inl ⟨by simp [call, honoured, hverdict], ?_⟩
    rcases kept_eq net call with hnone | hcached
    · rw [hnone] at hsaved ⊢
      exact hsaved.of_none
    · rw [hcached] at hsaved ⊢
      exact hsaved
  | restarted examined tells carried =>
    refine .inr ⟨?_, carried.serves hown rfl⟩
    simp [honoured, verdict, examined, startsWithWrite, restartWrite]
  | accepted examined carried =>
    have hserves := carried.serves hown rfl
    refine .inl ⟨by simp [honoured, verdict, examined], ?_⟩
    simp only [kept, verdict, examined]
    exact hserves.of_none

end Handling

/-! ## Runs -/

/-- What is known of the downlinks sent so far, given the next counter and the downlink kept. -/
structure Ledger (next : UInt32) (cache : Option CachedDownlink) (sent : List Downlink) : Prop where
  /-- Every downlink sent carries a counter below the next one. -/
  below : ∀ downlink ∈ sent, ∃ n, downlink.fcntDown = some n ∧ n < next
  /-- One counter stands for one payload. -/
  agree : ∀ one ∈ sent, ∀ other ∈ sent, one.fcntDown = other.fcntDown → one.payload = other.payload
  /-- So does the counter of the downlink kept. -/
  cachedBelow : ∀ kept, cache = some kept → kept.fcntDown < next
  /-- What was sent under the counter of the downlink kept is the downlink kept. -/
  cachedAgree : ∀ kept, cache = some kept → ∀ downlink ∈ sent,
    downlink.fcntDown = some kept.fcntDown → downlink.payload = kept.payload

namespace Ledger

variable {cache : Option CachedDownlink} {next : UInt32} {sent : List Downlink}

/-- Before anything is sent, only the downlink kept matters. -/
theorem nil (h : ∀ kept, cache = some kept → kept.fcntDown < next) : Ledger next cache [] :=
  ⟨by simp, by simp, h, by simp⟩

/-- A counter that does not fall when it moves on has grown. -/
theorem lt_of_not_wraps {now : UInt32} (hcount : now = next + 1) (hwrap : ¬ now < next) :
    next < now := by
  subst hcount
  rw [UInt32.lt_iff_toNat_lt, UInt32.toNat_add] at hwrap ⊢
  have hlt := next.toNat_lt
  have hone : (1 : UInt32).toNat = 1 := rfl
  omega

/-- The ledger with a greater next counter, and with nothing kept or what was kept before. -/
theorem advance (h : Ledger next cache sent) {later : UInt32} {kept : Option CachedDownlink}
    (hle : next ≤ later) (hkept : kept = none ∨ kept = cache) : Ledger later kept sent where
  below downlink hmem := by
    obtain ⟨n, hn, hlt⟩ := h.below downlink hmem
    exact ⟨n, hn, UInt32.lt_of_lt_of_le hlt hle⟩
  agree := h.agree
  cachedBelow c hc := by
    rcases hkept with rfl | rfl
    · cases hc
    · exact UInt32.lt_of_lt_of_le (h.cachedBelow c hc) hle
  cachedAgree c hc := by
    rcases hkept with rfl | rfl
    · cases hc
    · exact h.cachedAgree c hc

/-- A downlink under the next counter enters the ledger. -/
theorem add (h : Ledger next cache sent) {downlink : Downlink} {later : UInt32}
    {kept : Option CachedDownlink} (hcarries : downlink.fcntDown = some next) (hlt : next < later)
    (hkept : kept = none ∨ kept = some ⟨downlink.payload, next⟩) :
    Ledger later kept (sent ++ [downlink]) where
  below d hmem := by
    rcases List.mem_append.mp hmem with hmem | hmem
    · obtain ⟨n, hn, hbelow⟩ := h.below d hmem
      exact ⟨n, hn, UInt32.lt_trans hbelow hlt⟩
    · rw [List.mem_singleton.mp hmem]
      exact ⟨next, hcarries, hlt⟩
  agree one hone other hother heq := by
    have hnew : ∀ d ∈ sent, d.fcntDown ≠ downlink.fcntDown := by
      intro d hmem hd
      obtain ⟨n, hn, hbelow⟩ := h.below d hmem
      rw [hn, hcarries] at hd
      rw [Option.some.inj hd] at hbelow
      exact UInt32.lt_irrefl _ hbelow
    rcases List.mem_append.mp hone with hone | hone <;>
      rcases List.mem_append.mp hother with hother | hother
    · exact h.agree one hone other hother heq
    · rw [List.mem_singleton.mp hother] at heq
      exact absurd heq (hnew one hone)
    · rw [List.mem_singleton.mp hone] at heq
      exact absurd heq.symm (hnew other hother)
    · rw [List.mem_singleton.mp hone, List.mem_singleton.mp hother]
  cachedBelow c hc := by
    rcases hkept with rfl | rfl
    · cases hc
    · rw [← Option.some.inj hc]
      exact hlt
  cachedAgree c hc d hmem hd := by
    rcases hkept with rfl | rfl
    · cases hc
    · rw [← Option.some.inj hc] at hd ⊢
      rcases List.mem_append.mp hmem with hmem | hmem
      · obtain ⟨n, hn, hbelow⟩ := h.below d hmem
        rw [hn] at hd
        rw [Option.some.inj hd] at hbelow
        exact absurd hbelow (UInt32.lt_irrefl _)
      · rw [List.mem_singleton.mp hmem]

/-- The downlink kept enters the ledger once more. -/
theorem repeated (h : Ledger next cache sent) {downlink : Downlink} {kept : CachedDownlink}
    (hheld : cache = some kept) (hpayload : downlink.payload = kept.payload)
    (hcarries : downlink.fcntDown = some kept.fcntDown) :
    Ledger next (some kept) (sent ++ [downlink]) where
  below d hmem := by
    rcases List.mem_append.mp hmem with hmem | hmem
    · exact h.below d hmem
    · rw [List.mem_singleton.mp hmem]
      exact ⟨kept.fcntDown, hcarries, h.cachedBelow kept hheld⟩
  agree one hone other hother heq := by
    rcases List.mem_append.mp hone with hone | hone <;>
      rcases List.mem_append.mp hother with hother | hother
    · exact h.agree one hone other hother heq
    · rw [List.mem_singleton.mp hother] at heq ⊢
      rw [hpayload]
      exact h.cachedAgree kept hheld one hone (heq.trans hcarries)
    · rw [List.mem_singleton.mp hone] at heq ⊢
      rw [hpayload]
      exact (h.cachedAgree kept hheld other hother (heq.symm.trans hcarries)).symm
    · rw [List.mem_singleton.mp hone, List.mem_singleton.mp hother]
  cachedBelow c hc := h.cachedBelow c (hheld.trans hc)
  cachedAgree c hc d hmem hd := by
    rw [← Option.some.inj hc] at hd ⊢
    rcases List.mem_append.mp hmem with hmem | hmem
    · exact h.cachedAgree kept hheld d hmem hd
    · rw [List.mem_singleton.mp hmem]
      exact hpayload

/-- Every call keeps the ledger, unless the counter wraps around. -/
theorem serve (h : Ledger next cache sent) {again : Option CachedDownlink} {after : Session}
    {out : Option Downlink} (hserves : Serves again next cache after out)
    (hwrap : ¬ after.progress.fcntDown < next) :
    Ledger after.progress.fcntDown after.cached (sent ++ out.toList) := by
  cases hserves with
  | silent count cached =>
    rw [Option.toList_none, List.append_nil]
    exact h.advance (UInt32.not_lt.mp hwrap) cached
  | sent new carries count cached =>
    exact h.add carries (lt_of_not_wraps count hwrap) cached
  | replayed repeated held payload carries count cached =>
    rw [count, cached]
    exact h.repeated held payload carries

end Ledger

/-- The session of a device, as far as the ledger goes. -/
def Session.HasLedger (s : Session) (sent : List Downlink) : Prop :=
  Ledger s.progress.fcntDown s.cached sent

namespace HandlingRun

variable {net : Network} {start last : Device} {calls earlier : List Handling}

/-- A device keeps its owner. -/
theorem gatewayId (run : HandlingRun net start calls last) :
    last.session.gatewayId = start.session.gatewayId :=
  run.sameProfile.gatewayId

/-- While the count neither restarts nor wraps around, the ledger is kept. -/
theorem ledger (run : HandlingRun net start calls last)
    (hown : start.session.gatewayId.isSome = true)
    (hnone : ∀ call ∈ calls, call.honoured net = none) (hwrap : ∀ call ∈ calls, ¬ call.Wraps net)
    {sent : List Downlink} (h : start.session.HasLedger sent) :
    last.session.HasLedger (sent ++ calls.filterMap Handling.downlink) := by
  induction run generalizing sent with
  | nil device => simpa using h
  | @cons call calls last first rest ih =>
    have hhonoured := hnone call List.mem_cons_self
    have hafter : call.after.session.HasLedger (sent ++ call.downlink.toList) := by
      rcases first.serves hown with ⟨-, hserves⟩ | ⟨hsome, -⟩
      · exact Ledger.serve h hserves fun hlt => hwrap call List.mem_cons_self ⟨hhonoured, hlt⟩
      · rw [hhonoured] at hsome
        cases hsome
    have howner : call.after.session.gatewayId.isSome = true := by
      rw [(DataHandling.trace_handle first).sameProfile.gatewayId]
      exact hown
    have hlast := ih howner (fun other hmem => hnone other (List.mem_cons_of_mem _ hmem))
      (fun other hmem => hwrap other (List.mem_cons_of_mem _ hmem)) hafter
    have hsplit : (call :: calls).filterMap Handling.downlink =
        call.downlink.toList ++ calls.filterMap Handling.downlink := by
      cases hdownlink : call.downlink with
      | none => rw [List.filterMap_cons_none hdownlink]; rfl
      | some downlink => rw [List.filterMap_cons_some hdownlink]; rfl
    rw [hsplit, ← List.append_assoc]
    exact hlast

/-- The device has an owner, and the downlink that it keeps lies below its next counter. -/
def KeepsBelow (device : Device) : Prop :=
  device.session.gatewayId.isSome = true ∧ device.session.HasLedger []

/-- Whatever restarts came, the downlink kept lies below the next counter, unless the count wrapped
around. -/
theorem keepsBelow (run : HandlingRun net start calls last) (hstart : KeepsBelow start)
    (hwrap : ∀ call ∈ calls, ¬ call.Wraps net) : KeepsBelow last := by
  have hstep : ∀ call ∈ calls, call.Occurs net → KeepsBelow call.before →
      KeepsBelow call.after := by
    rintro call hmem hoccurs ⟨hown, hledger⟩
    have hafter : ∃ sent, call.after.session.HasLedger sent := by
      rcases hoccurs.serves hown with ⟨hhonoured, hserves⟩ | ⟨-, hserves⟩
      · have hfall := fun hlt => hwrap call hmem ⟨hhonoured, hlt⟩
        exact ⟨_, Ledger.serve hledger hserves hfall⟩
      · have hzero : Ledger 0 none [] := .nil (by simp)
        exact ⟨_, hzero.serve hserves UInt32.not_lt_zero⟩
    obtain ⟨sent, hsent⟩ := hafter
    refine ⟨?_, .nil hsent.cachedBelow⟩
    rw [(DataHandling.trace_handle hoccurs).sameProfile.gatewayId]
    exact hown
  exact (run.invariant hstart hstep).1

/-- Downlink counters are never reused for other contents. In the life of a session that belongs to
this gateway, while its downlink count does not wrap around, take any stretch without a restart: two
downlinks sent in it under one counter have one payload; a call that can send a kept downlink again
sends exactly that; and every other downlink carries a counter beyond all those before it. -/
theorem downlink_counter_not_reused {config : ServerConfig} {record : SessionRecord}
    (howner : record.gatewayId = some net.config.gatewayId)
    (run : HandlingRun net (.ofSession (.ofRecord config record)) (earlier ++ calls) last)
    (hwrap : ∀ call ∈ earlier ++ calls, ¬ call.Wraps net)
    (hnone : ∀ call ∈ calls, call.honoured net = none) :
    (∀ call ∈ calls, ∀ other ∈ calls, ∀ one two, call.downlink = some one →
        other.downlink = some two → one.fcntDown = two.fcntDown → one.payload = two.payload) ∧
      ∀ before call after, calls = before ++ call :: after → ∀ one, call.downlink = some one →
        match call.kept net with
        | some sent => one.payload = sent.payload ∧ one.fcntDown = some sent.fcntDown
        | none => ∃ n, one.fcntDown = some n ∧ ∀ other ∈ before, ∀ two,
            other.downlink = some two → ∃ m, two.fcntDown = some m ∧ m < n := by
  obtain ⟨middle, hearlier, hcalls⟩ := append_iff.mp run
  have hown : (Session.ofRecord config record).gatewayId.isSome = true := by
    rw [Session.ofRecord, howner]
    rfl
  have hloaded : KeepsBelow (.ofSession (.ofRecord config record)) :=
    ⟨hown, .nil (by simp [Device.ofSession, Session.ofRecord, Session.cached])⟩
  obtain ⟨howned, hmiddle⟩ := hearlier.keepsBelow hloaded fun call hmem =>
    hwrap call (List.mem_append_left _ hmem)
  refine ⟨?_, ?_⟩
  · intro call hcall other hother one two hone htwo heq
    have hledger := hcalls.ledger howned hnone
      (fun call hmem => hwrap call (List.mem_append_right _ hmem)) hmiddle
    rw [List.nil_append] at hledger
    exact hledger.agree one (List.mem_filterMap.mpr ⟨call, hcall, hone⟩) two
      (List.mem_filterMap.mpr ⟨other, hother, htwo⟩) heq
  · rintro before call after rfl one hone
    obtain ⟨between, hbefore, hlater⟩ := append_iff.mp hcalls
    have hledger := hbefore.ledger howned
      (fun call hmem => hnone call (List.mem_append_left _ hmem))
      (fun call hmem => hwrap call (List.mem_append_right _ (List.mem_append_left _ hmem))) hmiddle
    rw [List.nil_append] at hledger
    have hbetween : between.session.gatewayId.isSome = true := by
      rw [hbefore.gatewayId]
      exact howned
    cases hlater with
    | cons first rest =>
      have hhonoured := hnone call (List.mem_append_right _ List.mem_cons_self)
      rcases first.serves hbetween with ⟨-, hserves⟩ | ⟨hsome, -⟩
      · rw [hone] at hserves
        cases hserves with
        | sent new carries count cached =>
          rw [new]
          refine ⟨_, carries, fun other hmem two htwo => ?_⟩
          exact hledger.below two (List.mem_filterMap.mpr ⟨other, hmem, htwo⟩)
        | replayed repeated held payload carries count cached =>
          rw [repeated]
          exact ⟨payload, carries⟩
      · rw [hhonoured] at hsome
        cases hsome

/-- A device that is acknowledged under seven, sends the same frame again and then the next one: the
repeat is sent under seven as it was, and the next acknowledgement under eight. -/
theorem downlink_counter_not_reused_by_repeat :
    let calls := answeredBy Sample.network (Sample.answers (.ok ())) Sample.device
      [Sample.uplink .confirmedDataUp 5, Sample.uplink .confirmedDataUp 5,
        Sample.uplink .confirmedDataUp 6]
    (calls.filterMap fun call => call.downlink.map Downlink.fcntDown) =
        [some 7, some 7, some 8] ∧
      (∀ call ∈ calls, ¬ call.Wraps Sample.network) ∧
      (∀ call ∈ calls, call.honoured Sample.network = none) ∧
      ∀ call ∈ calls, ∀ other ∈ calls, ∀ one two, call.downlink = some one →
        other.downlink = some two → one.fcntDown = two.fcntDown → one.payload = two.payload := by
  intro calls
  obtain ⟨last, hrun⟩ := exists_answeredBy Sample.network (Sample.answers (.ok ())) Sample.device
    [Sample.uplink .confirmedDataUp 5, Sample.uplink .confirmedDataUp 5,
      Sample.uplink .confirmedDataUp 6]
  have hwrap : ∀ call ∈ calls, ¬ call.Wraps Sample.network := by
    unfold Handling.Wraps
    decide +kernel
  have hnone : ∀ call ∈ calls, call.honoured Sample.network = none := by decide +kernel
  have hearlier : HandlingRun Sample.network Sample.device ([] ++ calls) last := hrun
  exact ⟨by decide +kernel, hwrap, hnone,
    (downlink_counter_not_reused rfl hearlier hwrap hnone).1⟩

end HandlingRun

end LoraNetwork
