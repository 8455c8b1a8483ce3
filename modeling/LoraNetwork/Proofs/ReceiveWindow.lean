import LoraNetwork.Config.Server

/-!
# What the questions about a window say of each other

Whether a window is in time, which window is chosen, how much time a look for a cloud message may
take and when a downlink has to be handed over are four computations on the same delays. All of them
are read here as one comparison: the elapsed time, the time that packaging takes and what is left of
a window add up to its delay. A configuration that passes its check leaves room for packaging before
the first window, so that no subtraction is cut off, and the four computations agree at every
instant, the edges of the windows included.
-/

namespace LoraNetwork

namespace WindowTimer

variable {timer : WindowTimer} {preferred : UInt8} {window : ReceiveWindow}
variable {elapsed earlier later left : Duration}

/-! ## One comparison for every question -/

/-- What is over before both windows open is over before either. -/
theorem le_delay {span : Duration} (hfirst : span ≤ timer.rx1Delay)
    (hsecond : span ≤ timer.rx2Delay) (window : ReceiveWindow) : span ≤ timer.delay window := by
  cases window with
  | rx1 => exact hfirst
  | rx2 => exact hsecond

/-- A window is in time as long as packaging ends before it opens. -/
theorem inTime_iff :
    timer.inTime window elapsed = true ↔ elapsed + timer.processing ≤ timer.delay window :=
  decide_eq_true_iff

/-- What a window leaves is what the elapsed time and packaging lack of its delay. -/
theorem slack_eq_some_iff :
    timer.slack elapsed window = some left ↔
      elapsed + timer.processing + left = timer.delay window := by
  unfold slack remaining Duration at *
  grind

/-- Every preference allows the second window, and only a preference of two forgoes the first. -/
theorem mem_allowed : window ∈ allowed preferred ↔ (window = .rx1 → preferred ≠ 2) := by
  unfold allowed
  cases window <;> split <;> simp_all

/-- The window to send in is the first one in time among those that are allowed. -/
theorem choose_eq_find : timer.choose preferred elapsed =
    (allowed preferred).find? fun window => timer.inTime window elapsed := by
  unfold choose allowed
  by_cases hpreferred : preferred = 2
  · cases hsecond : timer.inTime .rx2 elapsed <;> simp [hpreferred, hsecond]
  · cases hfirst : timer.inTime .rx1 elapsed <;> cases hsecond : timer.inTime .rx2 elapsed <;>
      simp [hpreferred, hfirst, hsecond]

/-- A window that is chosen leaves the time that packaging takes. -/
theorem inTime_of_choose (h : timer.choose preferred elapsed = some window) :
    elapsed + timer.processing ≤ timer.delay window := by
  rw [choose_eq_find] at h
  have hinTime := List.find?_some h
  exact inTime_iff.mp hinTime

/-- Some window is chosen as long as an allowed one is in time. -/
theorem isSome_choose_of_inTime (hallowed : window ∈ allowed preferred)
    (h : elapsed + timer.processing ≤ timer.delay window) :
    (timer.choose preferred elapsed).isSome = true := by
  rw [choose_eq_find, List.find?_isSome]
  exact ⟨window, hallowed, inTime_iff.mpr h⟩

/-- Where no window is chosen, none of the allowed ones is in time. -/
theorem delay_lt_of_choose (h : timer.choose preferred elapsed = none)
    (hallowed : window ∈ allowed preferred) :
    timer.delay window < elapsed + timer.processing := by
  rw [choose_eq_find, List.find?_eq_none] at h
  exact Nat.lt_of_not_le fun hle => h window hallowed (inTime_iff.mpr hle)

/-- Time for a look at the cloud is what one of the allowed windows leaves, and no less than the
least worth spending. -/
theorem slack_of_cloudBudget (h : timer.cloudBudget preferred elapsed ≠ 0) :
    ∃ window ∈ allowed preferred,
      elapsed + timer.processing + timer.cloudBudget preferred elapsed = timer.delay window ∧
      timer.cloudMinimum ≤ timer.cloudBudget preferred elapsed := by
  unfold cloudBudget at h ⊢
  cases hfound : (((allowed preferred).filterMap (timer.slack elapsed)).find? fun budget =>
      timer.cloudMinimum ≤ budget) with
  | none => simp [hfound] at h
  | some budget =>
    obtain ⟨window, hallowed, hslack⟩ := List.mem_filterMap.mp (List.mem_of_find?_eq_some hfound)
    have hworth := List.find?_some hfound
    exact ⟨window, hallowed, slack_eq_some_iff.mp hslack, of_decide_eq_true hworth⟩

/-- Where no time is left for a look at the cloud, every allowed window leaves less than the least
worth spending, unless nothing at all is worth it. -/
theorem delay_lt_of_cloudBudget (hminimum : 0 < timer.cloudMinimum)
    (h : timer.cloudBudget preferred elapsed = 0) (hallowed : window ∈ allowed preferred) :
    timer.delay window < elapsed + timer.processing + timer.cloudMinimum := by
  refine Nat.lt_of_not_le fun hroom => ?_
  obtain ⟨left, hleft⟩ := Nat.exists_eq_add_of_le hroom
  have hslack : timer.slack elapsed window = some (timer.cloudMinimum + left) :=
    slack_eq_some_iff.mpr (by unfold Duration at *; omega)
  have hmem : timer.cloudMinimum + left ∈ (allowed preferred).filterMap (timer.slack elapsed) :=
    List.mem_filterMap.mpr ⟨window, hallowed, hslack⟩
  unfold cloudBudget at h
  cases hfound : (((allowed preferred).filterMap (timer.slack elapsed)).find? fun budget =>
      timer.cloudMinimum ≤ budget) with
  | none =>
    exact List.find?_eq_none.mp hfound _ hmem (decide_eq_true (Nat.le_add_right _ _))
  | some budget =>
    -- the budget found is no less than a minimum that is positive
    have hworth := List.find?_some hfound
    rw [hfound, Option.getD_some] at h
    rw [h, decide_eq_true_iff] at hworth
    exact Nat.not_lt.mpr hworth hminimum

/-! ## No way back -/

end WindowTimer

/-- How many of the two windows are gone. -/
def WindowState.gone : WindowState → Nat
  | .beforeRx1 => 0
  | .beforeRx2 => 1
  | .missed => 2

/-- Where an uplink stands for which this window is chosen. -/
def WindowState.ofChoice : Option ReceiveWindow → WindowState
  | some .rx1 => .beforeRx1
  | some .rx2 => .beforeRx2
  | none => .missed

namespace WindowTimer

variable {timer : WindowTimer} {preferred : UInt8} {window : ReceiveWindow}
variable {elapsed earlier later : Duration}

/-- An uplink stands before the window that is chosen without a preference for the second. -/
theorem state_eq_ofChoice (hpreferred : preferred ≠ 2) :
    timer.state elapsed = .ofChoice (timer.choose preferred elapsed) := by
  unfold state choose
  cases timer.inTime .rx1 elapsed <;> cases timer.inTime .rx2 elapsed <;>
    simp [hpreferred, WindowState.ofChoice]

/-- A window that is in time was in time before. -/
theorem inTime_of_le (hle : earlier ≤ later) (h : timer.inTime window later = true) :
    timer.inTime window earlier = true :=
  inTime_iff.mpr (Nat.le_trans (Nat.add_le_add_right hle _) (inTime_iff.mp h))

/-- As time passes, the choice goes on to later windows only. -/
theorem gone_choose_mono (hle : earlier ≤ later) :
    (WindowState.ofChoice (timer.choose preferred earlier)).gone ≤
      (WindowState.ofChoice (timer.choose preferred later)).gone := by
  have hfirst : timer.inTime .rx1 later = true → timer.inTime .rx1 earlier = true :=
    inTime_of_le hle
  have hsecond : timer.inTime .rx2 later = true → timer.inTime .rx2 earlier = true :=
    inTime_of_le hle
  unfold choose
  grind [WindowState.ofChoice, WindowState.gone]

/-! ## Agreement -/

/-- What the computations on the windows of one uplink say of each other. -/
structure Coherent (timer : WindowTimer) (preferred : UInt8) : Prop where
  /-- A window is in time until its deadline, the deadline itself included. -/
  punctual : ∀ window elapsed, timer.inTime window elapsed = true ↔
    timer.arrival + (elapsed : Int) ≤ timer.deadline window
  /-- The choice never returns to an earlier window. -/
  forward : ∀ earlier later, earlier ≤ later →
    (WindowState.ofChoice (timer.choose preferred earlier)).gone ≤
      (WindowState.ofChoice (timer.choose preferred later)).gone
  /-- Neither does the state. -/
  onward : ∀ earlier later, earlier ≤ later →
    (timer.state earlier).gone ≤ (timer.state later).gone
  /-- On arrival there is a window to send in. -/
  reachable : (timer.choose preferred 0).isSome = true
  /-- Once there is none, the deadlines of all windows that the preference allows have passed. -/
  closed : ∀ elapsed, timer.choose preferred elapsed = none → ∀ window ∈ allowed preferred,
    timer.deadline window < timer.arrival + (elapsed : Int)
  /-- Time for a look at the cloud is no less than the least worth spending, and a window can be
  reached for as long as the look may take. -/
  budgeted : ∀ elapsed, 0 < timer.cloudBudget preferred elapsed →
    timer.cloudMinimum ≤ timer.cloudBudget preferred elapsed ∧
      ∀ spent ≤ timer.cloudBudget preferred elapsed,
        (timer.choose preferred (elapsed + spent)).isSome = true
  /-- Without such time, the deadline of every allowed window is nearer than the least worth
  spending. -/
  spent : 0 < timer.cloudMinimum → ∀ elapsed, timer.cloudBudget preferred elapsed = 0 →
    ∀ window ∈ allowed preferred,
      timer.deadline window < timer.arrival + (elapsed : Int) + (timer.cloudMinimum : Int)

/-- The computations agree where packaging fits before both windows. -/
theorem coherent_of_processing (hroom : ∀ window, timer.processing ≤ timer.delay window) :
    timer.Coherent preferred where
  punctual window elapsed := by
    have := hroom window
    rw [inTime_iff]
    unfold deadline Instant Duration at *
    omega
  forward earlier later hle := gone_choose_mono hle
  onward earlier later hle := by
    have hfirst : (1 : UInt8) ≠ 2 := by decide
    rw [state_eq_ofChoice hfirst, state_eq_ofChoice hfirst]
    exact gone_choose_mono hle
  reachable := by
    have hsecond : ReceiveWindow.rx2 ∈ allowed preferred := mem_allowed.mpr fun h => nomatch h
    exact isSome_choose_of_inTime hsecond (by rw [Nat.zero_add]; exact hroom .rx2)
  closed elapsed hnone window hallowed := by
    have := delay_lt_of_choose hnone hallowed
    have := hroom window
    unfold deadline Instant Duration at *
    omega
  budgeted elapsed hbudget := by
    obtain ⟨window, hallowed, hleft, hminimum⟩ := slack_of_cloudBudget (Nat.ne_of_gt hbudget)
    refine ⟨hminimum, fun spent hspent => isSome_choose_of_inTime hallowed ?_⟩
    unfold Duration at *
    omega
  spent hminimum elapsed hbudget window hallowed := by
    have := delay_lt_of_cloudBudget hminimum hbudget hallowed
    have := hroom window
    unfold deadline Instant Duration at *
    omega

end WindowTimer

/-- A configuration that passes its check packages within a second. -/
theorem ServerConfig.packaging_le {config : ServerConfig} (hvalid : config.fault = none) :
    Duration.ofMillis config.processingTime ≤ Duration.ofSeconds 1 := by
  have hprocessing : config.processingTime < 1000 := by
    unfold fault at hvalid
    grind
  unfold Duration.ofMillis Duration.ofSeconds Duration
  omega

/-- More seconds are a longer time. -/
theorem Duration.ofSeconds_le {s t : Nat} (h : s ≤ t) : ofSeconds s ≤ ofSeconds t :=
  Nat.mul_le_mul_left _ h

/-- No window opens earlier than one second after an uplink, whatever the delay of the device. -/
theorem ReceiveTiming.second_le (rxDelay : UInt8) :
    Duration.ofSeconds 1 ≤ (ofDelay rxDelay).rx1 ∧ Duration.ofSeconds 1 ≤ (ofDelay rxDelay).rx2 ∧
      Duration.ofSeconds 1 ≤ (ofDelay rxDelay).join1 ∧
      Duration.ofSeconds 1 ≤ (ofDelay rxDelay).join2 := by
  have hfirst : Duration.ofSeconds 1 ≤ (ofDelay rxDelay).rx1 :=
    Duration.ofSeconds_le (Nat.le_min.mpr ⟨Nat.le_max_right _ _, by decide⟩)
  exact ⟨hfirst, Nat.le_trans hfirst (Nat.le_add_right _ _), Duration.ofSeconds_le (by decide),
    Duration.ofSeconds_le (by decide)⟩

end LoraNetwork
