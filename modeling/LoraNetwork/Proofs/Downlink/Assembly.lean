import LoraNetwork.Proofs.Downlink.Reading
import LoraNetwork.Proofs.Downlink.Size

/-!
# Every downlink can be written

A downlink that was put together in the order of the handler, commands first and a message behind
them, is never refused when it is written: its options keep within their fifteen bytes, and port 0
carries commands or options stand in the header, but not both.
-/

namespace LoraNetwork

namespace DownlinkBuilder

variable {b : DownlinkBuilder}

/-- The options are as long as the builder counts them. -/
theorem length_options (b : DownlinkBuilder) : b.options.length = b.optionsUsed := by
  unfold options optionsUsed cloudCommandSize
  cases hport : b.onPortZero <;> cases hcloud : b.cloud <;> simp

/-- What was put together can be written. -/
structure Writable (b : DownlinkBuilder) : Prop where
  /-- The options keep within their bytes. -/
  room : b.optionsUsed ≤ maxOptions
  /-- Beside commands on port 0 there is no message. -/
  alone : b.portZeroTaken = true → b.cloud = none
  /-- A message keeps off the ports it may not use. -/
  unreserved : ∀ m ∈ b.cloud, m.usesReservedPort = false

theorem writable_new (maxPayload : Nat) (onPortZero ack adr : Bool) :
    (new maxPayload onPortZero ack adr).Writable where
  room := by cases onPortZero <;> exact Nat.zero_le maxOptions
  alone _ := rfl
  unreserved m hmem := nomatch hmem

/-- Commands can be added as long as there is no message. -/
theorem Writable.add (h : b.Writable) (hnone : b.cloud = none) (c : MacCommand) :
    (b.add c).Writable := by
  unfold DownlinkBuilder.add
  split
  · rename_i hroom
    refine ⟨?_, fun _ => hnone, fun m hmem => h.unreserved m hmem⟩
    simp only [hasRoomFor, Bool.and_eq_true, Bool.or_eq_true, decide_eq_true_eq] at hroom
    cases hport : b.onPortZero with
    | true => simp [optionsUsed, cloudCommandSize, hnone]
    | false =>
      simp only [optionsUsed, cloudCommandSize, hport, hnone] at hroom ⊢
      simp [MacCommand.totalSize_append, MacCommand.totalSize] at hroom ⊢
      omega
  · exact h

theorem Writable.addAll (h : b.Writable) (hnone : b.cloud = none) (commands : List MacCommand) :
    (b.addAll commands).Writable := by
  induction commands generalizing b with
  | nil => exact h
  | cons c rest ih =>
    have hcloud : (b.add c).cloud = none := (cloud_addAll b [c]).trans hnone
    exact ih (h.add hnone c) hcloud

/-- A message is taken in only where it leaves the downlink as it has to be. -/
theorem Writable.offer (h : b.Writable) (m : CloudMessage) : (b.offer m).Writable := by
  unfold DownlinkBuilder.offer
  split
  · rename_i hfits
    obtain ⟨hreserved, hfree⟩ := free_of_fit hfits
    have hroom : b.optionsUsed + MacCommand.totalSize m.commands ≤ maxOptions := by
      unfold fit at hfits
      rw [hreserved, hfree] at hfits
      simp only [Bool.false_eq_true, if_false] at hfits
      split at hfits
      · cases hfits
      · omega
    constructor
    · simp only [optionsUsed, cloudCommandSize, Option.map_some, Option.getD_some] at hroom ⊢
      split <;> simp_all <;> omega
    · intro htaken
      have htaken' : b.portZeroTaken = true := htaken
      rw [hfree] at htaken'
      cases htaken'
    · intro m' hmem
      rw [← Option.some.inj hmem]
      exact hreserved
  · exact h

theorem Writable.setPending (h : b.Writable) (pending : Bool) : (b.setPending pending).Writable :=
  ⟨h.room, h.alone, h.unreserved⟩

/-- A frame carries commands on port 0, or nothing, or the payload of a message on its port. -/
theorem content_cases (b : DownlinkBuilder) :
    b.portZeroTaken = true ∧ b.content = (some 0, MacCommand.encodeAll b.commands) ∨
      b.content = (none, []) ∨
      ∃ m ∈ b.cloud, m.payload ≠ [] ∧ b.content = (some m.port, m.payload) := by
  cases htaken : b.portZeroTaken with
  | true => exact .inl ⟨rfl, by simp [content, htaken]⟩
  | false =>
    cases hcloud : b.cloud with
    | none => exact .inr (.inl (by simp [content, htaken, hcloud]))
    | some m =>
      by_cases hpayload : m.payload = []
      · exact .inr (.inl (by simp [content, htaken, hcloud, hpayload]))
      · exact .inr (.inr ⟨m, rfl, hpayload, by simp [content, htaken, hcloud, hpayload]⟩)

/-- A payload has a port. -/
theorem content_eq_nil_of_none (hnone : b.content.1 = none) : b.content.2 = [] := by
  obtain ⟨-, hcontent⟩ | hcontent | ⟨m, -, -, hcontent⟩ := b.content_cases <;>
    rw [hcontent] at hnone ⊢
  · cases hnone
  · cases hnone

/-- Where port 0 is used there are no options. -/
theorem Writable.options_eq_nil (h : b.Writable) (hzero : b.content.1 = some 0) :
    b.options = [] := by
  obtain ⟨htaken, -⟩ | hcontent | ⟨m, hmem, hpayload, hcontent⟩ := b.content_cases
  · have hport : b.onPortZero = true := by
      simp only [portZeroTaken, Bool.and_eq_true] at htaken
      exact htaken.1
    simp [options, hport, h.alone htaken]
  · rw [hcontent] at hzero
    cases hzero
  · rw [hcontent] at hzero
    have hport : m.port = 0 := Option.some.inj hzero
    have hunreserved := h.unreserved m hmem
    simp [CloudMessage.usesReservedPort, hport, hpayload] at hunreserved

/-- What was put together is written. -/
theorem Writable.exists_build (h : b.Writable) (suite : CipherSuite) (addr : DevAddr)
    (keys : SessionKeys) (counter : UInt32) :
    ∃ bytes, b.build suite addr keys counter = .ok bytes := by
  have hroom : b.options.length ≤ maxOptions := by
    rw [length_options]
    exact h.room
  have hdata : b.messageType.isData = true := by
    unfold messageType
    split <;> rfl
  have hport : ¬ (b.content.1 = none ∧ b.content.2 ≠ []) := fun hmissing =>
    hmissing.2 (content_eq_nil_of_none hmissing.1)
  have hplaces : ¬ (b.content.1 = some 0 ∧ b.options ≠ []) := fun hboth =>
    hboth.2 (h.options_eq_nil hboth.1)
  simp only [build, FrameHeader.withOptions, hroom, dite_true, DataFrame.build, hdata,
    Bool.true_eq_false, if_false, hport, hplaces]
  exact ⟨_, rfl⟩

end DownlinkBuilder

end LoraNetwork
