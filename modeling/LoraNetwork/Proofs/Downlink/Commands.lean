import LoraNetwork.Proofs.Downlink.Reading

/-!
# MAC commands in a downlink

Which commands of the network a device finds in a downlink. A command for which there is room is
placed whole, in the options or on port 0, in front of everything that a cloud message adds. One for
which there is none is left out without a trace.
-/

namespace LoraNetwork

/-- A device finds a command in a frame: it is among the commands of the network that begin the
options or fill port 0. -/
def DataFrame.Holds (suite : CipherSuite) (keys : SessionKeys) (counter : UInt32)
    (frame : DataFrame) (command : MacCommand) : Prop :=
  ∃ commands, command ∈ commands ∧ (∀ c ∈ commands, c.direction = .down) ∧
    ((∃ rest, frame.header.options = MacCommand.encodeAll commands ++ rest) ∨
      frame.port = some 0 ∧ frame.plaintext suite keys counter = MacCommand.encodeAll commands)

namespace DownlinkBuilder

variable {b : DownlinkBuilder} {suite : CipherSuite} {addr : DevAddr} {keys : SessionKeys}
variable {counter : UInt32} {frame : DataFrame} {command : MacCommand} {commands : List MacCommand}

/-- A message leaves the commands that were placed. -/
theorem commands_offer (b : DownlinkBuilder) (m : CloudMessage) :
    (b.offer m).commands = b.commands := by
  unfold offer
  split <;> rfl

/-- A command is placed if there is room for it. -/
theorem mem_commands_add (h : b.hasRoomFor command = true) : command ∈ (b.add command).commands := by
  rw [add, if_pos h]
  exact List.mem_append_right _ (List.mem_singleton_self command)

/-- What was placed was there before or was to be added. -/
theorem mem_of_mem_commands_addAll (h : command ∈ (b.addAll commands).commands) :
    command ∈ b.commands ∨ command ∈ commands := by
  induction commands generalizing b with
  | nil => exact .inl h
  | cons c rest ih =>
    obtain hadded | hrest := ih h
    · unfold add at hadded
      split at hadded
      · rcases List.mem_append.mp hadded with hbefore | hnew
        · exact .inl hbefore
        · rw [List.mem_singleton.mp hnew]
          exact .inr List.mem_cons_self
      · exact .inl hadded
    · exact .inr (List.mem_cons_of_mem c hrest)

/-- The last of several commands is added to what the others left. -/
theorem addAll_append_singleton (b : DownlinkBuilder) (commands : List MacCommand)
    (command : MacCommand) :
    b.addAll (commands ++ [command]) = (b.addAll commands).add command := by
  rw [addAll, List.foldl_append]
  rfl

/-- The device finds every command that was placed. -/
theorem holds_of_shows (hmem : command ∈ b.commands) (hdown : ∀ c ∈ b.commands, c.direction = .down)
    (hshows : frame.Shows suite addr keys counter b) : frame.Holds suite keys counter command := by
  refine ⟨b.commands, hmem, hdown, ?_⟩
  cases hport : b.onPortZero with
  | false =>
    refine .inl ⟨(b.cloud.map fun m => MacCommand.encodeAll m.commands).getD [], ?_⟩
    rw [hshows.options, options, hport]
    rfl
  | true =>
    have hsome : b.commands.isEmpty = false := by
      cases hcommands : b.commands with
      | nil =>
        rw [hcommands] at hmem
        cases hmem
      | cons c rest => rfl
    have hcontent : b.content = (some 0, MacCommand.encodeAll b.commands) := by
      simp [content, portZeroTaken, hport, hsome]
    refine .inr ⟨?_, ?_⟩
    · rw [hshows.port, hcontent]
    · rw [hshows.plaintext, hcontent]

end DownlinkBuilder

end LoraNetwork
