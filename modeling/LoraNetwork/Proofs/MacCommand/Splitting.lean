import LoraNetwork.Proofs.MacCommand.RoundTrip

/-!
# Where a sequence of MAC commands is cut

A sequence is read exactly if it falls into pieces, each a known identifier and a payload of the
length that identifier and direction fix. It falls into such pieces in one way only, since the first
byte of a piece tells how far the piece goes. A sequence that is refused is refused for the first
byte behind its longest part that falls into pieces. What is read does not hang on what follows it.
-/

namespace LoraNetwork

/-- The byte that an identifier was read from is the byte of the identifier. -/
theorem CommandId.byte_of_ofByte {b : UInt8} {id : CommandId} (h : ofByte b = some id) :
    id.byte = b := by
  have hfound := List.find?_some (p := fun id : CommandId => decide (id.byte = b)) h
  exact of_decide_eq_true hfound

namespace MacCommand

variable {dir : Direction} {bytes : Bytes} {commands : List MacCommand} {e : MacCommandError}

/-- A part of a sequence: an identifier and the bytes that belong to it. -/
structure Piece where
  /-- The identifier. -/
  id : CommandId
  /-- The bytes behind the identifier. -/
  payload : Bytes
  deriving DecidableEq, Repr

namespace Piece

/-- The bytes of a piece. -/
def encode (p : Piece) : Bytes := p.id.byte :: p.payload

/-- The payload has the length that identifier and direction fix. -/
def Complete (dir : Direction) (p : Piece) : Prop := p.payload.length = p.id.payloadLength dir

instance (dir : Direction) (p : Piece) : Decidable (p.Complete dir) :=
  inferInstanceAs (Decidable (_ = _))

/-- The command that a piece stands for, if it is complete. -/
def command? (dir : Direction) (p : Piece) : Option MacCommand := ofPayload p.id dir p.payload

/-- Every complete piece stands for a command. -/
theorem exists_command {p : Piece} (h : p.Complete dir) : ∃ c, p.command? dir = some c := by
  obtain ⟨id, payload⟩ := p
  -- No payload is longer than five bytes.
  rcases payload with - | ⟨b, - | ⟨b1, - | ⟨b2, - | ⟨b3, - | ⟨b4, - | ⟨b5, rest⟩⟩⟩⟩⟩⟩ <;>
    cases id <;> cases dir <;> cases h <;> exact ⟨_, rfl⟩

end Piece

/-- The bytes are complete pieces, one after the other. -/
structure Splits (dir : Direction) (bytes : Bytes) (pieces : List Piece) : Prop where
  /-- Each piece is complete. -/
  complete : ∀ p ∈ pieces, p.Complete dir
  /-- The pieces make up the bytes. -/
  joined : pieces.flatMap Piece.encode = bytes

namespace Splits

variable {pieces first second : List Piece}

/-- Nothing falls into no pieces. -/
theorem nil (dir : Direction) : Splits dir [] [] := ⟨nofun, rfl⟩

/-- A byte that names an identifier may be put in front with a payload of the right length. -/
theorem cons {x : UInt8} {id : CommandId} {payload : Bytes} (hid : CommandId.ofByte x = some id)
    (hlength : payload.length = id.payloadLength dir) (h : Splits dir bytes pieces) :
    Splits dir (x :: payload ++ bytes) (⟨id, payload⟩ :: pieces) where
  complete := List.forall_mem_cons.mpr ⟨hlength, h.complete⟩
  joined := by rw [List.flatMap_cons, h.joined, Piece.encode, CommandId.byte_of_ofByte hid]

/-- Pieces behind pieces make up the bytes behind the bytes. -/
theorem append {after : Bytes} (h : Splits dir bytes first) (hafter : Splits dir after second) :
    Splits dir (bytes ++ after) (first ++ second) where
  complete := List.forall_mem_append.mpr ⟨h.complete, hafter.complete⟩
  joined := by rw [List.flatMap_append, h.joined, hafter.joined]

/-- Bytes fall into pieces in one way only: the first byte of a piece tells how long it is. -/
theorem unique (hfirst : Splits dir bytes first) (hsecond : Splits dir bytes second) :
    first = second := by
  induction first generalizing bytes second with
  | nil =>
    obtain rfl := hfirst.joined
    cases second with
    | nil => rfl
    | cons q rest => cases hsecond.joined
  | cons p rest ih =>
    obtain ⟨hp, hrest⟩ := List.forall_mem_cons.mp hfirst.complete
    obtain rfl := hfirst.joined
    cases second with
    | nil => cases hsecond.joined
    | cons q others =>
      obtain ⟨hq, hothers⟩ := List.forall_mem_cons.mp hsecond.complete
      have hjoined := hsecond.joined
      simp only [List.flatMap_cons, Piece.encode, List.cons_append, List.cons.injEq] at hjoined
      have hid : q.id = p.id := by
        have hread := congrArg CommandId.ofByte hjoined.1
        rw [CommandId.ofByte_byte, CommandId.ofByte_byte] at hread
        exact Option.some.inj hread
      have hlength : q.payload.length = p.payload.length := by rw [hq, hp, hid]
      obtain ⟨hpayload, htail⟩ := List.append_inj hjoined.2 hlength
      have hpiece : q = p := by
        cases p
        cases q
        cases hid
        cases hpayload
        rfl
      rw [hpiece, ih ⟨hrest, rfl⟩ ⟨hothers, htail⟩]

end Splits

/-! ## Reading pieces -/

/-- The commands of complete pieces are read in front of any bytes. -/
theorem decode_splits_append {pieces : List Piece} (h : Splits dir bytes pieces) :
    ∃ commands, pieces.map (Piece.command? dir) = commands.map some ∧
      ∀ after, decode dir (bytes ++ after) = (decode dir after).map (commands ++ ·) := by
  induction pieces generalizing bytes with
  | nil =>
    obtain rfl := h.joined
    refine ⟨[], rfl, fun after => ?_⟩
    rw [List.flatMap_nil, List.nil_append]
    cases decode dir after <;> rfl
  | cons p rest ih =>
    obtain ⟨hp, hrest⟩ := List.forall_mem_cons.mp h.complete
    obtain ⟨c, hc⟩ := Piece.exists_command hp
    obtain ⟨commands, hcommands, hread⟩ := ih ⟨hrest, rfl⟩
    refine ⟨c :: commands, ?_, fun after => ?_⟩
    · rw [List.map_cons, List.map_cons, hc, hcommands]
    · rw [← h.joined, List.flatMap_cons, List.append_assoc, Piece.encode, decode_payload_append hc,
        hread]
      cases decode dir after <;> rfl

/-- Complete pieces are read as their commands. -/
theorem decode_of_splits {pieces : List Piece} (h : Splits dir bytes pieces) :
    ∃ commands, decode dir bytes = .ok commands ∧
      pieces.map (Piece.command? dir) = commands.map some := by
  obtain ⟨commands, hcommands, hread⟩ := decode_splits_append h
  have hwhole := hread []
  rw [List.append_nil, decode, Except.map, List.append_nil] at hwhole
  exact ⟨commands, hwhole, hcommands⟩

/-- Bytes that are read fall into complete pieces. -/
theorem splits_of_decode (h : decode dir bytes = .ok commands) :
    ∃ pieces, Splits dir bytes pieces := by
  fun_induction decode dir bytes generalizing commands with
  | case1 => exact ⟨[], Splits.nil dir⟩
  | case2 first rest hunknown => cases h
  | case3 first rest id hid hcut => cases h
  | case4 first rest id hid command hpayload after hafter ih =>
    obtain ⟨pieces, hpieces⟩ := ih hafter
    obtain ⟨-, -, hcomplete⟩ := conveyed_of_ofPayload hpayload
    have hsplits := hpieces.cons hid hcomplete
    rw [List.cons_append, List.take_append_drop] at hsplits
    exact ⟨_, hsplits⟩
  | case5 first rest id hid command hpayload e hafter ih => cases h

/-- Bytes are read exactly if they fall into complete pieces. -/
theorem decodes_iff_splits :
    (∃ commands, decode dir bytes = .ok commands) ↔ ∃ pieces, Splits dir bytes pieces := by
  constructor
  · rintro ⟨commands, h⟩
    exact splits_of_decode h
  · rintro ⟨pieces, h⟩
    obtain ⟨commands, hread, -⟩ := decode_of_splits h
    exact ⟨commands, hread⟩

/-- What is read is read in front of any bytes. -/
theorem decode_append (h : decode dir bytes = .ok commands) (after : Bytes) :
    decode dir (bytes ++ after) = (decode dir after).map (commands ++ ·) := by
  obtain ⟨pieces, hpieces⟩ := splits_of_decode h
  obtain ⟨others, -, hread⟩ := decode_splits_append hpieces
  have hwhole := hread []
  rw [List.append_nil, h, decode, Except.map, List.append_nil] at hwhole
  rw [Except.ok.inj hwhole]
  exact hread after

/-! ## Where reading stops -/

/-- Why reading stops at a byte: it names no identifier, or fewer bytes are left than its payload
takes. -/
inductive Fault (dir : Direction) (x : UInt8) (after : Bytes) : MacCommandError → Prop where
  /-- The byte names no identifier. -/
  | unknown (unnamed : CommandId.ofByte x = none) : Fault dir x after (.unknownCommand x)
  /-- The payload is cut short. -/
  | cut {id : CommandId} (named : CommandId.ofByte x = some id)
      (short : after.length < id.payloadLength dir) : Fault dir x after (.truncated x)

namespace Fault

variable {x : UInt8} {after : Bytes}

/-- The error tells whether the byte names an identifier. -/
theorem error_eq (h : Fault dir x after e) :
    e = if (CommandId.ofByte x).isSome then .truncated x else .unknownCommand x := by
  cases h with
  | unknown unnamed => rw [unnamed]; rfl
  | cut named short => rw [named]; rfl

/-- Fewer bytes behind the byte do not help. -/
theorem of_shorter {shorter : Bytes} (h : Fault dir x after e) (hcut : shorter <+: after) :
    Fault dir x shorter e := by
  cases h with
  | unknown unnamed => exact .unknown unnamed
  | cut named short => exact .cut named (Nat.lt_of_le_of_lt hcut.length_le short)

/-- Reading that begins at the byte is refused. -/
theorem decode_eq (h : Fault dir x after e) : decode dir (x :: after) = .error e := by
  cases h with
  | unknown unnamed => rw [decode, unnamed]
  | @cut id named short =>
    have hpayload : ofPayload id dir (after.take (id.payloadLength dir)) = none := by
      rw [Option.eq_none_iff_forall_ne_some]
      intro c hread
      obtain ⟨-, -, hlength⟩ := conveyed_of_ofPayload hread
      rw [List.length_take] at hlength
      omega
    rw [decode, named]
    dsimp only
    rw [hpayload]

end Fault

/-- Refused bytes begin with complete pieces, and reading stops at the byte behind them. -/
theorem fault_of_decode (h : decode dir bytes = .error e) :
    ∃ before x after, bytes = before ++ x :: after ∧ (∃ pieces, Splits dir before pieces) ∧
      Fault dir x after e := by
  fun_induction decode dir bytes generalizing e with
  | case1 => cases h
  | case2 first rest hunknown =>
    obtain rfl := Except.error.inj h
    exact ⟨[], first, rest, rfl, ⟨[], Splits.nil dir⟩, .unknown hunknown⟩
  | case3 first rest id hid hcut =>
    obtain rfl := Except.error.inj h
    have hshort : rest.length < id.payloadLength dir := by
      apply Nat.lt_of_not_le
      intro hlong
      have hcomplete : Piece.Complete dir ⟨id, rest.take (id.payloadLength dir)⟩ :=
        List.length_take_of_le hlong
      obtain ⟨c, hc⟩ := Piece.exists_command hcomplete
      rw [Piece.command?, hcut] at hc
      cases hc
    exact ⟨[], first, rest, rfl, ⟨[], Splits.nil dir⟩, .cut hid hshort⟩
  | case4 first rest id hid command hpayload after hafter ih => cases h
  | case5 first rest id hid command hpayload e hafter ih =>
    obtain rfl := Except.error.inj h
    obtain ⟨before, x, after, hrest, ⟨pieces, hpieces⟩, hfault⟩ := ih hafter
    obtain ⟨-, -, hcomplete⟩ := conveyed_of_ofPayload hpayload
    refine ⟨_, x, after, ?_, ⟨_, hpieces.cons hid hcomplete⟩, hfault⟩
    rw [List.append_assoc, ← hrest, List.cons_append, List.take_append_drop]

/-- The longest beginning of some bytes that falls into complete pieces. -/
structure Longest (dir : Direction) (bytes before : Bytes) : Prop where
  /-- It is a beginning. -/
  begins : before <+: bytes
  /-- It falls into complete pieces. -/
  splits : ∃ pieces, Splits dir before pieces
  /-- No other beginning that does is longer. -/
  longest : ∀ other, other <+: bytes → (∃ pieces, Splits dir other pieces) →
    other.length ≤ before.length

/-- No beginning beyond the byte that reading stops at falls into complete pieces. -/
theorem Fault.longest {before after : Bytes} {x : UInt8} (h : Fault dir x after e)
    (hbefore : ∃ pieces, Splits dir before pieces) :
    Longest dir (before ++ x :: after) before := by
  refine ⟨List.prefix_append _ _, hbefore, fun other hother hsplits => ?_⟩
  apply Nat.le_of_not_lt
  intro hlonger
  obtain ⟨behind, rfl⟩ := List.prefix_of_prefix_length_le (List.prefix_append before _) hother
    (Nat.le_of_lt hlonger)
  obtain ⟨pieces, hpieces⟩ := hbefore
  obtain ⟨commands, hread, -⟩ := decode_of_splits hpieces
  obtain ⟨others, hwhole⟩ := decodes_iff_splits.mpr hsplits
  rw [decode_append hread] at hwhole
  rw [List.prefix_append_right_inj] at hother
  cases behind with
  | nil => simp at hlonger
  | cons y shorter =>
    obtain ⟨rfl, hshorter⟩ := List.cons_prefix_cons.mp hother
    rw [(h.of_shorter hshorter).decode_eq] at hwhole
    cases hwhole

/-- Behind the longest beginning that falls into complete pieces reading stops. -/
theorem Longest.fault {before after : Bytes} {x : UInt8}
    (h : Longest dir (before ++ x :: after) before) : ∃ e, Fault dir x after e := by
  cases hid : CommandId.ofByte x with
  | none => exact ⟨_, .unknown hid⟩
  | some id =>
    refine ⟨_, .cut hid (Nat.lt_of_not_le fun hlong => ?_)⟩
    -- Otherwise one more piece would fit behind the longest beginning.
    obtain ⟨pieces, hpieces⟩ := h.splits
    have hone : Splits dir (x :: after.take (id.payloadLength dir))
        [⟨id, after.take (id.payloadLength dir)⟩] := by
      have hpiece := (Splits.nil dir).cons hid (List.length_take_of_le hlong)
      rwa [List.append_nil] at hpiece
    have hcut : before ++ x :: after.take (id.payloadLength dir) <+: before ++ x :: after := by
      rw [List.prefix_append_right_inj, List.prefix_cons_inj]
      exact List.take_prefix _ _
    have hlength := h.longest _ hcut ⟨_, hpieces.append hone⟩
    simp only [List.length_append, List.length_cons] at hlength
    omega

/-- Bytes are refused for the first byte behind their longest beginning that falls into complete
pieces. -/
theorem decode_error_iff :
    decode dir bytes = .error e ↔ ∃ before x after, bytes = before ++ x :: after ∧
      Longest dir bytes before ∧
      e = if (CommandId.ofByte x).isSome then .truncated x else .unknownCommand x := by
  constructor
  · intro h
    obtain ⟨before, x, after, rfl, hbefore, hfault⟩ := fault_of_decode h
    exact ⟨before, x, after, rfl, hfault.longest hbefore, hfault.error_eq⟩
  · rintro ⟨before, x, after, rfl, hlongest, he⟩
    obtain ⟨reason, hfault⟩ := hlongest.fault
    rw [← hfault.error_eq] at he
    obtain ⟨pieces, hpieces⟩ := hlongest.splits
    obtain ⟨commands, hread, -⟩ := decode_of_splits hpieces
    rw [decode_append hread, hfault.decode_eq, he]
    rfl

/-- Bytes are read exactly if they fall into complete pieces, which they do in one way at most, and
are read as the commands of these pieces. Bytes that are refused are refused for the byte behind
their longest beginning that falls into complete pieces, as cut short if it names an identifier and
as unknown otherwise. What is read is read in front of any bytes, errors of those included. -/
theorem decoded_piece_by_piece (dir : Direction) :
    (∀ bytes, (∃ commands, decode dir bytes = .ok commands) ↔ ∃ pieces, Splits dir bytes pieces) ∧
    (∀ bytes pieces, Splits dir bytes pieces →
      (∀ others, Splits dir bytes others → others = pieces) ∧
      ∀ commands, decode dir bytes = .ok commands →
        pieces.map (Piece.command? dir) = commands.map some) ∧
    (∀ bytes e, decode dir bytes = .error e ↔ ∃ before x after, bytes = before ++ x :: after ∧
      Longest dir bytes before ∧
      e = if (CommandId.ofByte x).isSome then .truncated x else .unknownCommand x) ∧
    ∀ first commands, decode dir first = .ok commands → ∀ second,
      decode dir (first ++ second) = (decode dir second).map (commands ++ ·) := by
  refine ⟨fun bytes => decodes_iff_splits, fun bytes pieces h => ⟨fun others hothers =>
    hothers.unique h, fun commands hread => ?_⟩, fun bytes e => decode_error_iff,
    fun first commands h second => decode_append h second⟩
  obtain ⟨same, hsame, hcommands⟩ := decode_of_splits h
  rw [hread] at hsame
  rw [Except.ok.inj hsame, hcommands]

namespace Sample

/-- What a device answers in one uplink. -/
def answers : Bytes := [0x02, 0x03, 0x07, 0x06, 0xFE, 0x3F]

/-- The pieces that the answers fall into. -/
def answerPieces : List Piece :=
  [⟨.linkCheck, []⟩, ⟨.linkAdr, [0x07]⟩, ⟨.devStatus, [0xFE, 0x3F]⟩]

/-- The beginning of another answer. -/
def begun : Bytes := [0x06, 0xFE]

end Sample

/-- A round of answers is read piece by piece. With an answer behind it that is cut short, all of it
is refused for the identifier of that answer. -/
theorem decoded_piece_by_piece_of_sample :
    Splits .up Sample.answers Sample.answerPieces ∧
    (∃ commands, decode .up Sample.answers = .ok commands ∧
      Sample.answerPieces.map (Piece.command? .up) = commands.map some) ∧
    decode .up (Sample.answers ++ Sample.begun) = .error (.truncated 0x06) ∧
    ∃ before after, Sample.answers ++ Sample.begun = before ++ 0x06 :: after ∧
      Longest .up (Sample.answers ++ Sample.begun) before := by
  obtain ⟨hreads, hsplits, herror, happend⟩ := decoded_piece_by_piece .up
  have hanswers : Splits .up Sample.answers Sample.answerPieces := ⟨by decide, rfl⟩
  obtain ⟨commands, hread⟩ := (hreads _).mpr ⟨_, hanswers⟩
  have hstatus : CommandId.ofByte 0x06 = some .devStatus := rfl
  have hfault : Fault .up 0x06 [0xFE] (.truncated 0x06) := .cut hstatus (by decide)
  have hrefused : decode .up (Sample.answers ++ Sample.begun) = .error (.truncated 0x06) := by
    rw [happend _ _ hread, Sample.begun, hfault.decode_eq]
    rfl
  obtain ⟨before, x, after, hbytes, hlongest, he⟩ := (herror _ _).mp hrefused
  have hx : x = 0x06 := by
    split at he
    · exact (MacCommandError.truncated.inj he).symm
    · cases he
  rw [hx] at hbytes
  exact ⟨hanswers, ⟨commands, hread, (hsplits _ _ hanswers).2 commands hread⟩, hrefused, before,
    after, hbytes, hlongest⟩

end MacCommand

end LoraNetwork
