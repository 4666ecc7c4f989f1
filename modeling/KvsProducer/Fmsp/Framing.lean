import KvsProducer.Lib.Records
import KvsProducer.Lib.TransitionSystem
import Mathlib.Tactic.Simps.Basic

/-!
# Framing of the client's commands

`FmspServerPlaybackRecvLoop` and `FmspServerLiveviewRecvLoop` collect one
command in `Command.Buffer` and act on it.  Every `recv` asks for a whole
command, at whatever offset the loop has reached; a `recv` without data sets
the offset back; and after an idle second the loop goes on with a zeroed buffer
as if it were a command, if the client still runs.
-/

namespace KvsProducer

namespace Fmsp

open TransitionSystem Records

inductive ServerKind where
  | playback
  | liveview
  deriving DecidableEq, Repr

/-- The types of a command that a receive loop tells apart, with the data that
goes with them. -/
inductive Command where
  | reset (name : List UInt8)
  | config (targetTs arrivalTs : Int)
  | start
  | stop
  deriving DecidableEq, Repr

/-- What `LibFxnMediaProviderDef.h` fixes: the size of `Command.Buffer`,
`FMSP_CMD_PROGRAM_NAME_SIZE`, and the command in `Command.data`, which is
`none` in the default branch. -/
structure Protocol where
  commandSize : Nat
  commandSize_pos : 0 < commandSize
  programNameSize : Nat
  command : List UInt8 → Option Command

/-- A receive loop while it serves one client.  `received` are the bytes that
`recv` has returned, and `actedOn` are the buffers that the loop has treated as
a command of one of the types.  A main loop can close the client and accept the
next one in the middle of a command, and the receive loop may go on at the same
offset; this is not a step here. -/
structure RecvLoop where
  connected : Bool
  clientName : List UInt8
  startTime : Int
  totalLength : Nat
  buffer : List UInt8
  overflowed : Bool
  received : List UInt8
  actedOn : List (List UInt8)
  deriving DecidableEq, Repr

/-- One `recv`.  `bytes` are those that it stores; `programIsExecute` is the
answer of `LibUtilProgramIsExecute`, `sendSuspended` is `Send.bSuspend`, and
the times are those that the loop reads when it comes to do so. -/
inductive RecvAction where
  | received (bytes : List UInt8) (sendSuspended : Bool) (startTime : Int)
  | failed (currentTime : Int) (programIsExecute sendSuspended : Bool)
      (startTime : Int)
  deriving DecidableEq, Repr

namespace Protocol

variable (protocol : Protocol)

/-- `Command` after `memset`. -/
def zeroBuffer : List UInt8 := List.replicate protocol.commandSize 0

/-- The buffer holds a command of one of the types. -/
def Known (record : List UInt8) : Bool := (protocol.command record).isSome

/-- Write to the buffer from an offset on; what lies outside of it is lost. -/
def store (buffer : List UInt8) (offset : Nat) (bytes : List UInt8) :
    List UInt8 :=
  (buffer.take offset ++ bytes ++ buffer.drop (offset + bytes.length)).take
    protocol.commandSize

end Protocol

namespace RecvLoop

variable (kind : ServerKind) (protocol : Protocol)

/-- The loop when a client with `clientName` left over from the one before it
is accepted. -/
@[simps]
def accepted (clientName : List UInt8) (startTime : Int) : RecvLoop where
  connected := true
  clientName := clientName
  startTime := startTime
  totalLength := 0
  buffer := protocol.zeroBuffer
  overflowed := false
  received := []
  actedOn := []

/-- The outer loop begins anew for the next command. -/
@[simps]
def nextCommand (startTime : Int) (loop : RecvLoop) : RecvLoop :=
  { loop with
    totalLength := 0
    buffer := protocol.zeroBuffer
    startTime := startTime }

/-- What the `switch` does to the connection and the client's name. -/
def perform (sendSuspended : Bool) (loop : RecvLoop) : RecvLoop :=
  match protocol.command loop.buffer with
  | some (.reset name) =>
      -- The playback server keeps the name even when it is suspended.
      if kind = .playback ∨ sendSuspended = false then
        { loop with clientName := name.take (protocol.programNameSize - 1) }
      else loop
  | some .stop =>
      if sendSuspended then loop else { loop with connected := false }
  | _ => loop

@[simps]
def record (loop : RecvLoop) : RecvLoop :=
  { loop with
    actedOn := loop.actedOn ++ [loop.buffer].filter protocol.Known }

/-- The `switch` and the way back to the head of the outer loop. -/
def dispatch (sendSuspended : Bool) (startTime : Int) (loop : RecvLoop) :
    RecvLoop :=
  nextCommand protocol startTime
    (perform kind protocol sendSuspended (record protocol loop))

/-- The call of `recv` that has returned data. -/
@[simps]
def receive (bytes : List UInt8) (loop : RecvLoop) : RecvLoop :=
  { loop with
    buffer := protocol.store loop.buffer loop.totalLength bytes
    overflowed := loop.overflowed ||
      protocol.commandSize < loop.totalLength + bytes.length
    totalLength := loop.totalLength + bytes.length
    received := loop.received ++ bytes }

def isTimedOut (currentTime : Int) (loop : RecvLoop) : Bool :=
  1 < currentTime - loop.startTime

/-- The client has not said its name, or its program has ended. -/
def isClientGone (programIsExecute : Bool) (loop : RecvLoop) : Bool :=
  loop.clientName.isEmpty || !programIsExecute

@[simps]
def close (loop : RecvLoop) : RecvLoop :=
  { loop with
    totalLength := 0
    buffer := protocol.zeroBuffer
    clientName := []
    connected := false }

/-- One round of the inner loop, with the dispatch that follows its end. -/
def next (loop : RecvLoop) : RecvAction → Option RecvLoop
  | .received bytes sendSuspended startTime =>
      if loop.connected ∧ bytes ≠ [] ∧ bytes.length ≤ protocol.commandSize then
        let loop := receive protocol bytes loop
        if protocol.commandSize ≤ loop.totalLength then
          some (dispatch kind protocol sendSuspended startTime loop)
        else some loop
      else none
  | .failed currentTime programIsExecute sendSuspended startTime =>
      if loop.connected then
        if loop.isTimedOut currentTime then
          if loop.isClientGone programIsExecute then some (close protocol loop)
          else
            some (dispatch kind protocol sendSuspended startTime
              { loop with totalLength := 0, buffer := protocol.zeroBuffer })
        else some { loop with totalLength := 0 }
      else none

end RecvLoop

abbrev fmspServerPlaybackRecvLoop := RecvLoop.next .playback

abbrev fmspServerLiveviewRecvLoop := RecvLoop.next .liveview

namespace RecvLoop

variable (protocol : Protocol)

/-- No `recv` has stored outside of the buffer, and the commands acted on are
those in the records that the client's bytes consist of. -/
structure Framed (loop : RecvLoop) : Prop where
  inside : loop.overflowed = false
  exact : loop.actedOn =
    (records protocol.commandSize loop.received).filter protocol.Known

/-- A `recv` returns no more than what is missing of the command.  A `recv`
without data finds no part of a command, and leads to no dispatch of a zeroed
buffer that is a command; or the connection is closed then. -/
def Admitted (loop : RecvLoop) : RecvAction → Prop
  | .received bytes _ _ =>
      loop.totalLength + bytes.length ≤ protocol.commandSize
  | .failed currentTime programIsExecute _ _ =>
      (loop.isTimedOut currentTime = true ∧
          loop.isClientGone programIsExecute = true) ∨
        (loop.totalLength = 0 ∧
          (loop.isTimedOut currentTime = true →
            protocol.Known protocol.zeroBuffer = false))

instance (loop : RecvLoop) (action : RecvAction) :
    Decidable (Admitted protocol loop action) :=
  match action with
  | .received .. => inferInstanceAs (Decidable (_ ≤ _))
  | .failed .. => inferInstanceAs (Decidable (_ ∨ _))

/-- The bytes received are the records in `complete` and the part of a command
in `rest`, which is in the buffer. -/
structure Aligned (loop : RecvLoop) (complete rest : List UInt8) : Prop where
  whole : protocol.commandSize ∣ complete.length
  received : loop.received = complete ++ rest
  short : rest.length < protocol.commandSize
  actedOn : loop.actedOn =
    (records protocol.commandSize complete).filter protocol.Known
  inside : loop.overflowed = false
  buffered : loop.connected = true →
    loop.totalLength = rest.length ∧ loop.buffer =
      rest ++ List.replicate (protocol.commandSize - rest.length) 0

variable {kind : ServerKind} {protocol}
variable {loop target final : RecvLoop}
variable {complete rest bytes : List UInt8} {sendSuspended : Bool}
variable {startTime : Int}

theorem Aligned.framed (aligned : Aligned protocol loop complete rest) :
    Framed protocol loop where
  inside := aligned.inside
  exact := by
    rw [aligned.received, aligned.actedOn,
      records_append_short aligned.whole aligned.short]

theorem accepted_aligned {clientName : List UInt8} :
    Aligned protocol (accepted protocol clientName startTime) [] [] where
  whole := Nat.dvd_zero _
  received := rfl
  short := protocol.commandSize_pos
  actedOn := by simp
  inside := rfl
  buffered _ := ⟨rfl, rfl⟩

/-! ## The dispatch -/

@[simp] theorem perform_received :
    (perform kind protocol sendSuspended loop).received = loop.received := by
  unfold perform
  split
  · split <;> rfl
  · split <;> rfl
  · rfl

@[simp] theorem perform_actedOn :
    (perform kind protocol sendSuspended loop).actedOn = loop.actedOn := by
  unfold perform
  split
  · split <;> rfl
  · split <;> rfl
  · rfl

@[simp] theorem perform_overflowed :
    (perform kind protocol sendSuspended loop).overflowed =
      loop.overflowed := by
  unfold perform
  split
  · split <;> rfl
  · split <;> rfl
  · rfl

/-- The loop is ready for the next command after a dispatch that leaves the
bytes received and the commands acted on in agreement. -/
theorem dispatch_aligned (whole : protocol.commandSize ∣ complete.length)
    (received : loop.received = complete)
    (actedOn : loop.actedOn ++ [loop.buffer].filter protocol.Known =
      (records protocol.commandSize complete).filter protocol.Known)
    (inside : loop.overflowed = false) :
    Aligned protocol (dispatch kind protocol sendSuspended startTime loop)
      complete [] where
  whole := whole
  received := by simp [dispatch, received]
  short := protocol.commandSize_pos
  actedOn := by simpa [dispatch] using actedOn
  inside := by simp [dispatch, inside]
  buffered _ := ⟨rfl, rfl⟩

/-! ## The steps -/

theorem store_aligned
    (fits : rest.length + bytes.length ≤ protocol.commandSize) :
    protocol.store
        (rest ++ List.replicate (protocol.commandSize - rest.length) 0)
        rest.length bytes =
      rest ++ bytes ++
        List.replicate (protocol.commandSize - (rest ++ bytes).length) 0 := by
  unfold Protocol.store
  rw [List.take_left, List.drop_append, List.drop_of_length_le (by omega),
    List.nil_append, List.drop_replicate, List.take_of_length_le]
  · congr 2
    simp only [List.length_append]
    omega
  · simp only [List.length_append, List.length_replicate]
    omega

theorem Aligned.receive (aligned : Aligned protocol loop complete rest)
    (connected : loop.connected = true)
    (short : loop.totalLength + bytes.length < protocol.commandSize) :
    Aligned protocol (receive protocol bytes loop) complete
      (rest ++ bytes) := by
  obtain ⟨length, buffer⟩ := aligned.buffered connected
  rw [length] at short
  refine ⟨aligned.whole, ?_, ?_, aligned.actedOn, ?_, ?_⟩
  · simp [aligned.received]
  · simpa using short
  · simp [aligned.inside, length, Nat.le_of_lt short]
  · intro _
    refine ⟨by simp [length], ?_⟩
    rw [receive_buffer, buffer, length, store_aligned (Nat.le_of_lt short)]

theorem Aligned.completed (aligned : Aligned protocol loop complete rest)
    (connected : loop.connected = true)
    (full : loop.totalLength + bytes.length = protocol.commandSize) :
    Aligned protocol
      (dispatch kind protocol sendSuspended startTime
        (RecvLoop.receive protocol bytes loop))
      (complete ++ (rest ++ bytes)) [] := by
  obtain ⟨length, buffer⟩ := aligned.buffered connected
  rw [length] at full
  have fullRecord : (rest ++ bytes).length = protocol.commandSize := by
    rw [List.length_append, full]
  have stored : (RecvLoop.receive protocol bytes loop).buffer =
      rest ++ bytes := by
    rw [receive_buffer, buffer, length, store_aligned (Nat.le_of_eq full),
      fullRecord, Nat.sub_self, List.replicate_zero, List.append_nil]
  apply dispatch_aligned
  · rw [List.length_append, fullRecord]
    exact Nat.dvd_add aligned.whole (Nat.dvd_refl _)
  · simp [aligned.received]
  · rw [stored, receive_actedOn, aligned.actedOn, ← List.filter_append,
      records_append_record aligned.whole fullRecord protocol.commandSize_pos]
  · simp [aligned.inside, length, full]

/-- A command of which no part has come is begun anew. -/
theorem Aligned.idle (aligned : Aligned protocol loop complete rest)
    (connected : loop.connected = true) (nothing : loop.totalLength = 0) :
    rest = [] := by
  have length := (aligned.buffered connected).1
  exact List.length_eq_zero_iff.mp (length.symm.trans nothing)

theorem next_received
    (step : RecvLoop.next kind protocol loop
      (.received bytes sendSuspended startTime) = some target) :
    loop.connected = true ∧
      (protocol.commandSize ≤ loop.totalLength + bytes.length ∧
          target = dispatch kind protocol sendSuspended startTime
            (RecvLoop.receive protocol bytes loop) ∨
        loop.totalLength + bytes.length < protocol.commandSize ∧
          target = RecvLoop.receive protocol bytes loop) := by
  simp only [RecvLoop.next, receive_totalLength] at step
  split at step
  · rename_i guard
    refine ⟨guard.1, ?_⟩
    split at step
    · rename_i full
      exact .inl ⟨full, (Option.some.inj step).symm⟩
    · rename_i short
      exact .inr ⟨Nat.lt_of_not_le short, (Option.some.inj step).symm⟩
  · cases step

theorem next_failed {currentTime : Int} {programIsExecute : Bool}
    (step : RecvLoop.next kind protocol loop
      (.failed currentTime programIsExecute sendSuspended startTime) =
        some target) :
    loop.connected = true ∧
      (target = close protocol loop ∨
        loop.isTimedOut currentTime = true ∧
          loop.isClientGone programIsExecute = false ∧
          target = dispatch kind protocol sendSuspended startTime
            { loop with totalLength := 0, buffer := protocol.zeroBuffer } ∨
        loop.isTimedOut currentTime = false ∧
          target = { loop with totalLength := 0 }) := by
  simp only [RecvLoop.next] at step
  split at step
  · rename_i connected
    refine ⟨connected, ?_⟩
    split at step
    · rename_i timedOut
      split at step
      · exact .inl (Option.some.inj step).symm
      · rename_i present
        exact .inr (.inl ⟨timedOut, eq_false_of_ne_true present,
          (Option.some.inj step).symm⟩)
    · rename_i waiting
      exact .inr (.inr ⟨eq_false_of_ne_true waiting,
        (Option.some.inj step).symm⟩)
  · cases step

theorem Aligned.next {action : RecvAction}
    (aligned : Aligned protocol loop complete rest)
    (admitted : Admitted protocol loop action)
    (step : RecvLoop.next kind protocol loop action = some target) :
    ∃ complete rest, Aligned protocol target complete rest := by
  cases action with
  | received bytes sendSuspended startTime =>
      have fits : loop.totalLength + bytes.length ≤ protocol.commandSize :=
        admitted
      obtain ⟨connected, ⟨full, rfl⟩ | ⟨short, rfl⟩⟩ := next_received step
      · exact ⟨_, _, aligned.completed connected (Nat.le_antisymm fits full)⟩
      · exact ⟨_, _, aligned.receive connected short⟩
  | failed currentTime programIsExecute sendSuspended startTime =>
      obtain ⟨connected, rfl | ⟨timedOut, present, rfl⟩ | ⟨waiting, rfl⟩⟩ :=
        next_failed step
      · refine ⟨complete, rest, aligned.whole, aligned.received,
          aligned.short, aligned.actedOn, aligned.inside, ?_⟩
        simp
      · obtain ⟨nothing, unknown⟩ : loop.totalLength = 0 ∧
            protocol.Known protocol.zeroBuffer = false := by
          rcases admitted with ⟨-, gone⟩ | ⟨nothing, unknown⟩
          · simp [present] at gone
          · exact ⟨nothing, unknown timedOut⟩
        have begun := aligned.idle connected nothing
        refine ⟨complete, [], ?_⟩
        apply dispatch_aligned aligned.whole
        · simpa [begun] using aligned.received
        · simpa [unknown] using aligned.actedOn
        · exact aligned.inside
      · have nothing : loop.totalLength = 0 := by
          rcases admitted with ⟨timedOut, -⟩ | ⟨nothing, -⟩
          · simp [waiting] at timedOut
          · exact nothing
        refine ⟨complete, rest, aligned.whole, aligned.received,
          aligned.short, aligned.actedOn, aligned.inside, ?_⟩
        intro _
        have buffered := aligned.buffered connected
        rwa [nothing] at buffered

/-- When each `recv` returns no more than what is missing of the command, and
none comes back without data in the middle of a command or leads to a zeroed
buffer that is a command, a receive loop stores within its buffer and acts on
the records of the stream, as long as the main loop does not put another client
in the place of this one. -/
theorem recvLoop_framed {clientName : List UInt8}
    (run : Steps (RecvLoop.next kind protocol) (Admitted protocol)
      (accepted protocol clientName startTime) final) :
    Framed protocol final := by
  have aligned : ∃ complete rest, Aligned protocol final complete rest := by
    apply run.invariant fun loop =>
      ∃ complete rest, Aligned protocol loop complete rest
    · exact ⟨[], [], accepted_aligned⟩
    · rintro loop action target ⟨complete, rest, held⟩ admitted step
      exact held.next admitted step
  obtain ⟨complete, rest, held⟩ := aligned
  exact held.framed

/-- A layout of the commands: the type in four bytes, and then either the name
or the two times, in eight bytes each. -/
def sampleProtocol : Protocol where
  commandSize := 20
  commandSize_pos := by decide
  programNameSize := 16
  command record :=
    let time := fun offset =>
      (BitVec.ofNat 64 (((record.drop offset).take 8).foldr
        (fun byte value => byte.toNat + 256 * value) 0)).toInt
    match record.take 4 with
    | [1, 0, 0, 0] => some (.reset ((record.drop 4).takeWhile (· != 0)))
    | [2, 0, 0, 0] => some (.config (time 4) (time 12))
    | [3, 0, 0, 0] => some .start
    | [4, 0, 0, 0] => some .stop
    | _ => none

/-- A START comes in two parts, and then the client ends. -/
def startInParts : List RecvAction :=
  [.received [3, 0] true 10, .received (List.replicate 18 0) true 10,
    .failed 12 true false 12]

/-- One byte of a START comes alone; the rest of it comes with the first byte
of the next command. -/
def splitCommand : List RecvAction :=
  [.received [3] true 10, .received (List.replicate 19 0 ++ [4]) true 10]

theorem recvLoop_framed_sample :
    Framed sampleProtocol
      (stateAfter (RecvLoop.next .playback sampleProtocol)
        (Admitted sampleProtocol) (accepted sampleProtocol [] 10)
        startInParts) :=
  recvLoop_framed (steps_stateAfter (by decide))

/-- The rest of the command is stored behind its first byte, and reaches one
byte beyond the buffer. -/
theorem recvLoop_not_framed :
    ¬ (∀ final,
        Reaches (fmspServerPlaybackRecvLoop sampleProtocol)
          (accepted sampleProtocol [] 10) final →
        Framed sampleProtocol final) ∧
      ¬ ∀ final,
        Reaches (fmspServerLiveviewRecvLoop sampleProtocol)
          (accepted sampleProtocol [] 10) final →
        Framed sampleProtocol final := by
  have overflows (kind : ServerKind) :
      ∃ final, Reaches (RecvLoop.next kind sampleProtocol)
        (accepted sampleProtocol [] 10) final ∧ final.overflowed = true := by
    refine ⟨_, @steps_stateAfter _ _ _ (fun _ _ => True) _ _ splitCommand ?_,
      ?_⟩
    · cases kind <;> decide
    · cases kind <;> decide
  constructor
  · intro claimed
    obtain ⟨final, run, overflowed⟩ := overflows .playback
    exact Bool.false_ne_true ((claimed final run).inside.symm.trans overflowed)
  · intro claimed
    obtain ⟨final, run, overflowed⟩ := overflows .liveview
    exact Bool.false_ne_true ((claimed final run).inside.symm.trans overflowed)

end RecvLoop

end Fmsp

end KvsProducer
