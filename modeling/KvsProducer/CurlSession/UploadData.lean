import KvsProducer.CurlSession.Step
import KvsProducer.Jsmn

/-!
# The data of an upload

What `postReadCallback` retrieves from PIC and what it hands to libcurl, over
all calls of an upload session with the notifications and the termination that
come between its steps.  libcurl is told a number of bytes in front of the
buffer, two of which stand for a pause and for an abort.
-/

namespace KvsProducer

namespace CurlSession

open TransitionSystem

def CURL_READFUNC_ABORT : Nat := 0x10000000

def CURL_READFUNC_PAUSE : Nat := 0x10000001

/-- The size that libcurl admits for its upload buffer. -/
def UPLOADBUFFER_MAX : Nat := 2 * 1024 * 1024

/-- The buffer of libcurl that a call may fill. -/
structure ReadBuffer where
  bytes : Bytes
  length_le : bytes.length ≤ UPLOADBUFFER_MAX

/-- What `getKinesisVideoStreamData` returns, with the hook behind it, and what
it puts in front of the buffer. -/
structure Retrieval where
  status : DataStatus
  bytes : Bytes
  deriving DecidableEq, Repr

/-- A call that has returned: what it has retrieved, the buffer, and the number
that it has returned. -/
structure ReadCall where
  retrievals : List Retrieval
  pBuffer : Bytes
  bytesWritten : Nat
  deriving DecidableEq, Repr

def ReadResult.bytesWritten : ReadResult → Nat
  | .wrote size => size
  | .pause => CURL_READFUNC_PAUSE
  | .abort => CURL_READFUNC_ABORT

/-- All that is retrieved, in order. -/
def retrieved (retrievals : List Retrieval) : Bytes :=
  retrievals.flatMap (·.bytes)

/-- `STATUS_END_OF_STREAM` has been returned. -/
def EndsStream (retrievals : List Retrieval) : Prop :=
  ∃ retrieval ∈ retrievals, retrieval.status = .endOfStream

/-- What libcurl takes from the buffer. -/
def ReadCall.handed (call : ReadCall) : Bytes :=
  if call.bytesWritten = CURL_READFUNC_ABORT ∨
      call.bytesWritten = CURL_READFUNC_PAUSE then []
  else call.pBuffer.take call.bytesWritten

/-- The session, the buffer and the retrievals of the call under way, and the
calls that have returned. -/
structure DataSession where
  session : Session
  pBuffer : ReadBuffer
  retrievals : List Retrieval
  calls : List ReadCall

/-- `invoke`, `getData` and `return` are steps of `postReadCallback`. -/
inductive DataAction where
  | invoke (pBuffer : ReadBuffer)
  | getData (retrieval : Retrieval)
  | return
  | session (action : Action)

/-- The steps of the session that are taken with their data. -/
def Action.HasData : Action → Bool
  | .callback .invoke | .callback (.getData _ _) | .callback .return => true
  | _ => false

/-- The bytes take the place of what was in front of the buffer. -/
def ReadBuffer.fill (pBuffer : ReadBuffer) (bytes : Bytes)
    (fits : bytes.length ≤ pBuffer.bytes.length) : ReadBuffer :=
  { bytes := bytes ++ pBuffer.bytes.drop bytes.length
    length_le := by
      rw [List.length_append, List.length_drop,
        Nat.add_sub_of_le fits]
      exact pBuffer.length_le }

namespace DataSession

def initial : DataSession :=
  { session := .initial
    pBuffer :=
      { bytes := []
        length_le := Nat.zero_le _ }
    retrievals := []
    calls := [] }

/-- A call can begin whenever none is under way, even if libcurl has been told
that there will be no more data. -/
def next (data : DataSession) : DataAction → Option DataSession
  | .invoke pBuffer =>
      match data.session.upload with
      | .inside _ => none
      | _ =>
          some
            { data with
              session := { data.session with upload := .inside .checkPaused }
              pBuffer := pBuffer }
  | .getData retrieval =>
      if fits : retrieval.bytes.length ≤ data.pBuffer.bytes.length then do
        let session ← data.session.callbackStep
          (.getData retrieval.status retrieval.bytes.length)
        some
          { data with
            session := session
            pBuffer := data.pBuffer.fill retrieval.bytes fits
            retrievals := data.retrievals ++ [retrieval] }
      else none
  | .return =>
      match data.session.upload with
      | .inside (.returning result) =>
          some
            { data with
              session := { data.session with upload := result.upload }
              retrievals := []
              calls := data.calls ++
                [{ retrievals := data.retrievals
                   pBuffer := data.pBuffer.bytes
                   bytesWritten := result.bytesWritten }] }
      | _ => none
  | .session action =>
      if action.HasData then none
      else do
        let session ← data.session.next action
        some { data with session := session }

end DataSession

/-- libcurl gets what is retrieved: all of it, but for what is retrieved in calls
that abort, in order, and each call hands over no more than it has retrieved.
When the stream has ended, nothing is retrieved any more. -/
structure ConservesData (calls : List ReadCall) : Prop where
  conserved : calls.flatMap (·.handed) =
    (calls.filter (·.bytesWritten ≠ CURL_READFUNC_ABORT)).flatMap
      fun call => retrieved call.retrievals
  own : ∀ call ∈ calls, call.handed <+: retrieved call.retrievals
  ended : calls.Pairwise fun earlier later =>
    EndsStream earlier.retrievals →
      later.retrievals = [] ∧ later.bytesWritten = 0

/-! ### The call under way -/

/-- The result of a call accounts for what has been retrieved in it. -/
def ReadResult.Settles (result : ReadResult) (retrievals : List Retrieval)
    (pBuffer : Bytes) : Prop :=
  match result with
  | .wrote size => pBuffer.take size = retrieved retrievals ∧
      size ≤ pBuffer.length
  | .pause => retrieved retrievals = []
  | .abort => True

/-- What has been retrieved so far, and what the call knows of the flags: it has
found `paused` and `endOfStream` clear before it reads. -/
def Upload.Accounts (upload : Upload) (ended paused : Bool)
    (retrievals : List Retrieval) (pBuffer : Bytes) : Prop :=
  match upload with
  | .outside _ | .finished | .inside .checkPaused => retrievals = []
  | .inside .checkEndOfStream => retrievals = [] ∧ paused = false
  | .inside .checkTerminating =>
      retrievals = [] ∧ paused = false ∧ ended = false
  | .inside (.reading _) => paused = false ∧ ended = false ∧
      retrieved retrievals = [] ∧ ¬ EndsStream retrievals
  | .inside (.cleanUp result) | .inside (.returning result) =>
      result.Settles retrievals pBuffer ∧
        (EndsStream retrievals → ended = true ∧ paused = false ∧
          ∃ size, result = .wrote size)

/-- A call that is under way when the stream has ended will return 0. -/
def Upload.ReturnsNothing : Upload → Prop
  | .inside (.cleanUp result) | .inside (.returning result) =>
      result = .wrote 0
  | _ => True

/-- A call that has returned hands over what it has retrieved, or it aborts. -/
def ReadCall.Whole (call : ReadCall) : Prop :=
  call.bytesWritten = CURL_READFUNC_ABORT ∧ call.handed = [] ∨
    call.bytesWritten ≠ CURL_READFUNC_ABORT ∧
      call.handed = retrieved call.retrievals

structure DataSession.Conserving (data : DataSession) : Prop where
  accounts : data.session.upload.Accounts data.session.endOfStream
    data.session.paused data.retrievals data.pBuffer.bytes
  whole : ∀ call ∈ data.calls, call.Whole
  closed : (∃ call ∈ data.calls, EndsStream call.retrievals) →
    data.session.endOfStream = true ∧ data.session.paused = false ∧
      data.retrievals = [] ∧ data.session.upload.ReturnsNothing
  ended : data.calls.Pairwise fun earlier later =>
    EndsStream earlier.retrievals →
      later.retrievals = [] ∧ later.bytesWritten = 0

/-! ### What other threads do -/

/-- The step is not one of the callback: it leaves `endOfStream` as it is, can
clear `paused`, and can resume the upload. -/
structure Session.Frame (session target : Session) : Prop where
  endOfStream : target.endOfStream = session.endOfStream
  paused : target.paused = session.paused ∨ target.paused = false
  upload : target.upload = session.upload ∨
    target.upload = session.continueUpload.upload

section Frames

variable {session target : Session}

theorem Session.Frame.refl (session : Session) : session.Frame session :=
  ⟨rfl, .inl rfl, .inl rfl⟩

theorem handlerStep_frame {action : HandlerAction}
    (step : Session.HandlerStep session action target) :
    session.Frame target := by
  cases step <;> exact ⟨rfl, .inl rfl, .inl rfl⟩

theorem notifierStep_frame {action : NotifierAction}
    (step : Session.NotifierStep session action target) :
    session.Frame target := by
  cases step
  case clearPaused => exact ⟨rfl, .inr rfl, .inl rfl⟩
  case unpause => exact ⟨rfl, .inl rfl, .inr rfl⟩
  all_goals exact ⟨rfl, .inl rfl, .inl rfl⟩

theorem passStep_frame {action : PassAction}
    (step : Session.PassStep session action target) :
    session.Frame target := by
  cases step
  case unpause => exact ⟨rfl, .inl rfl, .inr rfl⟩
  all_goals exact ⟨rfl, .inl rfl, .inl rfl⟩

end Frames

section Accounts

variable {upload : Upload} {ended paused : Bool}
variable {retrievals : List Retrieval} {pBuffer : Bytes}

theorem Upload.Accounts.clear
    (accounts : upload.Accounts ended paused retrievals pBuffer) :
    upload.Accounts ended false retrievals pBuffer := by
  cases upload with
  | outside _ => exact accounts
  | finished => exact accounts
  | inside pc =>
      cases pc with
      | checkPaused => exact accounts
      | checkEndOfStream => exact ⟨accounts.1, rfl⟩
      | checkTerminating => exact ⟨accounts.1, rfl, accounts.2.2⟩
      | reading _ => exact ⟨rfl, accounts.2⟩
      | cleanUp _ | returning _ =>
          refine ⟨accounts.1, fun ends => ?_⟩
          obtain ⟨isEnded, -, wrote⟩ := accounts.2 ends
          exact ⟨isEnded, rfl, wrote⟩

theorem Session.Frame.accounts {session target : Session}
    (frame : session.Frame target)
    (accounts : session.upload.Accounts session.endOfStream session.paused
      retrievals pBuffer) :
    target.upload.Accounts target.endOfStream target.paused retrievals
      pBuffer := by
  have moved : target.upload.Accounts session.endOfStream session.paused
      retrievals pBuffer := by
    rcases frame.upload with same | resumed
    · exact same ▸ accounts
    · rw [resumed, Session.continueUpload_upload]
      cases upload : session.upload with
      | outside _ | finished | inside _ =>
          rw [upload] at accounts
          exact accounts
  rw [frame.endOfStream]
  rcases frame.paused with same | clear
  · exact same ▸ moved
  · exact clear ▸ moved.clear

theorem Session.Frame.returnsNothing {session target : Session}
    (frame : session.Frame target)
    (returns : session.upload.ReturnsNothing) :
    target.upload.ReturnsNothing := by
  rcases frame.upload with same | resumed
  · exact same ▸ returns
  · rw [resumed, Session.continueUpload_upload]
    cases upload : session.upload with
    | outside _ | finished => trivial
    | inside _ =>
        rw [upload] at returns
        exact returns

end Accounts

section Steps

variable {data : DataSession}

theorem DataSession.Conserving.frame {session : Session}
    (conserving : data.Conserving) (frame : data.session.Frame session) :
    ({ data with session := session } : DataSession).Conserving := by
  constructor
  case accounts => exact frame.accounts conserving.accounts
  case whole => exact conserving.whole
  case closed =>
      intro hasEnded
      obtain ⟨isEnded, clear, none, returns⟩ := conserving.closed hasEnded
      refine ⟨frame.endOfStream.trans isEnded, ?_, none,
        frame.returnsNothing returns⟩
      rcases frame.paused with same | cleared
      · exact same.trans clear
      · exact cleared
  case ended => exact conserving.ended

/-! ### What the callback does -/

theorem settles_nothing {retrievals : List Retrieval} (pBuffer : Bytes)
    (none : retrievals = []) :
    (ReadResult.wrote 0).Settles retrievals pBuffer ∧
      ReadResult.pause.Settles retrievals pBuffer ∧
      ¬ EndsStream retrievals := by
  subst none
  refine ⟨⟨rfl, Nat.zero_le _⟩, rfl, ?_⟩
  intro ends
  obtain ⟨retrieval, listed, -⟩ := ends
  cases listed

/-- The steps of the callback between its beginning, its retrievals and its
end. -/
theorem DataSession.Conserving.callbackStep {action : CallbackAction}
    {session : Session} (conserving : data.Conserving)
    (noData : (Action.callback action).HasData = false)
    (step : data.session.CallbackStep action session) :
    ({ data with session := session } : DataSession).Conserving := by
  obtain ⟨accounts, whole, closed, ended⟩ := conserving
  cases step with
  | invoke _ _ => cases noData
  | pauseAgain checking paused =>
      rw [checking] at accounts
      obtain ⟨-, settles, open_⟩ :=
        settles_nothing data.pBuffer.bytes accounts
      refine ⟨⟨settles, fun ends => absurd ends open_⟩, whole, ?_, ended⟩
      intro hasEnded
      have clear := (closed hasEnded).2.1
      rw [paused] at clear
      cases clear
  | passPaused checking clear =>
      rw [checking] at accounts
      refine ⟨⟨accounts, clear⟩, whole, ?_, ended⟩
      intro hasEnded
      obtain ⟨isEnded, -, none, -⟩ := closed hasEnded
      exact ⟨isEnded, clear, none, trivial⟩
  | closeEnded checking isEnded =>
      rw [checking] at accounts
      obtain ⟨settles, -, open_⟩ :=
        settles_nothing data.pBuffer.bytes accounts.1
      refine ⟨⟨settles, fun ends => absurd ends open_⟩, whole, ?_, ended⟩
      intro _
      exact ⟨isEnded, accounts.2, accounts.1, rfl⟩
  | passEndOfStream checking unended =>
      rw [checking] at accounts
      refine ⟨⟨accounts.1, accounts.2, unended⟩, whole, ?_, ended⟩
      intro hasEnded
      have isEnded := (closed hasEnded).1
      rw [unended] at isEnded
      cases isEnded
  | closeTerminating checking terminating =>
      rw [checking] at accounts
      obtain ⟨settles, -, open_⟩ :=
        settles_nothing data.pBuffer.bytes accounts.1
      refine ⟨⟨settles, fun ends => absurd ends open_⟩, whole, ?_, ended⟩
      intro hasEnded
      exact ⟨(closed hasEnded).1, accounts.2.1, accounts.1, rfl⟩
  | passTerminating checking live =>
      rw [checking] at accounts
      obtain ⟨none, clear, unended⟩ := accounts
      have open_ := (settles_nothing data.pBuffer.bytes none).2.2
      have nothing : retrieved data.retrievals = [] := by
        rw [none]
        rfl
      refine ⟨⟨clear, unended, nothing, open_⟩, whole, ?_, ended⟩
      intro hasEnded
      have isEnded := (closed hasEnded).1
      rw [unended] at isEnded
      cases isEnded
  | readAgain reading again => cases noData
  | readLast reading last => cases noData
  | cleanUp cleaning =>
      rw [cleaning] at accounts closed
      constructor
      case accounts =>
          refine ⟨accounts.1, fun ends => ?_⟩
          obtain ⟨isEnded, clear, size, rfl⟩ := accounts.2 ends
          exact ⟨isEnded, Bool.or_eq_false_iff.mpr ⟨clear, rfl⟩, size, rfl⟩
      case whole => exact whole
      case closed =>
          intro hasEnded
          obtain ⟨isEnded, clear, none, rfl⟩ := closed hasEnded
          exact ⟨isEnded, Bool.or_eq_false_iff.mpr ⟨clear, rfl⟩, none, rfl⟩
      case ended => exact ended
  | «return» returning => cases noData

theorem DataSession.Conserving.invoke (conserving : data.Conserving)
    (idle : ∀ pc, data.session.upload ≠ .inside pc) (pBuffer : ReadBuffer) :
    ({ data with
       session := { data.session with upload := .inside .checkPaused }
       pBuffer := pBuffer } : DataSession).Conserving := by
  obtain ⟨accounts, whole, closed, ended⟩ := conserving
  have none : data.retrievals = [] := by
    cases upload : data.session.upload with
    | outside _ | finished =>
        rw [upload] at accounts
        exact accounts
    | inside pc => exact absurd upload (idle pc)
  refine ⟨none, whole, ?_, ended⟩
  intro hasEnded
  obtain ⟨isEnded, clear, -⟩ := closed hasEnded
  exact ⟨isEnded, clear, none, trivial⟩

theorem retrieved_concat (retrievals : List Retrieval) (last : Retrieval) :
    retrieved (retrievals ++ [last]) = retrieved retrievals ++ last.bytes := by
  simp [retrieved]

theorem endsStream_concat {retrievals : List Retrieval} {last : Retrieval} :
    EndsStream (retrievals ++ [last]) ↔
      EndsStream retrievals ∨ last.status = .endOfStream := by
  simp [EndsStream, or_and_right, exists_or]

/-- The result for the last status accounts for the bytes that came with it. -/
theorem result_settles {retrievals : List Retrieval} {text : Bytes}
    (all : retrieved retrievals = text) (pBuffer : ReadBuffer)
    (status : DataStatus) (fits : text.length ≤ pBuffer.bytes.length) :
    (status.result text.length).Settles retrievals
      (pBuffer.fill text fits).bytes := by
  have wrote : (ReadResult.wrote text.length).Settles retrievals
      (pBuffer.fill text fits).bytes := by
    refine ⟨?_, ?_⟩
    · rw [ReadBuffer.fill, List.take_left, all]
    · rw [ReadBuffer.fill, List.length_append]
      exact Nat.le_add_right _ _
  have paused : (if text.length = 0 then ReadResult.pause
      else .wrote text.length).Settles retrievals
        (pBuffer.fill text fits).bytes := by
    split
    · rename_i empty
      exact all.trans (List.length_eq_zero_iff.mp empty)
    · exact wrote
  cases status with
  | success | noMoreDataAvailable | awaitingPersistedAck => exact paused
  | endOfStream => exact wrote
  | uploadHandleAborted | other => trivial

theorem DataSession.Conserving.getData {retrieval : Retrieval}
    {session : Session} (conserving : data.Conserving)
    (fits : retrieval.bytes.length ≤ data.pBuffer.bytes.length)
    (step : data.session.CallbackStep
      (.getData retrieval.status retrieval.bytes.length) session) :
    ({ data with
       session := session
       pBuffer := data.pBuffer.fill retrieval.bytes fits
       retrievals := data.retrievals ++ [retrieval] } :
      DataSession).Conserving := by
  obtain ⟨accounts, whole, closed, ended⟩ := conserving
  cases step with
  | readAgain reading again =>
      rw [reading] at accounts
      obtain ⟨clear, unended, nothing, open_⟩ := accounts
      obtain ⟨-, empty, isStatus⟩ := again
      refine ⟨⟨clear, unended, ?_, ?_⟩, whole, ?_, ended⟩
      · rw [retrieved_concat, nothing, List.length_eq_zero_iff.mp empty]
        rfl
      · rw [endsStream_concat]
        intro ends
        rcases ends with ends | ends
        · exact open_ ends
        · rw [ends] at isStatus
          rcases isStatus with other | other <;> cases other
      · intro hasEnded
        have isEnded := (closed hasEnded).1
        rw [unended] at isEnded
        cases isEnded
  | readLast reading last =>
      rw [reading] at accounts
      obtain ⟨clear, unended, nothing, open_⟩ := accounts
      have all : retrieved (data.retrievals ++ [retrieval]) =
          retrieval.bytes := by
        rw [retrieved_concat, nothing, List.nil_append]
      refine ⟨⟨?_, ?_⟩, whole, ?_, ended⟩
      · exact result_settles all _ retrieval.status fits
      · intro ends
        have isEnd := (endsStream_concat.mp ends).resolve_left open_
        rw [isEnd]
        exact ⟨Bool.or_true _, clear, _, rfl⟩
      · intro hasEnded
        have isEnded := (closed hasEnded).1
        rw [unended] at isEnded
        cases isEnded

theorem whole_of_settles {retrievals : List Retrieval} {result : ReadResult}
    (pBuffer : ReadBuffer)
    (settles : result.Settles retrievals pBuffer.bytes) :
    ReadCall.Whole
      { retrievals := retrievals
        pBuffer := pBuffer.bytes
        bytesWritten := result.bytesWritten } := by
  have bound := pBuffer.length_le
  have abort : CURL_READFUNC_ABORT = 0x10000000 := rfl
  have pause : CURL_READFUNC_PAUSE = 0x10000001 := rfl
  have max : UPLOADBUFFER_MAX = 2097152 := rfl
  cases result with
  | wrote size =>
      right
      obtain ⟨taken, within⟩ := settles
      have notAbort : size ≠ CURL_READFUNC_ABORT := by omega
      have isSize : ¬ (size = CURL_READFUNC_ABORT ∨
          size = CURL_READFUNC_PAUSE) := by
        omega
      refine ⟨notAbort, ?_⟩
      rw [ReadCall.handed, ReadResult.bytesWritten, if_neg isSize]
      exact taken
  | pause =>
      right
      have notAbort : CURL_READFUNC_PAUSE ≠ CURL_READFUNC_ABORT := by omega
      exact ⟨notAbort, settles.symm⟩
  | abort => exact .inl ⟨rfl, rfl⟩

/-- Behind a call, the upload is outside of one. -/
theorem returned_upload (result : ReadResult) :
    (∀ ended paused pBuffer,
      result.upload.Accounts ended paused [] pBuffer) ∧
      result.upload.ReturnsNothing := by
  cases result with
  | wrote size => cases size <;> exact ⟨fun _ _ _ => rfl, trivial⟩
  | pause | abort => exact ⟨fun _ _ _ => rfl, trivial⟩

theorem DataSession.Conserving.return {result : ReadResult}
    (conserving : data.Conserving)
    (returning : data.session.upload = .inside (.returning result)) :
    ({ data with
       session := { data.session with upload := result.upload }
       retrievals := []
       calls := data.calls ++
         [{ retrievals := data.retrievals
            pBuffer := data.pBuffer.bytes
            bytesWritten := result.bytesWritten }] } :
      DataSession).Conserving := by
  obtain ⟨accounts, whole, closed, ended⟩ := conserving
  rw [returning] at accounts closed
  have isWhole := whole_of_settles (data.pBuffer) accounts.1
  have outside := returned_upload result
  constructor
  case accounts => exact outside.1 _ _ _
  case whole =>
      intro call listed
      rcases List.mem_append.mp listed with before | last
      · exact whole call before
      · exact List.mem_singleton.mp last ▸ isWhole
  case closed =>
      intro hasEnded
      obtain ⟨call, listed, ends⟩ := hasEnded
      rcases List.mem_append.mp listed with before | last
      · obtain ⟨isEnded, clear, -⟩ := closed ⟨call, before, ends⟩
        exact ⟨isEnded, clear, rfl, outside.2⟩
      · rw [List.mem_singleton.mp last] at ends
        obtain ⟨isEnded, clear, -⟩ := accounts.2 ends
        exact ⟨isEnded, clear, rfl, outside.2⟩
  case ended =>
      apply List.pairwise_append.mpr
      refine ⟨ended, List.pairwise_singleton _ _, ?_⟩
      intro earlier before later last ends
      rw [List.mem_singleton.mp last]
      obtain ⟨-, -, none, rfl⟩ := closed ⟨earlier, before, ends⟩
      exact ⟨none, rfl⟩

theorem DataSession.Conserving.next {action : DataAction}
    {target : DataSession} (conserving : data.Conserving)
    (step : data.next action = some target) : target.Conserving := by
  cases action with
  | invoke pBuffer =>
      simp only [DataSession.next] at step
      split at step
      · cases step
      · rename_i idle
        cases step
        exact conserving.invoke idle pBuffer
  | getData retrieval =>
      simp only [DataSession.next] at step
      split at step
      · obtain ⟨session, taken, isTarget⟩ := Option.bind_eq_some_iff.mp step
        cases isTarget
        exact conserving.getData _ (Session.callbackStep_cases taken)
      · cases step
  | «return» =>
      simp only [DataSession.next] at step
      split at step
      · rename_i result returning
        cases step
        exact conserving.return returning
      · cases step
  | session action =>
      simp only [DataSession.next] at step
      split at step
      · cases step
      · rename_i noData
        obtain ⟨session, taken, isTarget⟩ := Option.bind_eq_some_iff.mp step
        cases isTarget
        cases Session.next_cases taken with
        | handler taken => exact conserving.frame (handlerStep_frame taken)
        | callback taken =>
            exact conserving.callbackStep (by simpa using noData) taken
        | notifier taken => exact conserving.frame (notifierStep_frame taken)
        | pass taken => exact conserving.frame (passStep_frame taken)

end Steps

/-! ### Every run -/

theorem conserving_initial : DataSession.initial.Conserving := by
  constructor
  case accounts => rfl
  case whole => exact fun _ listed => absurd listed List.not_mem_nil
  case closed =>
      intro hasEnded
      obtain ⟨_, listed, -⟩ := hasEnded
      cases listed
  case ended => exact List.Pairwise.nil

theorem handed_eq_of_whole {calls : List ReadCall}
    (whole : ∀ call ∈ calls, call.Whole) :
    calls.flatMap (·.handed) =
      (calls.filter (·.bytesWritten ≠ CURL_READFUNC_ABORT)).flatMap
        fun call => retrieved call.retrievals := by
  induction calls with
  | nil => rfl
  | cons call calls induction =>
      have rest := induction fun other listed =>
        whole other (List.mem_cons_of_mem _ listed)
      rcases whole call List.mem_cons_self with
        ⟨aborts, nothing⟩ | ⟨returns, all⟩
      · rw [List.flatMap_cons, nothing, rest,
          List.filter_cons_of_neg (by simp [aborts])]
        rfl
      · rw [List.flatMap_cons, all, rest,
          List.filter_cons_of_pos (by simp [returns]), List.flatMap_cons]

/-- The data of an upload is conserved over every run. -/
theorem upload_conserves {data : DataSession}
    (reachable : Reaches DataSession.next DataSession.initial data) :
    ConservesData data.calls := by
  have conserving : data.Conserving := by
    apply reachable.invariant DataSession.Conserving conserving_initial
    intro before action target holds _ step
    exact holds.next step
  constructor
  case conserved => exact handed_eq_of_whole conserving.whole
  case own =>
      intro call listed
      rcases conserving.whole call listed with ⟨-, nothing⟩ | ⟨-, all⟩
      · rw [nothing]
        exact List.nil_prefix
      · exact all ▸ List.prefix_rfl
  case ended => exact conserving.ended

/-- A buffer for three bytes. -/
def sampleBuffer : ReadBuffer where
  bytes := [0, 0, 0]
  length_le := by decide

/-- The upload is resumed, three bytes and one byte are read, and the stream
ends. -/
def sampleActions : List DataAction :=
  [.session (.notifier (.arrive .dataAvailable)),
    .session (.notifier .checkEndOfStream),
    .session (.notifier .checkTerminating),
    .session (.notifier .checkTerminated),
    .session (.notifier .checkPaused),
    .session (.notifier .clearPaused),
    .invoke sampleBuffer,
    .session (.callback .checkPaused),
    .session (.callback .checkEndOfStream),
    .session (.callback .checkTerminating),
    .getData { status := .success, bytes := [] },
    .getData { status := .success, bytes := [1, 2, 3] },
    .session (.callback .cleanUp),
    .return,
    .invoke sampleBuffer,
    .session (.callback .checkPaused),
    .session (.callback .checkEndOfStream),
    .session (.callback .checkTerminating),
    .getData { status := .endOfStream, bytes := [4] },
    .session (.notifier .unpause),
    .session (.callback .cleanUp),
    .return,
    .invoke sampleBuffer,
    .session (.callback .checkPaused),
    .session (.callback .checkEndOfStream),
    .session (.callback .cleanUp),
    .return]

theorem upload_conserves_sample :
    ((stateAfter DataSession.next (fun _ _ => True) DataSession.initial
        sampleActions).calls.map fun call =>
          (call.handed, call.bytesWritten)) =
        [([1, 2, 3], 3), ([4], 1), ([], 0)] ∧
      ConservesData (stateAfter DataSession.next (fun _ _ => True)
        DataSession.initial sampleActions).calls := by
  constructor
  · decide +kernel
  · apply upload_conserves
    apply steps_stateAfter
    decide +kernel

end CurlSession

end KvsProducer
