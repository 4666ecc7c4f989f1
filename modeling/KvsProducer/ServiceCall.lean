import KvsProducer.Jsmn

/-!
# Statuses and results of a service call

The codes that the API handlers compute and compare, and the classification
of a finished transfer in `curlCompleteSync`.
-/

namespace KvsProducer

/-- `STATUS`: the codes the modelled functions name; `other` is any further
failure code that a callee returns. -/
inductive Status where
  | success
  | nullArg
  | invalidOperation
  | invalidApiCallReturnJson
  | getStreamingEndpointCallFailed
  | other (code : Nat)
  deriving DecidableEq, Repr

/-- `STATUS_FAILED` -/
def Status.failed (status : Status) : Bool := status != .success

@[simp] theorem Status.failed_eq_false {status : Status} :
    status.failed = false ↔ status = .success := by
  simp [Status.failed]

/-- `SERVICE_CALL_RESULT`.  PIC gives some results the numbers of HTTP
statuses; `http` is the result that the cast of a status other than 200
yields, or `SERVICE_CALL_UNKNOWN` where PIC has no result of that number. -/
inductive ServiceCallResult where
  | notSet
  | ok
  | invalidArg
  | notAuthorized
  | requestTimeout
  | networkConnectionTimeout
  | unknown
  | http (status : Nat)
  deriving DecidableEq, Repr

/-- The results of `curl_easy_perform` that the code distinguishes. -/
inductive CurlCode where
  | ok
  | unsupportedProtocol
  | operationTimedout
  | sslCertproblem
  | sslCacert
  | other (code : Nat)
  deriving DecidableEq, Repr

def getServiceCallResultFromCurlStatus : CurlCode → ServiceCallResult
  | .ok => .ok
  | .unsupportedProtocol => .invalidArg
  | .operationTimedout => .networkConnectionTimeout
  | .sslCertproblem => .notAuthorized
  | .sslCacert => .notAuthorized
  | .other _ => .unknown

def HTTP_STATUS_CODE_NOT_SET : Nat := 0
def HTTP_STATUS_CODE_OK : Nat := 200
def HTTP_STATUS_CODE_REQUEST_TIMEOUT : Nat := 408

def getServiceCallResultFromHttpStatus (httpStatus : Nat) :
    ServiceCallResult :=
  if httpStatus = HTTP_STATUS_CODE_OK then .ok else .http httpStatus

@[simp] theorem getServiceCallResultFromHttpStatus_eq_ok {httpStatus : Nat} :
    getServiceCallResultFromHttpStatus httpStatus = .ok ↔
      httpStatus = HTTP_STATUS_CODE_OK := by
  simp [getServiceCallResultFromHttpStatus]

theorem getServiceCallResultFromHttpStatus_ne_notSet (httpStatus : Nat) :
    getServiceCallResultFromHttpStatus httpStatus ≠ .notSet := by
  unfold getServiceCallResultFromHttpStatus
  split <;> simp

/-- What `curl_easy_perform` leaves behind: its result, the response code and
the body accumulated by `postResponseWriteCallback`. -/
structure Transfer where
  result : CurlCode
  responseCode : Nat
  responseData : Bytes
  deriving DecidableEq, Repr

/-- The fields of `CallInfo` that the handlers read. -/
structure CallInfo where
  httpStatus : Nat
  callResult : ServiceCallResult
  responseData : Bytes
  deriving DecidableEq, Repr

/-- `initializeCurlSession` -/
def CallInfo.initial : CallInfo :=
  { httpStatus := HTTP_STATUS_CODE_NOT_SET
    callResult := .notSet
    responseData := [] }

/-- The write callback has stored the body, the call is not classified yet. -/
def CallInfo.received (transfer : Transfer) : CallInfo :=
  { CallInfo.initial with responseData := transfer.responseData }

/-- The classification in `curlCompleteSync` after `curl_easy_perform`, made
only when the request is not terminating. -/
def classifyTransfer (terminated : Bool) (transfer : Transfer) : CallInfo :=
  if transfer.result ≠ .ok ∧ terminated then
    { httpStatus := HTTP_STATUS_CODE_REQUEST_TIMEOUT
      callResult := .requestTimeout
      responseData := transfer.responseData }
  else if transfer.result ≠ .ok then
    { httpStatus := HTTP_STATUS_CODE_NOT_SET
      callResult := getServiceCallResultFromCurlStatus transfer.result
      responseData := transfer.responseData }
  else
    { httpStatus := transfer.responseCode
      callResult := getServiceCallResultFromHttpStatus transfer.responseCode
      responseData := transfer.responseData }

@[simp] theorem classifyTransfer_responseData
    (terminated : Bool) (transfer : Transfer) :
    (classifyTransfer terminated transfer).responseData =
      transfer.responseData := by
  unfold classifyTransfer
  split
  · rfl
  · split <;> rfl

theorem classifyTransfer_ne_notSet
    (terminated : Bool) (transfer : Transfer) :
    (classifyTransfer terminated transfer).callResult ≠ .notSet := by
  unfold classifyTransfer
  split
  · simp
  · split
    · cases transfer.result <;> simp [getServiceCallResultFromCurlStatus]
    · exact getServiceCallResultFromHttpStatus_ne_notSet _

/-- The result is OK exactly for a transfer that completed with status 200. -/
theorem classifyTransfer_eq_ok
    {terminated : Bool} {transfer : Transfer} :
    (classifyTransfer terminated transfer).callResult = .ok ↔
      transfer.result = .ok ∧
        transfer.responseCode = HTTP_STATUS_CODE_OK := by
  unfold classifyTransfer
  by_cases completed : transfer.result = .ok
  · simp [completed]
  · have notOk : getServiceCallResultFromCurlStatus transfer.result ≠ .ok := by
      cases result : transfer.result <;>
        simp_all [getServiceCallResultFromCurlStatus]
    by_cases forced : terminated = true <;> simp [completed, forced, notOk]

end KvsProducer
