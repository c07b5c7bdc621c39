/-!
# Requests and answers

A request is answered or fails on the way; a `Network` says what happens to every request. Whether
an answer counts as a success is told by its status. A request that brings no successful answer ends
in a `TransportFault`.
-/

namespace ImageCatalog.Http

/-- A request as it is sent. -/
structure Request where
  method : String
  url : String
  headers : List (String × String)
  body : String
deriving DecidableEq, Repr

/-- An answer of a server. -/
structure Response where
  status : Int
  headers : List (String × String)
  body : List UInt8
deriving DecidableEq, Repr

/-- What happens to a request: it is answered, or it fails for a reason of some kind. -/
inductive Outcome
  | answered (response : Response)
  | failed (kind message : String)
deriving DecidableEq, Repr

/-- What happens to every request, also to one with an address or a body that no client can send. -/
abbrev Network := Request → Outcome

/-- Whether a status means success. -/
def isSuccess (status : Int) : Bool :=
  200 ≤ status && status < 300

/-- Why a request brought nothing: a status that is no success, or a reason. -/
structure TransportFault where
  url : String
  status : Option Int
  reason : String
deriving DecidableEq, Repr

/-- What is reported about a request that brought nothing. -/
def TransportFault.message (fault : TransportFault) : String :=
  let detail :=
    match fault.status with
    | some status => "status " ++ toString status
    | none => if fault.reason.isEmpty then "network error" else fault.reason
  "Request to " ++ fault.url ++ " failed: " ++ detail

/-- The reason for a failure: its message, or its kind if there is none. -/
def failureReason (kind message : String) : String :=
  if message.isEmpty then kind else message

end ImageCatalog.Http
