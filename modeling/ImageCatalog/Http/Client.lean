import ImageCatalog.Http.Message
import ImageCatalog.Json.Reader
import ImageCatalog.Text.Case
import ImageCatalog.Text.Split
import ImageCatalog.Text.Utf8
import ImageCatalog.Url.Join

/-!
# Sending requests

`send` sends a request and follows the redirections that answer it, twenty at most; a secret in the
headers is not passed on to another origin. `getText` and `getJson` read the body of the answer.
Each comes with the row of requests that were made, first one first.
-/

namespace ImageCatalog.Http

open Text

/-- A request as a caller asks for it. -/
structure Query where
  method : String
  url : String
  headers : List (String × String)
  body : Option String
deriving DecidableEq, Repr

/-- A plain request for the content of an address. -/
def Query.get (url : String) (headers : List (String × String)) : Query :=
  ⟨"GET", url, headers, none⟩

/-- The parts of an answer that its reader needs, with the address that gave it. -/
structure Fetched where
  url : String
  status : Int
  headers : List (String × String)
  content : List UInt8
deriving DecidableEq, Repr

/-- The declared media type of an answer. -/
def Fetched.contentType? (fetched : Fetched) : Option String :=
  fetched.headers.lookup "content-type"

/-- Why sending fails: a part of the request cannot be sent, or the request brought nothing. -/
inductive SendFault
  | unencodable
  | transport (fault : TransportFault)
deriving DecidableEq, Repr

/-- The name under which requests are sent. -/
def userAgent : String := "image-api-engine/0.1"

/-- The headers of a request, to which the name of the sender is added unless they give one. -/
def fullHeaders (headers : List (String × String)) : List (String × String) :=
  if headers.any fun entry => lowerWord entry.1 == "user-agent" then headers
  else ("user-agent", userAgent) :: headers

/-- Whether a header can be sent. -/
def isSendable (entry : String × String) : Bool :=
  (entry.1.toList ++ entry.2.toList).all fun char => char.toNat < 0x80

/-- The request that a query leads to first. -/
def Query.toRequest (query : Query) : Request :=
  ⟨upper query.method, query.url, fullHeaders query.headers, query.body.getD ""⟩

/-- The headers of an answer in lower case, those of one name joined into one. -/
def joinHeaders (headers : List (String × String)) : List (String × String) :=
  let lower := headers.map fun (name, content) => (lowerWord name, content)
  Entries.ofList (lower.map fun (name, _) =>
    (name, joinText ", " ((lower.filter fun entry => entry.1 == name).map Prod.snd)))

/-- Whether a status redirects to another address. -/
def isRedirect (status : Int) : Bool :=
  [301, 302, 303, 307, 308].contains status

/-- The address that an answer redirects to. -/
def location? (response : Response) : Option String :=
  if isRedirect response.status then (joinHeaders response.headers).lookup "location" else none

/-- The method of a request that follows a redirection. -/
def redirectedMethod (status : Int) (method : String) : String :=
  if status = 303 ∧ method ≠ "HEAD" then "GET"
  else if status = 302 ∧ method ≠ "HEAD" then "GET"
  else if status = 301 ∧ method = "POST" then "GET"
  else method

/-- The request that follows a redirection. -/
def redirected (request : Request) (status : Int) (url : String) : Request :=
  let method := redirectedMethod status request.method
  { method
    url
    headers :=
      if Url.keepsSecret request.url url then request.headers
      else request.headers.filter fun entry => lowerWord entry.1 != "authorization"
    body := if method = request.method then request.body else "" }

/-- The number of redirections that are followed. -/
def redirectLimit : Nat := 20

/-- The answer of an address, as its reader needs it. -/
def fetched (url : String) (response : Response) : Fetched :=
  ⟨url, response.status, joinHeaders response.headers, response.body⟩

/-- Follow redirections from a request, at most `limit` of them. The row of requests that were made
comes with the result; faults name the address that was asked for first. -/
def follow (network : Network) (asked : String) (limit : Nat) (request : Request) :
    Except TransportFault Fetched × List Request :=
  match network request with
  | .failed kind message => (.error ⟨asked, none, failureReason kind message⟩, [request])
  | .answered response =>
    match location? response with
    | none =>
      if isSuccess response.status then (.ok (fetched request.url response), [request])
      else (.error ⟨asked, some response.status, ""⟩, [request])
    | some location =>
      match limit with
      | 0 => (.error ⟨asked, none, "Exceeded maximum allowed redirects."⟩, [request])
      | further + 1 =>
        match Url.join request.url location with
        | .error fault =>
          (.error ⟨asked, none, "Invalid URL in location header: " ++ fault.message ++ "."⟩,
            [request])
        | .ok url =>
          let (result, made) :=
            follow network asked further (redirected request response.status url)
          (result, request :: made)

/-- Following redirections ends in an answer only if its status means success. -/
theorem isSuccess_of_follow {network : Network} {asked : String} {limit : Nat} {request : Request}
    {answer : Fetched} (ends : (follow network asked limit request).1 = .ok answer) :
    isSuccess answer.status = true := by
  fun_induction follow network asked limit request with
  | case1 | case3 | case4 | case5 => cases ends
  | case2 request limit response _ _ success =>
      cases ends
      exact success
  | case6 request response _ location _ further url _ result made followed step =>
      rw [followed] at step
      exact step ends

/-- Send a request. -/
def send (network : Network) (query : Query) : Except SendFault Fetched × List Request :=
  if query.headers.all isSendable then
    let (result, made) := follow network query.url redirectLimit query.toRequest
    (result.mapError .transport, made)
  else (.error .unencodable, [])

/-- Sending a request brings only answers whose status means success. -/
theorem isSuccess_of_send {network : Network} {query : Query} {answer : Fetched}
    (sent : (send network query).1 = .ok answer) : isSuccess answer.status = true := by
  unfold send at sent
  split at sent
  · have result :
        (follow network query.url redirectLimit query.toRequest).1.mapError SendFault.transport =
          .ok answer := sent
    cases followed : (follow network query.url redirectLimit query.toRequest).1 with
    | error fault =>
      rw [followed] at result
      cases result
    | ok found =>
      rw [followed] at result
      cases result
      exact isSuccess_of_follow followed
  · cases sent

/-- The text of the body of an answer, with U+FFFD for what is no text. -/
def Fetched.text (answer : Fetched) : String :=
  Utf8.decodeLenient answer.content

/-- The JSON document in the body of an answer. -/
def Fetched.json (answer : Fetched) : Except Json.Fault Value :=
  Json.read answer.text

/-- The text of an address. -/
def getText (network : Network) (url : String) (headers : List (String × String)) :
    Except SendFault String × List Request :=
  let (result, made) := send network (.get url headers)
  (result.map Fetched.text, made)

/-- Why a document is not fetched: sending failed, or the body is not read. -/
inductive FetchFault
  | send (fault : SendFault)
  | json (fault : Json.Fault)
deriving DecidableEq, Repr

/-- The JSON document of an address. -/
def getJson (network : Network) (url : String) (headers : List (String × String)) :
    Except FetchFault Value × List Request :=
  let (result, made) := send network (.get url headers)
  let document := do
    let answer ← result.mapError .send
    answer.json.mapError .json
  (document, made)

end ImageCatalog.Http
