import ImageCatalog.Http.Client
import ImageCatalog.Image.Extract
import ImageCatalog.Request.Build

/-!
# Generating images

A `Generator` numbers its calls in the order in which they start. A call builds its request, waits
for the reply and extracts the images from it; replies arrive in any order. A result is current as
long as no later call has started. A call whose request cannot be built has used up its number.
-/

namespace ImageCatalog

open Http Text

/-- A call that waits for its reply. -/
structure PendingCall where
  config : Config
  request : PreparedRequest

/-- What a call brought: the images, with the name of the service, the number of the call and its
request. -/
structure Generated where
  name : String
  number : Nat
  request : PreparedRequest
  images : List String
deriving DecidableEq, Repr

/-- The number of the last call, and the calls that wait for their replies by number. -/
structure Generator where
  lastNumber : Nat
  pending : List (Nat × PendingCall)

/-- What is sent for a request. -/
def PreparedRequest.toQuery (request : PreparedRequest) : Query :=
  ⟨request.method, request.url, request.headers, request.body⟩

/-- The images in the reply to a call, of which there are none if the request brought nothing. -/
def PendingCall.images (call : PendingCall) (reply : Except SendFault Fetched) :
    Except DigitOverflow (List String) :=
  match reply with
  | .ok answer => Image.extract call.config.description.image answer.headers answer.content
  | .error _ => .ok []

/-- What a call of a number brought. -/
def PendingCall.finish (call : PendingCall) (number : Nat) (reply : Except SendFault Fetched) :
    Except DigitOverflow Generated :=
  (call.images reply).map fun images => ⟨call.config.name, number, call.request, images⟩

namespace Generator

/-- Why a call brings nothing: its request is not built, or an image has no text. -/
inductive Fault
  | build (fault : Json.WriteFault)
  | overlong (overflow : DigitOverflow)
deriving DecidableEq, Repr

/-- A generator without calls. -/
def new : Generator := ⟨0, []⟩

/-- Start a call, which waits for its reply under the number given. -/
def start (generator : Generator) (config : Config) (values : ValueMap) :
    Except Json.WriteFault Nat × Generator :=
  let number := generator.lastNumber + 1
  match PreparedRequest.build config.description values with
  | .error fault => (.error fault, { generator with lastNumber := number })
  | .ok request => (.ok number, ⟨number, Entries.put number ⟨config, request⟩ generator.pending⟩)

/-- The call that waits under a number. -/
def pending? (generator : Generator) (number : Nat) : Option PendingCall :=
  Entries.find? number generator.pending

/-- Take the reply to a call; there is no result if no call waits under the number. -/
def deliver (generator : Generator) (number : Nat) (reply : Except SendFault Fetched) :
    Option (Except DigitOverflow Generated) × Generator :=
  match generator.pending? number with
  | none => (none, generator)
  | some call =>
    (some (call.finish number reply),
      { generator with pending := Entries.drop number generator.pending })

/-- Run a call from its start to its end, with the requests that were made. -/
def generate (network : Network) (generator : Generator) (config : Config) (values : ValueMap) :
    Except Fault Generated × Generator × List Request :=
  let number := generator.lastNumber + 1
  let after := { generator with lastNumber := number }
  match PreparedRequest.build config.description values with
  | .error fault => (.error (.build fault), after, [])
  | .ok request =>
    let (reply, made) := send network request.toQuery
    let call : PendingCall := ⟨config, request⟩
    ((call.finish number reply).mapError .overlong, after, made)

/-- Whether a result is that of the last call. -/
def isCurrent (generator : Generator) (result : Generated) : Bool :=
  result.number == generator.lastNumber

end Generator

end ImageCatalog
