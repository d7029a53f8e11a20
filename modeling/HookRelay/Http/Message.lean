import HookRelay.Delivery.Error
import HookRelay.Http.Capture
import HookRelay.Http.Url
import HookRelay.Program

namespace HookRelay

inductive Method where
  | get
  | post
deriving DecidableEq, Repr

def Method.text : Method → String
  | get => "GET"
  | post => "POST"

/-- A request as it is put on the wire, with the headers of its sender: those that the transport sets
of its own accord, such as `Host` and the `Referer` of a redirect, are left out. One without a body
has no content type either. -/
structure WireRequest where
  method : Method
  url : Url
  headers : List (String × String)
  body : Option Bytes
deriving DecidableEq, Repr

namespace WireRequest

def contentType : String := "application/json"

def allHeaders (request : WireRequest) : List (String × String) :=
  (if request.body.isSome then [("content-type", contentType)] else []) ++ request.headers

def header? (request : WireRequest) (name : String) : Option String := request.headers.lookup name

end WireRequest

structure WireAnswer where
  code : Nat
  location : Option Bytes
  chunks : List Capture.Chunk

inductive Exchange where
  | answered (answer : WireAnswer)
  | refused
  | dropped
  | timedOut

/-- The one operation on the network: to send a request and wait for what becomes of it. -/
def Wire : Interface where
  Op := WireRequest
  Reply := fun _ => Exchange

structure DeliveryRequest where
  deliveryId : Uuid
  subscriptionId : Uuid
  url : String
  body : Bytes
  signature : String
  timestamp : Int
  timeout : Duration
  attempt : Nat
deriving DecidableEq, Repr

structure DeliveryResponse where
  code : Nat
  body : String
deriving DecidableEq, Repr

/-- Receivers accept with any code from 200 to 299. -/
def DeliveryResponse.isSuccess (response : DeliveryResponse) : Bool :=
  200 ≤ response.code && response.code < 300

end HookRelay
