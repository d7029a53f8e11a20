import HookRelay.Service.Callback
import HookRelay.Service.Health
import HookRelay.Text.Percent

namespace HookRelay

structure Service where
  tolerance : Duration
  database : Health.Database

inductive Route where
  | health
  | ready
  | live
  | callback (id : List Char)
deriving DecidableEq, Repr

namespace Route

/-- The route of a path; an id is one segment that is not empty. -/
def ofPath? (path : List Char) : Option Route :=
  if path = "/health".toList then some .health
  else if path = "/ready".toList then some .ready
  else if path = "/live".toList then some .live
  else
    (Text.afterLiteral? "/callbacks/".toList path).bind fun id =>
      if id.isEmpty || id.contains '/' then none else some (.callback id)

def allow : Route → String
  | callback _ => "POST"
  | _ => "GET,HEAD"

def subscriptionId? (segment : List Char) : Option Uuid :=
  (Utf8.decode? (Percent.decode segment)).bind Uuid.read?

end Route

namespace Service

def greatestBody : Nat := 2 * 1024 * 1024

def callback (service : Service) (segment : List Char) (request : ServiceRequest)
    (parser : Callback.Parser) : Program Relay ServiceResponse :=
  match Route.subscriptionId? segment with
  | none => .done (.empty 400)
  | some id =>
    if greatestBody < request.body.length then .done (.empty 413)
    else Callback.receive service.tolerance id request parser

def wrongMethod (route : Route) : ServiceResponse := ⟨405, some route.allow, none⟩

/-- The answer to a `GET`, or to a `HEAD` without its body. -/
def lookUp (route : Route) (request : ServiceRequest) (answer : Program Relay ServiceResponse) :
    Program Relay ServiceResponse :=
  if request.method = "GET" then answer
  else if request.method = "HEAD" then answer.bind fun response => .done response.headOnly
  else .done (wrongMethod route)

def answer (service : Service) (request : ServiceRequest)
    (parser : Callback.Parser := fun _ => none) : Program Relay ServiceResponse :=
  match Route.ofPath? request.path with
  | none => .done (.empty 404)
  | some .health => lookUp .health request (Health.health service.database)
  | some .ready => lookUp .ready request (Health.readiness service.database)
  | some .live => lookUp .live request Health.liveness
  | some (.callback segment) =>
    if request.method = "POST" then service.callback segment request parser
    else .done (wrongMethod (.callback segment))

end Service

end HookRelay
