import SourceStyle.Json
import SourceStyle.Keyed

/-!
# Requests

A request asks for one of the routes of the service. Between the network and the service stands a
front end, which finds the route of a request and reads the value in its content. The service works
with any front end; the one that it runs behind is `Frontend.standard`.
-/

namespace SourceStyle

inductive Method where
  | get
  | post
  deriving DecidableEq

/-- The content of a request, with its media type. -/
structure Content where
  mediaType : String
  bytes : List UInt8

structure Request where
  method : Method
  path : String
  query : Keyed String String := []
  content : Option Content := none

structure Answer where
  status : Nat
  /-- Nothing, if the answer is not JSON. -/
  body : Option Json

/-! ## Content -/

/-- What the content of a request is read as. -/
inductive Body where
  /-- There is no content, or it is not JSON. -/
  | nothing
  | value (v : Json)
  /-- The reading breaks off, for example because the value is nested too deeply. -/
  | raised

/-- The members that a body has. Without a value, or with a blank one, there are none; a value that
is no object cannot be asked for members. -/
def Body.members? : Body → Option (List (String × Json))
  | nothing => some []
  | value (.obj members) => some members
  | value v => if v.isBlank then some [] else none
  | raised => none

/-! ## Routes -/

inductive Route where
  | check
  | scan
  | files
  | details (path : String)
  | rules
  | statistics
  | recommendations
  | report
  deriving DecidableEq

namespace Route

/-- The method that a route answers to. -/
def method : Route → Method
  | check => .post
  | scan => .post
  | _ => .get

inductive Outcome where
  | route (r : Route)
  | redirect
  | wrongMethod
  | unknown
  deriving DecidableEq

end Route

structure Frontend where
  /-- The route of a method and a path, or why there is none. -/
  route : Method → String → Route.Outcome
  body : Request → Body

/-- The front end finds the routes that texts, projects and files are asked for by. -/
structure Frontend.Serves (front : Frontend) : Prop where
  check : front.route .post "/api/check" = .route .check
  scan : front.route .post "/api/scan" = .route .scan
  files : front.route .get "/api/files" = .route .files

end SourceStyle
