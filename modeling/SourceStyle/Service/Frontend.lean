import SourceStyle.Json.Reader
import SourceStyle.Service.Request
import SourceStyle.Text.LowerCase
import SourceStyle.Text.Utf8

/-!
# The front end of the service

Each route has a path and answers to one method. A path with a doubled slash leads to the route of
the path without it, by way of a redirection. A content is read as JSON if its media type says so.
It has to be in UTF-8.
-/

namespace SourceStyle

/-! ## Content -/

namespace Content

def isSpace (c : Char) : Bool := c.isWhitespace

def trim (t : Text) : Text := ((t.dropWhile isSpace).reverse.dropWhile isSpace).reverse

/-- The media type without its parameters. -/
def essence (c : Content) : Text :=
  Text.toLower (trim (c.mediaType.toList.takeWhile (· ≠ ';')))

/-- Whether the content is meant as JSON. -/
def isJson (c : Content) : Bool :=
  let t := c.essence
  t == "application/json".toList ||
    "application/".toList.isPrefixOf t && "+json".toList.isSuffixOf t

/-- A text without the mark of its byte order. -/
def withoutMark : Text → Text
  | '\ufeff' :: t => t
  | t => t

/-- What a content is read as, by a reader that goes `levels` deep. -/
def body (levels : Nat) (c : Content) : Body :=
  if !c.isJson then .nothing
  else
    match Utf8.decode c.bytes with
    | .error _ => .nothing
    | .ok t =>
      match Json.parse levels (withoutMark t) with
      | .ok v => .value v
      | .error .malformed => .nothing
      | .error .tooDeep => .raised

end Content

/-! ## Routes -/

namespace Route

/-- The rest of a path that stands for a file: it is not empty, does not start with a slash, and
stays on one line. -/
def fileOf? (t : Text) : Option String :=
  match t with
  | [] => none
  | c :: rest => if c = '/' ∨ '\n' ∈ rest then none else some (String.ofList t)

/-- What follows a given start. -/
def after? (start t : Text) : Option Text :=
  if start.isPrefixOf t then some (t.drop start.length) else none

def ofPath? (t : Text) : Option Route :=
  let fixed := [("/api/check", check), ("/api/scan", scan), ("/api/files", files),
    ("/api/rules", rules), ("/api/statistics", statistics),
    ("/api/recommendations", recommendations), ("/api/export", report)]
  match fixed.find? (·.1.toList == t) with
  | some (_, route) => some route
  | none => ((after? "/api/files/".toList t).bind fileOf?).map details

/-- The method and the outcome of a path. A page may ask for files of its own, of which there are
none. -/
def target? (t : Text) : Option (Method × Outcome) :=
  ((ofPath? t).map fun r => (r.method, .route r)).or
    (((after? "/static/".toList t).bind fileOf?).map fun _ => (.get, .unknown))

/-- The path with each pair of slashes made one. -/
def mergeSlashes : Text → Text
  | [] => []
  | '/' :: '/' :: t => '/' :: mergeSlashes t
  | c :: t => c :: mergeSlashes t

/-- The route of a request, or why it has none. -/
def find (method : Method) (path : Text) : Outcome :=
  match target? path with
  | some (allowed, outcome) => if allowed = method then outcome else .wrongMethod
  | none =>
    match target? (mergeSlashes path) with
    | some (allowed, _) => if allowed = method then .redirect else .wrongMethod
    | none => .unknown

end Route

/-- How deep values may be nested in a content. The number is an estimate: a reader gives up somewhat
below a thousand levels, by as much as there is on the stack when it starts. -/
def Frontend.levels : Nat := 960

/-- The front end that the service runs behind. -/
def Frontend.standard : Frontend where
  route method path := Route.find method path.toList
  body r :=
    match r.content with
    | some c => c.body levels
    | none => .nothing

theorem Frontend.body_standard {r : Request} {c : Content} (h : r.content = some c) :
    standard.body r = c.body levels := by
  simp only [standard, h]

theorem Frontend.serves_standard : standard.Serves := ⟨by decide, by decide, by decide⟩

end SourceStyle
