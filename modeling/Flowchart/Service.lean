import Flowchart.Clean.Label
import Flowchart.Fix.Apply
import Flowchart.Fix.Candidates
import Flowchart.Record.Exchange
import Flowchart.Report
import Flowchart.Service.Body
import Flowchart.Service.Response

/-!
# The service

The service answers requests with JSON.  A path that it does not know is not
found, whatever the method; a path that it knows has one method.  A body that is
no valid request is answered with the list of its faults, and one that cannot be
read with a plain refusal.
-/

namespace Flowchart

/-- A request. -/
structure Request where
  /-- The method. -/
  method : Text
  /-- The path. -/
  path : Text
  /-- The body. -/
  body : Body

/-- The response to a body that is to be decoded and carried out. -/
def Body.respond {α : Type} (decode : Members → Checked α) (carryOut : α → Json)
    (body : Body) : Response :=
  match body.content with
  | .nothing => .ofFaults [⟨.missing, []⟩] .null
  | .malformed => .ofFaults [⟨.jsonInvalid, []⟩] (.obj [])
  | .unreadable => .refusal 400 (.ofString "There was an error parsing the body")
  | .value found =>
    .ofChecked carryOut found (decodeRecord .modelAttributesType decode found)

/-- The issues of a text with their candidates. -/
def LintRequest.answer (limits : Limits) (request : LintRequest) : LintResponse :=
  ⟨(orderedIssues limits request.sort request.source).map fun issue =>
    ⟨issue, issue.candidates⟩⟩

/-- The text with the fix applied. -/
def FixRequest.answer (request : FixRequest) : SourceResponse :=
  let fixed := request.fix.apply request.source
  ⟨fixed, fixed != request.source⟩

/-- The text as it is handed to the renderer. -/
def LintRequest.sanitized (request : LintRequest) : SourceResponse :=
  let clean := sanitize request.source
  ⟨clean, clean != request.source⟩

/-- What the service says of itself. -/
def serviceInfo : Json :=
  .ofMembers
    [("service", .ofString "flowlint"), ("version", .str version),
     ("status", .ofString "operational"), ("docs", .ofString "/docs")]

/-- What the service can do. -/
inductive Route where
  /-- Say what it is. -/
  | info
  /-- Say that it is well. -/
  | health
  /-- Find the issues of a text. -/
  | lint
  /-- Apply a fix to a text. -/
  | fix
  /-- Prepare a text for the renderer. -/
  | sanitize
  deriving DecidableEq, Repr

namespace Route

/-- The routes. -/
def all : List Route :=
  [info, health, lint, fix, sanitize]

/-- The path of a route. -/
def path : Route → Text
  | info => "/".toList
  | health => "/health".toList
  | lint => "/api/v1/lint".toList
  | fix => "/api/v1/fix".toList
  | sanitize => "/api/v1/sanitize".toList

/-- The one method of a route. -/
def method : Route → Text
  | info | health => "GET".toList
  | lint | fix | sanitize => "POST".toList

/-- Is this the path of the route?  One line feed may stand behind it. -/
def isAt (route : Route) (path : Text) : Bool :=
  path = route.path || path = route.path ++ ['\n']

/-- The route at a path. -/
def atPath? (path : Text) : Option Route :=
  all.find? fun route => route.isAt path

/-- The response of a route to a body. -/
def respond (limits : Limits) (body : Body) : Route → Response
  | info => .ok serviceInfo
  | health => .ok (.ofMembers [("status", .ofString "ok")])
  | lint =>
    body.respond LintRequest.ofMembers fun request =>
      LintResponse.form.encode (request.answer limits)
  | fix =>
    body.respond FixRequest.ofMembers fun request =>
      SourceResponse.form.encode request.answer
  | sanitize =>
    body.respond LintRequest.ofMembers fun request =>
      SourceResponse.form.encode request.sanitized

end Route

/-- The path to which a client is sent on where there is no route: the one without the
slashes at its end, or with a slash where there is none. -/
def redirectedPath (path : Text) : Text :=
  if path.getLast? = some '/' then (path.reverse.dropWhile (· = '/')).reverse
  else path ++ ['/']

/-- The response to a request. -/
def respond (limits : Limits) (request : Request) : Response :=
  match Route.atPath? request.path <|> Route.atPath? (redirectedPath request.path) with
  | none => .refusal 404 (.ofString "Not Found")
  | some route =>
    if route.method = request.method then route.respond limits request.body
    else .refusal 405 (.ofString "Method Not Allowed")

end Flowchart
