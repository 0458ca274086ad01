import WastePickup.Api.Echo

/-!
# The service

A request goes through fixed checks, and the first that fails gives the response: its address, a
body that is no JSON or cannot be read, the headers that say who asks, the role, the rest of the
request, and the number of requests that its path has already been served. Then its command runs.

Issues with the headers are reported together with those of the rest; a role that is not admitted
hides the issues of the rest. Only requests that pass all checks count against the limit of their
path, and only until their minute is over. The health check asks for nothing and has no limit.

A request that breaks down has no response (`Reply`). A request for the head alone is answered
without a body.
-/

namespace WastePickup

/-- A request as it arrives. -/
structure Request where
  method : String
  target : String
  headers : List (String × String)
  body : Body

/-- A response; a redirection has no body, nor has the answer to a request for the head alone. -/
structure Response where
  code : Nat
  body : Option Json

/-- What a request leads to. -/
abbrev Reply := Except Breakdown Response

namespace Response

/-- A response without its body. -/
def headOnly (r : Response) : Response :=
  { r with body := none }

/-- A response with one line of explanation. -/
def detail (code : Nat) (text : String) : Response :=
  ⟨code, some (.obj [("detail", .str text)])⟩

/-- A report of issues. -/
def ofIssues (issues : List Issue) : Response :=
  ⟨422, some (.arr (issues.map Issue.toJson))⟩

/-- The body cannot be read. -/
def unreadable : Response := detail 400 "There was an error parsing the body"

/-- No such address. -/
def notFound : Response := detail 404 "Not Found"

/-- The address has other methods. -/
def methodNotAllowed : Response := detail 405 "Method Not Allowed"

/-- The address exists without the slash at its end. -/
def redirect : Response := ⟨307, none⟩

/-- The path has been served too often. -/
def tooMany : Response :=
  ⟨429, some (.obj [("error", .str "Rate limit exceeded: 100 per 1 minute")])⟩

end Response

namespace Reply

/-- The reply as the method of its request admits it. -/
def sentTo (method : String) (reply : Reply) : Reply :=
  if method = "HEAD" then reply.map Response.headOnly else reply

/-- The reply to a request with issues. -/
def ofIssues (body : Body) (issues : List Issue) : Reply :=
  match Issue.breakdown? body issues with
  | some breakdown => .error breakdown
  | none => .ok (.ofIssues issues)

/-- The reply to a request that ran. -/
def ofOutcome : Except Refusal Answer → Reply
  | .ok answer => .ok ⟨answer.code, some answer.toJson⟩
  | .error refusal =>
    match refusal.breakdown? with
    | some breakdown => .error breakdown
    | none => .ok (.detail refusal.code refusal.detail)

end Reply

/-- The world and how often each path has been served in its present minute. -/
structure Service where
  world : World
  served : List (String × Nat)

namespace Service

/-- How many requests a path is served in a minute. -/
def limit : Nat := 100

/-- How often a path has been served in its present minute. -/
def servedAt (service : Service) (path : String) : Nat :=
  (service.served.lookup path).getD 0

/-- Begin to count the requests to a path anew. -/
def forget (service : Service) (path : String) : Service :=
  { service with served := service.served.filter fun p => p.1 ≠ path }

/-- Count a request to a path. -/
def count (service : Service) (path : String) : Service :=
  { service with served := (path, service.servedAt path + 1) :: (service.forget path).served }

/-! ## Who asks -/

/-- The identity of the caller. -/
def actorIdField : Field Int := .required "x-actor-id" (.whole none none)

/-- The role of the caller. -/
def actorRoleField : Field Role := .required "x-actor-role" (.choice Role)

/-- Read who asks. Names of headers are compared without case, and the first of several counts. -/
def readActor (headers : List (String × String)) : Checked Actor :=
  let members : Json.Object := headers.map fun (name, value) => (name.map Char.toLower, .str value)
  ((Actor.mk <$> actorIdField.read members) <*> actorRoleField.read members).under (.field "header")

/-! ## Addresses -/

/-- Where a request leads. -/
inductive Route where
  | notFound
  | methodNotAllowed
  | redirect
  | endpoint (e : Endpoint) (number : String)
  deriving DecidableEq

/-- A path without the slashes at its end, if it has any. -/
def withoutSlashes (segments : List String) : Option (List String) :=
  if segments.getLast? = some "" then
    some (segments.reverse.dropWhile (· = "")).reverse
  else none

/-- Find where a method and a path lead. -/
def route (method : String) (segments : List String) : Route :=
  match Endpoint.atPath segments with
  | [] =>
    match withoutSlashes segments with
    | none => .notFound
    | some shorter => if (Endpoint.atPath shorter).isEmpty then .notFound else .redirect
  | found =>
    match found.find? fun e => e.1.method = method with
    | none => .methodNotAllowed
    | some (e, number) => .endpoint e number

/-! ## Serving -/

/-- Run a command for somebody, unless its path has been served too often. -/
def runLimited (service : Service) (token : Token) (now : Instant) (path : String) (actor : Actor)
    (command : Command) : Service × Reply :=
  if limit ≤ service.servedAt path then (service, .ok .tooMany)
  else
    let (world, outcome) := command.run service.world token now actor
    ({ service.count path with world }, .ofOutcome outcome)

/-- Serve a request at an endpoint. -/
def serveAt (service : Service) (token : Token) (now : Instant) (endpoint : Endpoint)
    (number : String) (target : Target) (request : Request) : Service × Reply :=
  if endpoint = .health then (service, .ofOutcome (.ok .healthy))
  else if endpoint.takesBody && request.body matches .malformed then
    (service, .ok (.ofIssues [⟨[.field "body"], .jsonInvalid⟩]))
  else if endpoint.takesBody && request.body matches .unreadable then
    (service, .ok .unreadable)
  else
    let command := endpoint.read number target.query request.body
    match readActor request.headers with
    | .failed first others => (service, .ofIssues request.body (first :: others ++ command.issues))
    | .ok actor =>
      if actor.role ∉ endpoint.roles then
        (service, .ok (.detail 403
          ("Role '" ++ actor.role.name ++ "' is not authorized for this action")))
      else
        match command with
        | .failed first others => (service, .ofIssues request.body (first :: others))
        | .ok command => service.runLimited token now target.path actor command

/-- Serve a request, whatever its method admits as an answer. -/
def respond (service : Service) (token : Token) (now : Instant) (request : Request) :
    Service × Reply :=
  let target := Target.ofText request.target
  match route request.method target.segments with
  | .notFound => (service, .ok .notFound)
  | .methodNotAllowed => (service, .ok .methodNotAllowed)
  | .redirect => (service, .ok .redirect)
  | .endpoint e number => service.serveAt token now e number target request

/-- Serve a request. -/
def serve (service : Service) (token : Token) (now : Instant) (request : Request) :
    Service × Reply :=
  let (next, reply) := service.respond token now request
  (next, reply.sentTo request.method)

end Service

end WastePickup
