import PacketRing.Api.Metrics
import PacketRing.Api.Report
import PacketRing.Network.Subnet

/-!
# The HTTP API

* `Request`, `Response` : what comes in and what goes out;
* `Route` : the paths of the API;
* `Service` : the allowlist and the metrics, which live as long as the API;
* `Service.respond` : answering a request. A client that is not let in gets a bare refusal, and
  nothing else happens;
* `Service.stream` : a WebSocket client that takes statistics until it leaves.
-/

namespace PacketRing

/-- A request as the API sees it. -/
structure Request where
  method : String
  /-- The request target: a path, and a query after it; perhaps with a scheme and an authority
  before it. -/
  target : String
  headers : List (String × String) := []
  /-- The address of the client, if it is known. -/
  client : Option Address
  deriving DecidableEq, Repr

/-- The content of a response. -/
inductive Body where
  | empty
  | text (s : String)
  | json (j : Json)

/-- A response. -/
structure Response where
  status : Nat
  contentType : Option String := none
  /-- The methods that a path knows, named to a request with another one. -/
  allow : Option String := none
  body : Body := .empty

namespace Response

def forbidden : Response := { status := 403 }

def notFound : Response := { status := 404 }

def methodNotAllowed : Response := { status := 405 }

def json (j : Json) : Response :=
  { status := 200, contentType := some "application/json", body := .json j }

def plainText (status : Nat) (s : String) : Response :=
  { status, contentType := some "text/plain; charset=utf-8", body := .text s }

/-- The metrics' text exposition. -/
def exposition (s : String) : Response :=
  { status := 200, contentType := some "text/plain; version=0.0.4", body := .text s }

end Response

/-- The paths of the API. -/
inductive Route where
  | health | stats | interfaces | stream | metrics
  deriving DecidableEq, Repr

namespace Route

/-- The characters of a scheme. -/
def isSchemeChar (c : Char) : Bool := c.isAlphanum || c == '+' || c == '-' || c == '.'

/-- A target without the scheme and the authority that an absolute one begins with. -/
def withoutAuthority (target : List Char) : List Char :=
  match target.dropWhile isSchemeChar with
  | ':' :: '/' :: '/' :: rest => rest.dropWhile fun c => c ≠ '/' ∧ c ≠ '?' ∧ c ≠ '#'
  | _ => target

/-- The path part of a request target: what stands before a query or a fragment. An absolute target
without a path means the root. -/
def path (target : String) : String :=
  match (withoutAuthority target.toList).takeWhile fun c => c ≠ '?' ∧ c ≠ '#' with
  | [] => "/"
  | path => String.ofList path

/-- The route of a path. -/
def ofPath? : String → Option Route
  | "/api/health" => some health
  | "/api/stats" => some stats
  | "/api/interfaces" => some interfaces
  | "/api/stream" => some stream
  | "/metrics" => some metrics
  | _ => none

end Route

namespace Request

/-- The value of a header, whose name is matched in any mix of cases. -/
def header? (r : Request) (name : String) : Option String :=
  (r.headers.find? (·.1.toLower == name)).map (·.2)

/-- `part` occurs in `s`. -/
def occurs (part : List Char) : List Char → Bool
  | [] => part.isEmpty
  | c :: s => part.isPrefixOf (c :: s) || occurs part s

/-- The header `name` contains `part`, in any mix of cases. -/
def headerContains (r : Request) (name part : String) : Bool :=
  match r.header? name with
  | some value => occurs part.toList value.toLower.toList
  | none => false

/-- The header `name` is `value`, in any mix of cases. -/
def headerIs (r : Request) (name value : String) : Bool :=
  (r.header? name).map (·.toLower) == some value

/-- Why a request cannot become a WebSocket: the first thing it lacks. Outside a connection that
can be taken over, even a complete one cannot. -/
def upgradeRefusal (r : Request) : Response :=
  if r.method ≠ "GET" then .plainText 405 "Request method must be `GET`"
  else if !r.headerContains "connection" "upgrade" then
    .plainText 400 "Connection header did not include 'upgrade'"
  else if !r.headerIs "upgrade" "websocket" then
    .plainText 400 "`Upgrade` header did not include 'websocket'"
  else if !r.headerIs "sec-websocket-version" "13" then
    .plainText 400 "`Sec-WebSocket-Version` header did not include '13'"
  else if (r.header? "sec-websocket-key").isNone then
    .plainText 400 "`Sec-WebSocket-Key` header missing"
  else
    .plainText 426 "WebSocket request couldn't be upgraded since no upgrade state was present"

end Request

/-- The state of the API. -/
structure Service where
  allowlist : Allowlist
  metrics : Metrics := {}
  deriving DecidableEq, Repr

namespace Service

/-- The metrics moved forward to the counters of a capture. -/
def observe (s : Service) (t : Traffic) (h : Handle) (kernel : Option KernelTotals) : Service :=
  let m := s.metrics
  { s with
    metrics :=
      { packets := Metrics.advanceTo m.packets t.totalPackets
        bytes := Metrics.advanceTo m.bytes t.totalBytes
        kernelDrops := match kernel with
          | some totals => Metrics.advanceTo m.kernelDrops totals.drops
          | none => m.kernelDrops
        polls := Metrics.advanceTo m.polls h.reader.counts.polls
        interfacesSeen := t.interfaces.size } }

/-- The answer of a route to GET. -/
def handle (s : Service) (r : Request) (t : Traffic) (uptime : Nat) (h : Handle) (k : Kernel) :
    Route → Response × Service × Handle × Kernel
  | .health => (.json (h.health t).toJson, s, h, k)
  | .stats =>
    let (report, h, k) := h.statsReport t uptime k
    (.json report.toJson, s, h, k)
  | .interfaces => (.json (k.trafficReport t).toJson, s, h, k)
  | .stream => (r.upgradeRefusal, s, h, k)
  | .metrics =>
    let (answer, h, k) := h.socketStats k
    let s := s.observe t h answer.toOption
    (.exposition s.metrics.text, s, h, k)

/-- The methods that the routes know. -/
def methods : String := "GET,HEAD"

/-- Answers a request. HEAD is answered as GET, with the body left out. -/
def respond (s : Service) (r : Request) (t : Traffic) (uptime : Nat) (h : Handle) (k : Kernel) :
    Response × Service × Handle × Kernel :=
  let route := Route.ofPath? (Route.path r.target)
  let known := r.method == "GET" || r.method == "HEAD"
  let allow := if route.isSome && !known then some methods else none
  if !s.allowlist.admits r.client then ({ Response.forbidden with allow }, s, h, k)
  else
    match route with
    | none => (.notFound, s, h, k)
    | some route =>
      if !known then ({ Response.methodNotAllowed with allow }, s, h, k)
      else
        let (response, s, h, k) := s.handle r t uptime h k route
        if r.method == "HEAD" then ({ response with body := .empty }, s, h, k)
        else (response, s, h, k)

/-! ## The stream -/

/-- `n` reports, one after the other. -/
def reports (t : Traffic) (uptime : Nat) (h : Handle) (k : Kernel) :
    Nat → List StatsReport × Handle × Kernel
  | 0 => ([], h, k)
  | n + 1 =>
    let (report, h, k) := h.statsReport t uptime k
    let (rest, h, k) := reports t uptime h k n
    (report :: rest, h, k)

/-- A WebSocket client that takes `messages` reports and leaves: the status of its request and the
reports. One more report is made before the client is found gone. -/
def stream (s : Service) (client : Option Address) (messages : Nat) (t : Traffic) (uptime : Nat)
    (h : Handle) (k : Kernel) : Nat × List StatsReport × Handle × Kernel :=
  if !s.allowlist.admits client then (Response.forbidden.status, [], h, k)
  else
    let (made, h, k) := reports t uptime h k (messages + 1)
    (101, made.take messages, h, k)

end Service

end PacketRing
