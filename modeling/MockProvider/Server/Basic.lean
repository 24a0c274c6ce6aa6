import MockProvider.Server.Address
import MockProvider.Server.Arrival
import MockProvider.Server.Reply
import MockProvider.Server.Report

/-!
# Servers

A server stands in for the provider of one contract. It answers every request with the response of
the interaction that the request matches, or tells how the request differs, and keeps what it
received. `Server.matched` is the verdict: every request matched, and every interaction was asked
for.
-/

namespace MockProvider

/-- Whether a server is there for requests. -/
inductive ServerState where
  | running
  | stopped
deriving DecidableEq, Repr

def ServerState.name : ServerState → String
  | .running => "running"
  | .stopped => "stopped"

/-- How often a server was asked, in all and for each path. -/
structure Metrics where
  total : Nat := 0
  byPath : Dict Nat := .empty

def Metrics.count (m : Metrics) (path : String) : Metrics :=
  { total := m.total + 1, byPath := m.byPath.alter path fun count => count.getD 0 + 1 }

def Metrics.toJson (m : Metrics) : Json :=
  .ofMembers
    [("totalRequests", .ofNat m.total), ("requestsByPath", .ofDict (m.byPath.map Json.ofNat))]

/-- A server with all that it received. -/
structure Server where
  contract : Contract
  config : Config
  address : SocketAddress
  state : ServerState := .running
  records : List Record := []
  metrics : Metrics := {}

instance : Inhabited Server := ⟨⟨{}, {}, ⟨.loopback, 0⟩, .stopped, [], {}⟩⟩

namespace Server

/-! ## Requests -/

def record (s : Server) (request : Request) (outcome : Selection) : Server :=
  { s with records := s.records ++ [⟨request, outcome⟩] }

/-- The permission for a browser, where requests for it are answered. -/
def preflight? (s : Server) (a : Arrival) : Option Reply :=
  if s.config.corsPreflight && a.method == "OPTIONS" then
    some (.preflight (a.shownHeader? "origin") (a.shownHeader? "access-control-request-headers"))
  else none

/-- What an answered request leads to. -/
structure Answered where
  reply : Reply
  server : Server

/-- The answer to a request that matches nothing. Requests of browsers for permission leave no
    record. -/
def refuse (s : Server) (a : Arrival) (request : Request) (outcome : Selection) (word : String)
    (mismatches : List Mismatch) : Answered :=
  match s.preflight? a with
  | some reply => ⟨reply, s⟩
  | none =>
    let error := word ++ " : " ++ request.method ++ " " ++ request.path
    ⟨.ofMismatches error mismatches, s.record request outcome⟩

def responseAt (s : Server) (index : Nat) : Response :=
  (s.contract.interactions[index]?.map Interaction.response).getD {}

def handle (s : Server) (a : Arrival) : Answered :=
  let request := a.toRequest
  let counted := { s with metrics := s.metrics.count request.path }
  let outcome := s.contract.select request
  match outcome with
  | .matched index => ⟨.ofResponse (s.responseAt index), counted.record request outcome⟩
  | .closest _ mismatches => counted.refuse a request outcome "Request-Mismatch" mismatches
  | .notFound => counted.refuse a request outcome "Unexpected-Request" []

/-- What a request leads to where arithmetic is checked. When the selection stops, the request was
    counted and its connection is closed without a reply. -/
def handleChecked (s : Server) (a : Arrival) : Option Reply × Server :=
  match s.contract.selectChecked a.toRequest with
  | none => (none, { s with metrics := s.metrics.count a.toRequest.path })
  | some _ => (some (s.handle a).reply, (s.handle a).server)

/-! ## Verdict -/

def report (s : Server) : List ReportEntry :=
  ReportEntry.report s.contract s.records

/-- Whether every request matched and every interaction was asked for. -/
def matched (s : Server) : Bool :=
  s.report.isEmpty

/-! ## Stopping -/

def isRunning (s : Server) : Bool :=
  s.state == .running

def stop (s : Server) : Server :=
  { s with state := .stopped }

end Server

end MockProvider
