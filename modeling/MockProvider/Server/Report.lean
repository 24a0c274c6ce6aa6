import MockProvider.Matching.Selection

/-!
# Reports

What went wrong while a server was running: requests that matched no interaction, and interactions
that no request came to.
-/

namespace MockProvider

namespace Selection

def isMatch : Selection → Bool
  | .matched _ => true
  | _ => false

def index? : Selection → Option Nat
  | .matched index => some index
  | .closest index _ => some index
  | .notFound => none

end Selection

/-- A request that a server received, and what came of it. -/
structure Record where
  request : Request
  outcome : Selection

inductive ReportEntry where
  | requestMismatch (method path interaction : String) (mismatches : List Mismatch)
  | requestNotFound (method path : String) (request : Json)
  | missingRequest (method path interaction : String)

namespace ReportEntry

def members (kind method path : String) : List (String × Json) :=
  [("type", .string kind), ("method", .string method), ("path", .string path)]

def toJson : ReportEntry → Json
  | .requestMismatch method path interaction mismatches =>
    .ofMembers (members "request-mismatch" method path ++
      [("interaction", .string interaction), ("mismatches", .array (mismatches.map Mismatch.toJson))])
  | .requestNotFound method path request =>
    .ofMembers (members "request-not-found" method path ++ [("request", request)])
  | .missingRequest method path interaction =>
    .ofMembers (members "missing-request" method path ++ [("interaction", .string interaction)])

def descriptionAt (c : Contract) (index : Nat) : String :=
  (c.interactions[index]?.map Interaction.description).getD ""

/-- The entry for a request, unless it matched. -/
def ofRecord? (c : Contract) (record : Record) : Option ReportEntry :=
  let r := record.request
  match record.outcome with
  | .matched _ => none
  | .closest index mismatches =>
    some (.requestMismatch r.method r.path (descriptionAt c index) mismatches)
  | .notFound => some (.requestNotFound r.method r.path r.toJson)

/-- The entries for interactions from a position on that no request was ascribed to. -/
def missing (ascribed : List Nat) : (position : Nat) → List Interaction → List ReportEntry
  | _, [] => []
  | position, i :: is =>
    let rest := missing ascribed (position + 1) is
    if ascribed.contains position then rest
    else .missingRequest i.request.method i.request.path i.description :: rest

def report (c : Contract) (records : List Record) : List ReportEntry :=
  records.filterMap (ofRecord? c) ++
    missing (records.filterMap fun record => record.outcome.index?) 0 c.interactions

end ReportEntry

end MockProvider
