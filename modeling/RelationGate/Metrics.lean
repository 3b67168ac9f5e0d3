import RelationGate.Call.Context
import RelationGate.Error

/-!
# Counters of calls

Completed calls are counted by kind, method, status and reason, and their latencies by kind and
method. A histogram counts for each bound the latencies up to it. The scrape lists the families
by name and the rows of a family by the values of their labels.
-/

namespace RelationGate

/-- The labels of a counted call. -/
structure CallLabels where
  kind : String
  method : String
  code : String
  reason : String
  deriving DecidableEq, Repr

/-- The bounds of the histogram, in microseconds. -/
def latencyBounds : List Nat :=
  [1000, 5000, 10000, 25000, 50000, 100000, 250000, 500000, 1000000, 2500000, 5000000, 10000000]

/-- The latencies of the calls of a kind and a method. -/
structure Histogram where
  kind : String
  method : String
  /-- For each bound, how many latencies were at most that. -/
  within : List Nat
  count : Nat
  deriving DecidableEq, Repr

/-- The counters. -/
structure Metrics where
  requests : List (CallLabels × Nat) := []
  latencies : List Histogram := []
  deriving DecidableEq, Repr

namespace Metrics

/-- One more call of some labels. -/
def countCall (labels : CallLabels) : List (CallLabels × Nat) → List (CallLabels × Nat)
  | [] => [(labels, 1)]
  | (other, n) :: rest =>
    if labels = other then (other, n + 1) :: rest else (other, n) :: countCall labels rest

/-- For each bound, one more if the latency is within it. -/
def addLatency (micros : Nat) (counts : List Nat) : List Nat :=
  List.zipWith (fun bound n => if micros ≤ bound then n + 1 else n) latencyBounds counts

/-- One more latency of a kind and a method. -/
def countLatency (kind method : String) (micros : Nat) : List Histogram → List Histogram
  | [] => [⟨kind, method, addLatency micros (latencyBounds.map fun _ => 0), 1⟩]
  | h :: rest =>
    if h.kind = kind ∧ h.method = method then
      { h with within := addLatency micros h.within, count := h.count + 1 } :: rest
    else h :: countLatency kind method micros rest

/-- The labels of a completed call. -/
def labelsOf (kind : CallKind) (method : String) : Except CallError Unit → CallLabels
  | .ok () => ⟨kind.label, method, Status.label .ok, ""⟩
  | .error e => ⟨kind.label, method, e.status.label, e.reason⟩

/-- Counts a completed call. -/
def observe (m : Metrics) (kind : CallKind) (method : String) (outcome : Except CallError Unit)
    (micros : Nat) : Metrics where
  requests := countCall (labelsOf kind method outcome) m.requests
  latencies := countLatency kind.label method micros m.latencies

/-- How many calls of some labels were counted. -/
def requestCount (m : Metrics) (labels : CallLabels) : Nat := (m.requests.lookup labels).getD 0

/-- How many latencies of a kind and a method were counted. -/
def latencyCount (m : Metrics) (kind method : String) : Nat :=
  match m.latencies.find? fun h => h.kind == kind && h.method == method with
  | some h => h.count
  | none => 0

/-! ## The scrape -/

/-- The order of label values: the first pair of different ones decides. -/
def valuesLE : List String → List String → Bool
  | [], _ => true
  | _ :: _, [] => false
  | a :: as, b :: bs => if a = b then valuesLE as bs else a < b

/-- The values of the labels in the order of the label names. -/
def CallLabels.values (l : CallLabels) : List String := [l.code, l.kind, l.method, l.reason]

/-- The counted calls in the order of the scrape. -/
def sortedRequests (m : Metrics) : List (CallLabels × Nat) :=
  m.requests.mergeSort fun a b => valuesLE (CallLabels.values a.1) (CallLabels.values b.1)

/-- The latencies in the order of the scrape. -/
def sortedLatencies (m : Metrics) : List Histogram :=
  m.latencies.mergeSort fun a b => valuesLE [a.kind, a.method] [b.kind, b.method]

/-- The name of the family of completed calls. -/
def requestsName : String := "permgate_rpc_requests_total"

/-- The name of the family of latencies. -/
def latencyName : String := "permgate_rpc_latency_seconds"

/-- One character of a label value in the scrape. -/
def escapedLabelChar (c : Char) : String :=
  if c = '\\' then "\\\\" else if c = '\n' then "\\n" else if c = '"' then "\\\"" else c.toString

/-- A row of the scrape. -/
def line (name : String) (labels : List (String × String)) (value : Nat) : String :=
  let label (l : String × String) : String :=
    l.1 ++ "=\"" ++ String.join (l.2.toList.map escapedLabelChar) ++ "\""
  name ++ "\x7b" ++ String.intercalate "," (labels.map label) ++ "\x7d " ++ toString value ++ "\n"

/-- The lines that open a family. -/
def familyHead (name help type : String) : String :=
  "# HELP " ++ name ++ " " ++ help ++ "\n# TYPE " ++ name ++ " " ++ type ++ "\n"

/-- The text of the scrape, without the lines that hold measured times. -/
def scrape (m : Metrics) : String :=
  let latencies :=
    if m.latencies.isEmpty then ""
    else familyHead latencyName "End-to-end call latency inside the interceptor chain" "histogram" ++
      String.join (m.sortedLatencies.map fun h =>
        line (latencyName ++ "_count") [("kind", h.kind), ("method", h.method)] h.count)
  let requests :=
    if m.requests.isEmpty then ""
    else familyHead requestsName "Completed calls by kind, method, result code and reason" "counter" ++
      String.join (m.sortedRequests.map fun r =>
        line requestsName [("code", r.1.code), ("kind", r.1.kind), ("method", r.1.method),
          ("reason", r.1.reason)] r.2)
  latencies ++ requests

end Metrics

end RelationGate
