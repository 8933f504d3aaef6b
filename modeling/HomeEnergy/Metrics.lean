import HomeEnergy.Catalog
import HomeEnergy.Link.State

/-!
# Metrics

What the collector counts: queries by module and result, the durations of queries, its own starts,
and the events of connections. The exposition lists all counts as lines of text.

## Main results

* `Metrics.queryCount_countQuery` — counting a query adds one to its own count only.
* `Metrics.countQuery_comm` — counting queries in either order.
* `Metrics.exposition` — the lines of all counts, families and labels in ascending order.
-/

namespace HomeEnergy

/-- How a query ended. -/
inductive QueryResult where
  | success
  | failure
deriving DecidableEq, Repr

/-- The word for a result. -/
def QueryResult.name : QueryResult → String
  | .success => "success"
  | .failure => "failure"

/-- Counts by two labels. -/
abbrev Tally := Catalog (Catalog Nat)

namespace Tally

/-- The count under two labels. -/
def count (t : Tally) (a b : String) : Nat := (((t.find? a).getD .empty).find? b).getD 0

/-- Add to the count under two labels. Adding zero only makes the labels known. -/
def add (t : Tally) (a b : String) (n : Nat) : Tally :=
  Catalog.alter t a .empty (·.alter b 0 (· + n))

@[simp] theorem count_add (t : Tally) (a b c d : String) (n : Nat) :
    (t.add a b n).count c d = t.count c d + if c = a ∧ d = b then n else 0 := by
  unfold count add Catalog.alter
  rw [Catalog.find?_insert]
  by_cases hc : c = a
  · subst hc
    by_cases hd : d = b
    · subst hd; simp
    · simp [hd]
  · simp [hc]

theorem add_comm (t : Tally) (a b c d : String) (m n : Nat) :
    (t.add a b m).add c d n = (t.add c d n).add a b m := by
  apply Catalog.alter_comm
  intro _ inner
  apply Catalog.alter_comm
  intro _ x
  exact Nat.add_right_comm x m n

end Tally

/-- All counts. -/
structure Metrics where
  /-- Queries by result and module. -/
  queries : Tally := .empty
  /-- The number of timed queries by module. -/
  durations : Catalog Nat := .empty
  starts : Nat := 0
  /-- Events by connection and name. -/
  events : Tally := .empty
deriving Inhabited

namespace Metrics

/-- The counters before anything has been counted. -/
def empty : Metrics := ⟨.empty, .empty, 0, .empty⟩

/-- The version that the build information gives. -/
def version : String := "0.1.0"

/-- Count a query of a module. -/
def countQuery (m : Metrics) (service : String) (r : QueryResult) : Metrics :=
  { m with
    queries := m.queries.add r.name service 1
    durations := m.durations.alter service 0 (· + 1) }

/-- Count an event of a connection. -/
def countEvent (m : Metrics) (connection : String) (e : LinkEvent) : Metrics :=
  { m with events := m.events.add connection e.name 1 }

/-- Count a start of the collector. -/
def countStart (m : Metrics) : Metrics := { m with starts := m.starts + 1 }

/-- The number of queries of a module with a result. -/
def queryCount (m : Metrics) (service : String) (r : String) : Nat := m.queries.count r service

/-- Make a module and a result known. -/
def know (m : Metrics) (service r : String) : Metrics :=
  { m with queries := m.queries.add r service 0 }

@[simp] theorem queryCount_countQuery (m : Metrics) (s t : String) (r : QueryResult) (w : String) :
    (m.countQuery s r).queryCount t w
      = m.queryCount t w + if w = r.name ∧ t = s then 1 else 0 := by
  simp [queryCount, countQuery]

/-- It makes no difference in which order two queries are counted. -/
theorem countQuery_comm (m : Metrics) (s t : String) (r u : QueryResult) :
    (m.countQuery s r).countQuery t u = (m.countQuery t u).countQuery s r := by
  simp only [countQuery]
  rw [Tally.add_comm, Catalog.alter_comm]
  exact fun _ _ => rfl

/-! ## Exposition -/

/-- The value of a label between quotes. -/
def labelText (s : String) : String :=
  String.ofList (s.toList.flatMap fun c =>
    if c = '\\' then ['\\', '\\']
    else if c = '"' then ['\\', '"']
    else if c = '\n' then ['\\', 'n']
    else [c])

/-- One count: a name, labels in ascending order, and the number. -/
def sample (name : String) (labels : List (String × String)) (n : Nat) : String :=
  let inside := ",".intercalate (labels.map fun (k, v) => k ++ "=\"" ++ labelText v ++ "\"")
  let shown := if labels.isEmpty then "" else "\x7b" ++ inside ++ "\x7d"
  name ++ shown ++ " " ++ toString n

/-- A family of counts under two lines that describe it. A family without counts is not shown. -/
def family (name kind help : String) (samples : List String) : List String :=
  if samples.isEmpty then []
  else ("# HELP " ++ name ++ " " ++ help) :: ("# TYPE " ++ name ++ " " ++ kind) :: samples

/-- The counts of a tally. -/
def tallySamples (name first second : String) (t : Tally) : List String :=
  t.entries.flatMap fun (a, inner) =>
    inner.entries.map fun (b, n) => sample name [(first, a), (second, b)] n

/-- All families, in ascending order of their names. -/
def families (m : Metrics) : List (List String) :=
  [family "homewatt_build_info" "gauge" "Build information"
      [sample "homewatt_build_info" [("version", version)] 1],
    family "homewatt_link_events_total" "counter"
      "Connection lifecycle events (init, reinit, failures)"
      (tallySamples "homewatt_link_events_total" "connection" "event" m.events),
    family "homewatt_queries_total" "counter" "Device queries by outcome"
      (tallySamples "homewatt_queries_total" "result" "service" m.queries),
    family "homewatt_query_latency_seconds" "histogram" "Duration of one device round-trip"
      (m.durations.entries.map fun (service, n) =>
        sample "homewatt_query_latency_seconds_count" [("service", service)] n),
    family "homewatt_starts_total" "counter" "Process starts"
      [sample "homewatt_starts_total" [] m.starts]].filter (!·.isEmpty)

/-- The lines of all counts. -/
def exposition (m : Metrics) : List String := m.families.flatten

end Metrics

end HomeEnergy
