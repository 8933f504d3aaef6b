import HomeEnergy.Fault
import HomeEnergy.Settings

/-!
# Settings that make sense

What settings must keep beyond their types. The rules are checked in a fixed order, section by
section, and the first one that is broken is reported.

## Main results

* `CollectorSettings.rules` — all rules, each with the fault that tells of its breach.
* `CollectorSettings.validate_eq_ok_iff` — settings are valid exactly when they keep every rule.
-/

namespace HomeEnergy

/-- A rule: whether it is kept, and the fault if it is not. -/
structure Rule where
  kept : Bool
  breach : Fault

namespace Rule

/-- A field must not be empty. -/
def present (field value : String) : Rule := ⟨value ≠ "", .invalidConfig field "cannot be empty"⟩

/-- An address must not be blank. -/
def address (field value : String) : Rule :=
  ⟨Text.trimmed value ≠ "", .invalidConfig field "cannot be empty"⟩

/-- There must be at least one of something. -/
def someOf (field : String) (value : Nat) : Rule :=
  ⟨value ≠ 0, .invalidConfig field "must be at least 1"⟩

/-- Time must pass between two readings. -/
def interval (field : String) (value : Span) : Rule :=
  ⟨value.nanos ≠ 0, .invalidConfig field "must be greater than zero"⟩

/-- The first breach, if there is one. -/
def check : List Rule → Outcome Unit
  | [] => .ok ()
  | r :: rest => if r.kept then check rest else .error r.breach

theorem check_eq_ok_iff {rules : List Rule} : check rules = .ok () ↔ ∀ r ∈ rules, r.kept := by
  induction rules with
  | nil => simp [check]
  | cons r rest ih =>
    by_cases h : r.kept <;> simp [check, h, ih]

end Rule

/-- Each module needs a name, and no two may share one. -/
def nameRules : List String → List String → List Rule
  | _, [] => []
  | before, name :: rest =>
    ⟨name ≠ "", .invalidConfig "name" "module name cannot be empty"⟩
      :: ⟨name ∉ before, .invalidConfig "name" ("duplicate module name '" ++ name ++ "'")⟩
      :: nameRules (name :: before) rest

namespace CollectorSettings

/-- All rules, in the order in which they are checked. -/
def rules (s : CollectorSettings) : List Rule :=
  [.present "service.name" s.service.name, .present "service.status_listen" s.service.listen]
  ++ s.database.toList.flatMap (fun d =>
    [.present "timescaledb.host" d.host, .present "timescaledb.database" d.database,
      .someOf "timescaledb.max_connections" d.maxConnections])
  ++ s.inverter.toList.flatMap (fun d =>
    [.address "fronius.host" d.host, .interval "fronius.poll_interval" d.pollInterval])
  ++ s.battery.toList.flatMap (fun d =>
    [.address "senec.host" d.host, .interval "senec.poll_interval" d.pollInterval])
  ++ s.stove.toList.flatMap (fun d =>
    [.address "hafnertec.host" d.host, .interval "hafnertec.poll_interval" d.pollInterval,
      .present "hafnertec.user" d.user])
  ++ s.heating.toList.flatMap (fun d =>
    [.address "solvis.host" d.host, .interval "solvis.poll_interval" d.pollInterval,
      .someOf "solvis.retry.max_attempts" d.retry.maxAttempts]
    ++ d.rooms.toList.flatMap (fun r =>
      [.interval "solvis.updater.poll_interval" r.pollInterval,
        .present "solvis.updater.source" r.source]))
  ++ s.weather.toList.flatMap (fun d => [.address "weather.listen" d.listen])
  ++ nameRules [] s.names

/-- Check all rules. -/
def validate (s : CollectorSettings) : Outcome Unit := Rule.check s.rules

theorem validate_eq_ok_iff {s : CollectorSettings} :
    s.validate = .ok () ↔ ∀ r ∈ s.rules, r.kept :=
  Rule.check_eq_ok_iff

end CollectorSettings

end HomeEnergy
