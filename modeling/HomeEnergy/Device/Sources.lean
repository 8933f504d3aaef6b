import HomeEnergy.Document.Fields

/-!
# Where the energy flows

Two signed powers, that of the grid and that of the battery, are split into four that are never
negative: what goes to and comes from the grid, and what goes to and comes from the battery.
-/

namespace HomeEnergy

/-- The four directions of energy, in watts. -/
structure EnergySources where
  feedIn : Float
  gridImport : Float
  charging : Float
  discharging : Float
deriving Inhabited

namespace EnergySources

/-- Split the power of the grid, positive while importing, and that of the battery, positive while
charging. An undefined power counts as not negative. -/
def split (grid battery : Float) : EnergySources :=
  let (feedIn, gridImport) := if grid < 0.0 then (-grid, 0.0) else (0.0, grid)
  let (charging, discharging) := if battery < 0.0 then (0.0, -battery) else (battery, 0.0)
  { feedIn, gridImport, charging, discharging }

/-- The document of a split. -/
def toDocument (s : EnergySources) : Document :=
  .map [("feed_in", .float s.feedIn), ("grid_import", .float s.gridImport),
    ("charging", .float s.charging), ("discharging", .float s.discharging)]

/-- The split that a document gives. -/
def ofDocument (d : Document) : Option EnergySources := do
  let [feedIn, gridImport, charging, discharging] ←
    d.fields? .refused ["feed_in", "grid_import", "charging", "discharging"] | none
  return {
    feedIn := ← Document.required Document.number? feedIn
    gridImport := ← Document.required Document.number? gridImport
    charging := ← Document.required Document.number? charging
    discharging := ← Document.required Document.number? discharging }

end EnergySources

end HomeEnergy
