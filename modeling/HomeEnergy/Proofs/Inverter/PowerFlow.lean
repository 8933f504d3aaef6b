import HomeEnergy.Device.Inverter
import HomeEnergy.Proofs.Document.Reordered
import HomeEnergy.Proofs.Fault.First

/-!
# What an answer about the flow of power comes to

An answer needs three sections, one inside the other, and the first one that is absent is its fault.
All else may be absent or of any kind: a number that is not there counts as zero, and a member that
is no map is no inverter. Inverters are listed in the order of their names, which no order of the
members can change.

## Main results

* `Inverter.readPowerFlow_eq` — the first absent section decides, and the numbers make the result.
* `Inverter.mem_outputs`, `Inverter.ascending_outputs` — the inverters, each once and in order.
* `Inverter.Agree.readPowerFlow_eq` — nothing else makes a difference.
* `Inverter.powerFlow_decided` — all of it together.
-/

namespace HomeEnergy.Inverter

open Document (Reordered)

/-! ## Places in an answer -/

/-- The number at the end of a path; zero where there is none. -/
def numberAt (answer : Document) (path : List String) : Float :=
  ((answer.at? path).bind Document.number?).getD 0.0

/-- The paths of the sections that an answer needs, from the outermost on. -/
def sections : List (List String) := [["Body"], ["Body", "Data"], ["Body", "Data", "Site"]]

/-- The fault of a section: it is absent. -/
def absence? (answer : Document) (path : List String) : Option Fault :=
  if (answer.at? path).isSome then none
  else some (.protocol device ("unexpected JSON (no " ++ ".".intercalate path ++ ")"))

/-- The path of a number of the site. -/
def sitePath (key : String) : List String := ["Body", "Data", "Site", key]

/-- The numbers that are read of the site. -/
def siteKeys : List String := ["P_Load", "P_PV", "P_Grid", "P_Akku"]

/-- The path of an inverter. -/
def inverterPath (id : String) : List String := ["Body", "Data", "Inverters", id]

/-- There is an inverter: what stands under its name is a map. -/
def Lists (answer : Document) (id : String) : Prop :=
  ∃ members, answer.at? (inverterPath id) = some (.map members)

/-- Power at the site with given numbers. The load is reported negative. -/
def powerOf (answer : Document) : Power where
  house := -numberAt answer (sitePath "P_Load")
  pv := numberAt answer (sitePath "P_PV")
  grid := numberAt answer (sitePath "P_Grid")
  battery := numberAt answer (sitePath "P_Akku")

/-- The output of an inverter with given numbers. -/
def outputOf (answer : Document) (id : String) : Output :=
  ⟨id, numberAt answer (inverterPath id ++ ["P"]), numberAt answer (inverterPath id ++ ["FREQ"])⟩

/-- What an answer comes to that has all sections. -/
def flowOf (answer : Document) : PowerFlow where
  power := powerOf answer
  sources := EnergySources.split (powerOf answer).grid (-(powerOf answer).battery)
  inverters := ((answer.at? ["Body", "Data", "Inverters"]).map outputs).getD []

theorem at?_append (d : Document) (path more : List String) :
    d.at? (path ++ more) = (d.at? path).bind (·.at? more) := by
  induction path generalizing d with
  | nil => rfl
  | cons key path ih =>
      show (d.get? key).bind (·.at? (path ++ more)) = ((d.get? key).bind (·.at? path)).bind _
      cases d.get? key with
      | none => rfl
      | some e => exact ih e

theorem at?_single (d : Document) (key : String) : d.at? [key] = d.get? key := by
  unfold Document.at?
  cases d.get? key <;> rfl

/-- A number below a section that is there. -/
theorem number_eq {answer section_ : Document} {path : List String}
    (h : answer.at? path = some section_) (key : String) :
    number section_ key = numberAt answer (path ++ [key]) := by
  unfold number numberAt
  rw [at?_append, h, Option.bind_some, at?_single]

/-- A section of a section that is there. -/
theorem at?_snoc {answer section_ : Document} {path : List String}
    (h : answer.at? path = some section_) (key : String) :
    answer.at? (path ++ [key]) = section_.get? key := by
  rw [at?_append, h, Option.bind_some, at?_single]

/-! ## The result -/

theorem absence?_of_some {answer d : Document} {path : List String}
    (h : answer.at? path = some d) : absence? answer path = none := by
  unfold absence?
  rw [h]
  rfl

theorem absence?_of_none {answer : Document} {path : List String} {name : String}
    (h : answer.at? path = none) (hname : ".".intercalate path = name) :
    absence? answer path
      = some (.protocol device ("unexpected JSON (no " ++ name ++ ")")) := by
  unfold absence?
  rw [h, hname]
  rfl

/-- The first absent section decides. -/
theorem readPowerFlow_eq (answer : Document) :
    readPowerFlow answer = Outcome.first (sections.map (absence? answer)) (flowOf answer) := by
  have hbody : answer.at? ["Body"] = answer.get? "Body" := at?_single ..
  unfold readPowerFlow dataSection sections
  simp only [List.map_cons, List.map_nil]
  cases hb : answer.get? "Body" with
  | none =>
      rw [hb] at hbody
      rw [absence?_of_none hbody (show _ = "Body" by decide)]
      rfl
  | some body =>
      rw [hb] at hbody
      have hdata : answer.at? ["Body", "Data"] = body.get? "Data" := at?_snoc hbody "Data"
      rw [absence?_of_some hbody]
      dsimp only
      cases hd : body.get? "Data" with
      | none =>
          rw [hd] at hdata
          rw [absence?_of_none hdata (show _ = "Body.Data" by decide)]
          rfl
      | some data =>
          rw [hd] at hdata
          have hsite : answer.at? ["Body", "Data", "Site"] = data.get? "Site" :=
            at?_snoc hdata "Site"
          have hinverters : answer.at? ["Body", "Data", "Inverters"] = data.get? "Inverters" :=
            at?_snoc hdata "Inverters"
          rw [absence?_of_some hdata]
          dsimp only [bind, Except.bind]
          cases hs : data.get? "Site" with
          | none =>
              rw [hs] at hsite
              rw [absence?_of_none hsite (show _ = "Body.Data.Site" by decide)]
              rfl
          | some site =>
              rw [hs] at hsite
              rw [absence?_of_some hsite]
              have hpower : powerOf answer = ⟨-number site "P_Load", number site "P_PV",
                  number site "P_Grid", number site "P_Akku"⟩ := by
                simp only [number_eq hsite]
                rfl
              unfold flowOf
              rw [hinverters, hpower]
              rfl

/-! ## The inverters -/

theorem number?_sorted (d : Document) : d.sorted.number? = d.number? := by
  cases d <;> rfl

theorem number_sorted (d : Document) (key : String) : number d.sorted key = number d key := by
  unfold number
  rw [Document.get?_sorted]
  cases d.get? key with
  | none => rfl
  | some e => simp only [Option.map_some, Option.bind_some, number?_sorted]

/-- The output that a member of the section gives, if it is a map. -/
def output? (id : String) : Document → Option Output
  | .map members => some ⟨id, number (.map members) "P", number (.map members) "FREQ"⟩
  | _ => none

theorem output?_sorted (id : String) (d : Document) : output? id d.sorted = output? id d := by
  cases d with
  | map members =>
      have hp := number_sorted (.map members) "P"
      have hf := number_sorted (.map members) "FREQ"
      unfold Document.sorted at hp hf ⊢
      show some (Output.mk ..) = some (Output.mk ..)
      rw [hp, hf]
  | _ => rfl

theorem id_of_output? {id : String} {d : Document} {o : Output} (h : output? id d = some o) :
    o.id = id := by
  cases d with
  | map members => cases h; rfl
  | _ => cases h

theorem outputs_map (members : List (String × Document)) : outputs (.map members)
    = (Document.sortedMembers [] members).filterMap fun m => output? m.1 m.2 := by
  show (Document.sortedMembers [] members).filterMap _ = _
  congr 1
  funext m
  obtain ⟨id, d⟩ := m
  cases d <;> rfl

/-- The inverters of a section are those of its members that are maps. -/
theorem mem_outputs {d : Document} {o : Output} :
    o ∈ outputs d ↔ (d.get? o.id).bind (output? o.id) = some o := by
  cases d with
  | map members =>
      have hnodup := (Document.ascending_keys members).imp ne_of_lt
      have hget : ((Document.map members).get? o.id).bind (output? o.id)
          = (Document.member? o.id (Document.sortedMembers [] members)).bind (output? o.id) := by
        have hsorted : Document.member? o.id (Document.sortedMembers [] members)
            = ((Document.map members).get? o.id).map Document.sorted :=
          Document.get?_sorted (.map members)
        rw [hsorted]
        cases (Document.map members).get? o.id with
        | none => rfl
        | some e => exact (output?_sorted o.id e).symm
      rw [outputs_map, hget, List.mem_filterMap]
      constructor
      · rintro ⟨⟨id, e⟩, hmem, ho⟩
        have hid := id_of_output? ho
        subst hid
        rw [Document.member?_of_mem hnodup hmem]
        exact ho
      · intro ho
        cases hfound : Document.member? o.id (Document.sortedMembers [] members) with
        | none => rw [hfound] at ho; cases ho
        | some e =>
            rw [hfound] at ho
            exact ⟨(o.id, e), Document.mem_of_member? hfound, ho⟩
  | list items =>
      show o ∈ [] ↔ _
      simp [Document.get?]
  | _ =>
      show o ∈ [] ↔ _
      simp [Document.get?]

/-- They are listed in strictly ascending order of their names. -/
theorem ascending_outputs (d : Document) : (outputs d).Pairwise (·.id < ·.id) := by
  cases d with
  | map members =>
      have hsorted := Document.ascending_keys members
      rw [List.pairwise_map] at hsorted
      rw [outputs_map, List.pairwise_filterMap]
      refine hsorted.imp ?_
      intro m m' hlt o ho o' ho'
      rw [id_of_output? ho, id_of_output? ho']
      exact hlt
  | _ => exact List.Pairwise.nil

/-- Outputs in ascending order are the same if the same outputs are among them. -/
theorem outputs_ext {l l' : List Output} (h : l.Pairwise (·.id < ·.id))
    (h' : l'.Pairwise (·.id < ·.id)) (hmem : ∀ o, o ∈ l ↔ o ∈ l') : l = l' := by
  have hne : ∀ {o o' : Output}, o.id < o'.id → o ≠ o' := by
    rintro o _ hlt rfl
    exact lt_irrefl _ hlt
  have hperm : l.Perm l' := (List.perm_ext_iff_of_nodup (h.imp hne) (h'.imp hne)).2 hmem
  apply hperm.eq_of_pairwise _ h h'
  intro o o' _ _ hlt hlt'
  exact absurd hlt' (lt_asymm hlt)

/-- The inverters of an answer. -/
theorem mem_inverters {answer : Document} {o : Output} :
    o ∈ (flowOf answer).inverters ↔ Lists answer o.id ∧ o = outputOf answer o.id := by
  have hpath : answer.at? (inverterPath o.id)
      = (answer.at? ["Body", "Data", "Inverters"]).bind (·.get? o.id) := by
    rw [show inverterPath o.id = ["Body", "Data", "Inverters"] ++ [o.id] from rfl, at?_append]
    simp only [at?_single]
  have hinverters : o ∈ (flowOf answer).inverters ↔
      (answer.at? (inverterPath o.id)).bind (output? o.id) = some o := by
    unfold flowOf
    dsimp only
    rw [hpath]
    cases answer.at? ["Body", "Data", "Inverters"] with
    | none => simp
    | some d => exact mem_outputs
  rw [hinverters]
  unfold Lists
  cases hfound : answer.at? (inverterPath o.id) with
  | none => simp
  | some d =>
      cases d with
      | map members =>
          have houtput : outputOf answer o.id
              = ⟨o.id, number (.map members) "P", number (.map members) "FREQ"⟩ := by
            simp only [number_eq hfound]
            rfl
          rw [houtput, Option.bind_some]
          unfold output?
          rw [Option.some_inj, eq_comm]
          simp
      | _ => simp [output?]

/-- Where the section of the inverters is no map, there are none. -/
theorem inverters_eq_nil {answer : Document}
    (h : ∀ members, answer.at? ["Body", "Data", "Inverters"] ≠ some (.map members)) :
    (flowOf answer).inverters = [] := by
  unfold flowOf
  dsimp only
  cases hfound : answer.at? ["Body", "Data", "Inverters"] with
  | none => rfl
  | some d =>
      cases d with
      | map members => exact absurd hfound (h members)
      | _ => rfl

/-! ## What makes a difference -/

/-- Two answers with the same sections, the same numbers of the site, and the same inverters with
the same numbers. -/
structure Agree (answer answer' : Document) : Prop where
  present : ∀ path ∈ sections, (answer.at? path).isSome = (answer'.at? path).isSome
  site : ∀ key ∈ siteKeys, numberAt answer (sitePath key) = numberAt answer' (sitePath key)
  listed : ∀ id, Lists answer id ↔ Lists answer' id
  numbers : ∀ id, Lists answer id → outputOf answer id = outputOf answer' id

variable {answer answer' : Document}

theorem Agree.power_eq (h : Agree answer answer') : powerOf answer = powerOf answer' := by
  unfold powerOf
  rw [h.site "P_Load" (by decide), h.site "P_PV" (by decide), h.site "P_Grid" (by decide),
    h.site "P_Akku" (by decide)]

theorem ascending_inverters (answer : Document) :
    (flowOf answer).inverters.Pairwise (·.id < ·.id) := by
  unfold flowOf
  dsimp only
  cases answer.at? ["Body", "Data", "Inverters"] with
  | none => exact List.Pairwise.nil
  | some d => exact ascending_outputs d

theorem Agree.flow_eq (h : Agree answer answer') : flowOf answer = flowOf answer' := by
  have hinverters : (flowOf answer).inverters = (flowOf answer').inverters := by
    apply outputs_ext (ascending_inverters answer) (ascending_inverters answer')
    intro o
    rw [mem_inverters, mem_inverters, h.listed]
    refine and_congr_right fun hlists => ?_
    rw [h.numbers o.id ((h.listed o.id).2 hlists)]
  have hflow (d : Document) : flowOf d = ⟨powerOf d,
      EnergySources.split (powerOf d).grid (-(powerOf d).battery), (flowOf d).inverters⟩ := rfl
  rw [hflow answer, hflow answer', hinverters, h.power_eq]

/-- Nothing else makes a difference. -/
theorem Agree.readPowerFlow_eq (h : Agree answer answer') :
    readPowerFlow answer = readPowerFlow answer' := by
  have habsence : sections.map (absence? answer) = sections.map (absence? answer') := by
    refine List.map_congr_left fun path hpath => ?_
    unfold absence?
    rw [h.present path hpath]
  rw [Inverter.readPowerFlow_eq, Inverter.readPowerFlow_eq, habsence, h.flow_eq]

theorem numberAt_reordered (h : Reordered answer answer') (path : List String) :
    numberAt answer path = numberAt answer' path := by
  have hfound := h.at? path
  unfold numberAt
  revert hfound
  generalize answer.at? path = found, answer'.at? path = found'
  intro hfound
  cases hfound with
  | none => rfl
  | some hd => rw [Option.bind_some, Option.bind_some, hd.number?_eq]

theorem lists_reordered (h : Reordered answer answer') {id : String} (hid : Lists answer id) :
    Lists answer' id := by
  obtain ⟨members, hmembers⟩ := hid
  have hfound := h.at? (inverterPath id)
  rw [hmembers] at hfound
  unfold Lists
  revert hfound
  generalize answer'.at? (inverterPath id) = found'
  intro hfound
  cases hfound with
  | some hd =>
      cases hd with
      | same => exact ⟨members, rfl⟩
      | map => exact ⟨_, rfl⟩

/-- The order of members makes no difference. -/
theorem agree_of_reordered (h : Reordered answer answer') : Agree answer answer' where
  present path _ := by
    have hfound := h.at? path
    revert hfound
    generalize answer.at? path = found, answer'.at? path = found'
    intro hfound
    cases hfound <;> rfl
  site key _ := numberAt_reordered h _
  listed id := ⟨lists_reordered h, lists_reordered h.symm⟩
  numbers id _ := by
    unfold outputOf
    rw [numberAt_reordered h, numberAt_reordered h]

/-! ## What an answer comes to -/

theorem absence?_eq_some {path : List String} {f : Fault} : absence? answer path = some f ↔
    answer.at? path = none ∧
      f = .protocol device ("unexpected JSON (no " ++ ".".intercalate path ++ ")") := by
  unfold absence?
  cases answer.at? path <;> simp [eq_comm]

theorem absence?_eq_none {path : List String} :
    absence? answer path = none ↔ (answer.at? path).isSome = true := by
  unfold absence?
  cases answer.at? path <;> simp

/-- A fault is that of the first absent section. -/
theorem readPowerFlow_error_iff (answer : Document) (f : Fault) : readPowerFlow answer = .error f ↔
    ∃ before path after, sections = before ++ path :: after ∧ (answer.at? path = none ∧
      f = .protocol device ("unexpected JSON (no " ++ ".".intercalate path ++ ")")) ∧
        ∀ p ∈ before, (answer.at? p).isSome = true := by
  rw [readPowerFlow_eq, Outcome.first_eq_error]
  simp only [absence?_eq_some, absence?_eq_none]

/-- There is no result exactly if a section is absent. -/
theorem readPowerFlow_fails_iff (answer : Document) : (∃ f, readPowerFlow answer = .error f) ↔
    answer.at? ["Body"] = none ∨ answer.at? ["Body", "Data"] = none ∨
      answer.at? ["Body", "Data", "Site"] = none := by
  have hfails : (∃ f, readPowerFlow answer = .error f) ↔
      ¬ ∀ path ∈ sections, absence? answer path = none := by
    have hok : Outcome.first (sections.map (absence? answer)) (flowOf answer)
          = .ok (flowOf answer) ↔
        (∀ path ∈ sections, absence? answer path = none) ∧ flowOf answer = flowOf answer := by
      rw [Outcome.first_eq_ok, List.forall_mem_map]
    rw [readPowerFlow_eq]
    cases hfirst : Outcome.first (sections.map (absence? answer)) (flowOf answer) with
    | error f =>
        rw [hfirst] at hok
        simpa using hok
    | ok flow =>
        have hall := (Outcome.first_eq_ok.1 hfirst).1
        rw [List.forall_mem_map] at hall
        simpa using hall
  rw [hfails]
  simp only [sections, List.forall_mem_cons, absence?_eq_none, Option.isSome_iff_ne_none,
    not_and_or, not_not]
  simp

theorem eq_flowOf {flow : PowerFlow} (h : readPowerFlow answer = .ok flow) :
    flow = flowOf answer := by
  rw [readPowerFlow_eq, Outcome.first_eq_ok] at h
  exact h.2.symm

/-- What an answer about the flow of power comes to. -/
theorem powerFlow_decided :
    (∀ answer, (∃ f, readPowerFlow answer = .error f) ↔
      answer.at? ["Body"] = none ∨ answer.at? ["Body", "Data"] = none ∨
        answer.at? ["Body", "Data", "Site"] = none) ∧
    (∀ answer f, readPowerFlow answer = .error f ↔
      ∃ before path after, sections = before ++ path :: after ∧ (answer.at? path = none ∧
        f = .protocol device ("unexpected JSON (no " ++ ".".intercalate path ++ ")")) ∧
          ∀ p ∈ before, (answer.at? p).isSome = true) ∧
    (∀ answer flow, readPowerFlow answer = .ok flow →
      flow.inverters.Pairwise (·.id < ·.id) ∧
      (∀ o, o ∈ flow.inverters ↔ Lists answer o.id ∧ o = outputOf answer o.id) ∧
      ((∀ members, answer.at? ["Body", "Data", "Inverters"] ≠ some (.map members)) →
        flow.inverters = []) ∧
      flow.power = powerOf answer ∧
      flow.sources = EnergySources.split flow.power.grid (-flow.power.battery)) ∧
    (∀ answer answer', Agree answer answer' → readPowerFlow answer = readPowerFlow answer') ∧
    (∀ answer answer', Reordered answer answer' →
      readPowerFlow answer = readPowerFlow answer') := by
  refine ⟨readPowerFlow_fails_iff, readPowerFlow_error_iff, ?_, fun _ _ h => h.readPowerFlow_eq,
    fun _ _ h => (agree_of_reordered h).readPowerFlow_eq⟩
  intro answer flow h
  obtain rfl := eq_flowOf h
  exact ⟨ascending_inverters answer, fun _ => mem_inverters, inverters_eq_nil, rfl, rfl⟩

/-- Three inverters, listed out of order, and a member that is none. -/
def threeInverters : Document :=
  .map [("Body", .map [("Data", .map [
    ("Site", .map [("P_Load", .float (-500.0)), ("P_PV", .float 5300.0), ("P_Akku", .null)]),
    ("Inverters", .map [("2", .map [("DT", .int 1), ("P", .float 1800.0)]),
      ("1", .map [("P", .float 3500.0), ("FREQ", .float 50.02)]),
      ("3", .map [("P", .null)]), ("bogus", .int 7)])])])]

/-- The same with the sections in the other order. -/
def turnedInverters : Document :=
  .map [("Body", .map [("Data", .map [
    ("Inverters", .map [("2", .map [("DT", .int 1), ("P", .float 1800.0)]),
      ("1", .map [("P", .float 3500.0), ("FREQ", .float 50.02)]),
      ("3", .map [("P", .null)]), ("bogus", .int 7)]),
    ("Site", .map [("P_Load", .float (-500.0)), ("P_PV", .float 5300.0), ("P_Akku", .null)])])])]

/-- The same with members that nobody reads. -/
def strayInverters : Document :=
  .map [("Head", .text "Status"), ("Body", .map [("Data", .map [
    ("Version", .text "12"),
    ("Site", .map [("Mode", .text "bidirectional"), ("P_Load", .float (-500.0)),
      ("P_PV", .float 5300.0)]),
    ("Inverters", .map [("2", .map [("DT", .int 1), ("P", .float 1800.0)]),
      ("1", .map [("P", .float 3500.0), ("FREQ", .float 50.02)]),
      ("3", .map [("P", .null)]), ("bogus", .int 7)])])])]

theorem reordered_three : Reordered threeInverters turnedInverters := by
  refine .map (by decide) (.refl _) ?_
  intro key d d' hd hd'
  simp only [List.mem_singleton, Prod.mk.injEq] at hd hd'
  rw [hd.2, hd'.2]
  refine .map (by decide) (.refl _) ?_
  intro key d d' hd hd'
  simp only [List.mem_singleton, Prod.mk.injEq] at hd hd'
  rw [hd.2, hd'.2]
  refine .map (by decide) (List.Perm.swap _ _ _) ?_
  intro key d d' hd hd'
  simp only [List.mem_cons, List.not_mem_nil, or_false, Prod.mk.injEq] at hd hd'
  rcases hd with ⟨rfl, rfl⟩ | ⟨rfl, rfl⟩ <;> rcases hd' with ⟨hkey, rfl⟩ | ⟨hkey, rfl⟩
  · exact absurd hkey (by decide)
  · exact .same _
  · exact .same _
  · exact absurd hkey (by decide)

theorem agree_stray : Agree threeInverters strayInverters where
  present := by decide
  site key hkey := by
    simp only [siteKeys, List.mem_cons, List.not_mem_nil, or_false] at hkey
    rcases hkey with rfl | rfl | rfl | rfl <;> rfl
  listed _ := .rfl
  numbers _ _ := rfl

theorem powerFlow_decided_three :
    (∃ flow, readPowerFlow threeInverters = .ok flow ∧
      flow.inverters.Pairwise (·.id < ·.id) ∧
      (⟨"1", 3500.0, 50.02⟩ ∈ flow.inverters ∧ ⟨"2", 1800.0, 0.0⟩ ∈ flow.inverters ∧
        ⟨"3", 0.0, 0.0⟩ ∈ flow.inverters) ∧
      flow.power = ⟨-(-500.0), 5300.0, 0.0, 0.0⟩) ∧
      readPowerFlow threeInverters = readPowerFlow turnedInverters ∧
      readPowerFlow threeInverters = readPowerFlow strayInverters ∧
      ∃ f, readPowerFlow (.map [("Body", .map [("Data", .list [])])]) = .error f := by
  obtain ⟨hfails, -, hresult, hagree, hreordered⟩ := powerFlow_decided
  obtain ⟨flow, hflow⟩ : ∃ flow, readPowerFlow threeInverters = .ok flow := by
    cases hread : readPowerFlow threeInverters with
    | ok flow => exact ⟨flow, rfl⟩
    | error f =>
        have habsent := (hfails threeInverters).1 ⟨f, hread⟩
        simp only [← Option.isNone_iff_eq_none] at habsent
        exact absurd habsent (by decide)
  obtain ⟨hascending, hmem, -, hpower, -⟩ := hresult threeInverters flow hflow
  refine ⟨⟨flow, hflow, hascending, ⟨?_, ?_, ?_⟩, hpower⟩, hreordered _ _ reordered_three,
    hagree _ _ agree_stray, (hfails _).2 (.inr (.inr rfl))⟩
  · exact (hmem _).2 ⟨⟨_, rfl⟩, rfl⟩
  · exact (hmem _).2 ⟨⟨_, rfl⟩, rfl⟩
  · exact (hmem _).2 ⟨⟨_, rfl⟩, rfl⟩

end HomeEnergy.Inverter
