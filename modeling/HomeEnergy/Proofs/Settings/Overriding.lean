import HomeEnergy.Proofs.Document.Normal
import HomeEnergy.Proofs.Settings.Verbatim
import HomeEnergy.Proofs.Weather.Entry
import HomeEnergy.Settings.Loading

/-!
# The password of the database from the environment

The password of the database is not to stand in the file of settings; a variable of the environment
can give it. Its value goes through the notation for values before it reaches the field, and the
field takes texts only. This module says for every file and every value what is loaded.

The variable counts as a map with one member. A section that the file writes as a map is joined with
it; a section that the file writes as a list, which is as good without the variable, gives way to it
as a whole.

## Main results

* `CollectorSettings.ofDocument_section`, `DatabaseSettings.ofDocument_password` — one section, and
  one field, put in place of another.
* `CollectorSettings.load_password_decided` — what is loaded.
* `CollectorSettings.password_lost` — passwords that do not come through.
-/

namespace HomeEnergy

namespace Document

variable {members : List (String × Document)} {key : String} {d : Document}

/-- Where no key stands twice, a field is the member under its name. -/
theorem field?_of_nodup (h : (members.map (·.1)).Nodup) (name : String) :
    field? members name = some (member? name members) := by
  cases hfound : member? name members with
  | some d => exact field?_of_mem h (mem_of_member? hfound)
  | none =>
      have habsent : name ∉ members.map (·.1) := by
        rw [← member?_isSome, hfound]
        simp
      have hfilter : members.filter (·.1 == name) = [] := by
        rw [List.filter_eq_nil_iff]
        intro m hm heq
        obtain rfl := beq_iff_eq.1 heq
        exact habsent (List.mem_map_of_mem hm)
      unfold field?
      rw [hfilter]

theorem fields?_of_nodup (h : (members.map (·.1)).Nodup) (surplus : Surplus)
    (names : List String) :
    (map members).fields? surplus names = some (names.map (member? · members)) := by
  show names.mapM (field? members) = _
  induction names with
  | nil => rfl
  | cons name rest ih =>
      rw [List.mapM_cons, field?_of_nodup h, ih]
      rfl

theorem ascending_insertMember (h : (members.map (·.1)).Pairwise (· < ·)) :
    ((insertMember key d members).map (·.1)).Pairwise (· < ·) := by
  rw [insertMember_eq]
  exact Catalog.ascending_insertEntry h

theorem nodup_of_ascending (h : (members.map (·.1)).Pairwise (· < ·)) :
    (members.map (·.1)).Nodup :=
  h.imp ne_of_lt

end Document

open Document

variable {members : List (String × Document)} {surplus : Surplus}

theorem DatabaseSettings.ofDocument_map (h : (members.map (·.1)).Nodup) :
    DatabaseSettings.ofDocument surplus (.map members) = (do
      let host ← required text? (member? "host" members)
      let port ← optional 5432 (natural? 16) (member? "port" members)
      let database ← required text? (member? "database" members)
      let user ← required text? (member? "user" members)
      let password ← optional "" text? (member? "password" members)
      let most ← optional 5 (natural? 32) (member? "max_connections" members)
      return ⟨host, port, database, user, password, most⟩) := by
  unfold DatabaseSettings.ofDocument
  rw [fields?_of_nodup h]
  rfl

/-- A password that is put in place of the one of a section. -/
theorem DatabaseSettings.ofDocument_password {db : DatabaseSettings} {w : Document}
    (hascending : (members.map (·.1)).Pairwise (· < ·))
    (h : DatabaseSettings.ofDocument surplus (.map members) = some db) :
    DatabaseSettings.ofDocument surplus (.map (insertMember "password" w members)) =
      w.text?.map fun p => { db with password := p } := by
  rw [ofDocument_map (nodup_of_ascending hascending)] at h
  simp only [Option.bind_eq_bind, Option.bind_eq_some_iff, Option.pure_def, Option.some.injEq] at h
  obtain ⟨host, hhost, port, hport, database, hdatabase, user, huser, -, -, most, hmost, rfl⟩ := h
  have hpassword : optional "" text? (some w) = w.text? := rfl
  rw [ofDocument_map (nodup_of_ascending (ascending_insertMember hascending))]
  simp only [member?_insertMember hascending, String.reduceEq, if_true, if_false, hhost, hport,
    hdatabase, huser, hmost, hpassword]
  cases w.text? <;> rfl

namespace CollectorSettings

theorem ofDocument_map (h : (members.map (·.1)).Nodup) :
    ofDocument (.map members) = (do
      let service ← optional {} (ServiceSettings.ofDocument .ignored) (member? "service" members)
      let database ←
        nullable (DatabaseSettings.ofDocument .ignored) (member? "timescaledb" members)
      let inverter ← nullable (InverterSettings.ofDocument .ignored) (member? "fronius" members)
      let battery ← nullable (BatterySettings.ofDocument .ignored) (member? "senec" members)
      let stove ← nullable (StoveSettings.ofDocument .ignored) (member? "hafnertec" members)
      let heating ← nullable (HeatingSettings.ofDocument .ignored) (member? "solvis" members)
      let weather ← nullable (WeatherSettings.ofDocument .ignored) (member? "weather" members)
      return ⟨service, database, inverter, battery, stove, heating, weather⟩) := by
  unfold ofDocument
  rw [fields?_of_nodup h]
  rfl

/-- The section of the database in settings that are read. -/
theorem section_of_ofDocument {s : CollectorSettings} (h : (members.map (·.1)).Nodup)
    (hs : ofDocument (.map members) = some s) :
    nullable (DatabaseSettings.ofDocument .ignored) (member? "timescaledb" members) =
      some s.database := by
  rw [ofDocument_map h] at hs
  simp only [Option.bind_eq_bind, Option.bind_eq_some_iff, Option.pure_def, Option.some.injEq] at hs
  obtain ⟨service, -, database, hdatabase, inverter, -, battery, -, stove, -, heating, -, weather,
    -, rfl⟩ := hs
  exact hdatabase

/-- A section of the database that is put in place of another one. -/
theorem ofDocument_section {s : CollectorSettings} {fields : List (String × Document)}
    (hascending : (members.map (·.1)).Pairwise (· < ·))
    (hs : ofDocument (.map members) = some s) :
    ofDocument (.map (insertMember "timescaledb" (.map fields) members)) =
      (DatabaseSettings.ofDocument .ignored (.map fields)).map fun db =>
        { s with database := some db } := by
  rw [ofDocument_map (nodup_of_ascending hascending)] at hs
  simp only [Option.bind_eq_bind, Option.bind_eq_some_iff, Option.pure_def, Option.some.injEq] at hs
  obtain ⟨service, hservice, database, -, inverter, hinverter, battery, hbattery, stove, hstove,
    heating, hheating, weather, hweather, rfl⟩ := hs
  have hsection : nullable (DatabaseSettings.ofDocument .ignored) (some (.map fields)) =
      (DatabaseSettings.ofDocument .ignored (.map fields)).map some := rfl
  rw [ofDocument_map (nodup_of_ascending (ascending_insertMember hascending))]
  simp only [member?_insertMember hascending, String.reduceEq, if_true, if_false, hservice,
    hinverter, hbattery, hstove, hheating, hweather, hsection]
  cases DatabaseSettings.ofDocument .ignored (.map fields) <;> rfl

/-! ## The document of the variable -/

/-- The variable that gives the password of the database. -/
def passwordVariable : String := "HOMEWATT_TIMESCALEDB__PASSWORD"

theorem path_passwordVariable :
    Override.path? overridePrefix passwordVariable = some ["timescaledb", "password"] := by
  decide

variable {before after others : List (String × String)} {v path text : String}

/-- What is gathered does not change where no item changes it. -/
private theorem foldl_unmoved {α β : Type} {f : β → α → β} (items : List α)
    (h : ∀ x ∈ items, ∀ b, f b x = b) (b : β) : items.foldl f b = b := by
  induction items generalizing b with
  | nil => rfl
  | cons x rest ih =>
      rw [List.foldl_cons, h x List.mem_cons_self]
      exact ih (fun y hy => h y (List.mem_cons_of_mem x hy)) b

/-- Variables that override nothing. -/
theorem documentOf_others (h : ∀ x ∈ others, Override.path? overridePrefix x.1 = none) :
    Override.documentOf overridePrefix others = .map [] := by
  apply foldl_unmoved
  intro x hx d
  simp only [h x hx]

theorem documentOf_password
    (h : ∀ x ∈ before ++ after, Override.path? overridePrefix x.1 = none) :
    Override.documentOf overridePrefix (before ++ (passwordVariable, v) :: after) =
      .map [("timescaledb", .map [("password", (Override.value v).sorted)])] := by
  rw [List.forall_mem_append] at h
  unfold Override.documentOf
  rw [List.foldl_append, foldl_unmoved before, List.foldl_cons,
    foldl_unmoved after]
  · simp only [path_passwordVariable]
    rfl
  · intro x hx d
    simp only [h.2 x hx]
  · intro x hx d
    simp only [h.1 x hx]

/-! ## The variable put over a document -/

/-- A document with the password put over that of its section. -/
theorem overlaid_password {fields : List (String × Document)} (w : Document)
    (h : member? "timescaledb" members = some (.map fields)) :
    (Document.map members).overlaid (.map [("timescaledb", .map [("password", w)])]) =
      .map (insertMember "timescaledb" (.map (insertMember "password"
        (match member? "password" fields with
          | some e => e.overlaid w
          | none => w) fields)) members) := by
  rw [overlaid, overlaidMembers, overlaidMembers, h]
  rfl

/-- A section that is not a map is lost. -/
theorem overlaid_password_of_not_map (w : Document)
    (h : ∀ fields, member? "timescaledb" members ≠ some (.map fields)) :
    (Document.map members).overlaid (.map [("timescaledb", .map [("password", w)])]) =
      .map (insertMember "timescaledb" (.map [("password", w)]) members) := by
  simp only [overlaid, overlaidMembers]
  cases hsection : member? "timescaledb" members with
  | none => rfl
  | some e =>
      cases e with
      | map fields => exact absurd hsection (h fields)
      | _ => rfl

theorem text?_overlaid (d w : Document) : (d.overlaid w).text? = w.text? := by
  cases w with
  | map members => cases d <;> rfl
  | _ => rfl

theorem text?_sorted (d : Document) : d.sorted.text? = d.text? := by
  cases d <;> rfl

/-! ## Loading -/

/-- The document that the text writes. -/
theorem exists_of_readMap {d : Document} (h : Yaml.readMap text = some d) :
    ∃ written, d = .map (sortedMembers [] written) := by
  obtain ⟨written, -, rfl⟩ := Option.map_eq_some_iff.1 h
  exact ⟨written, by rw [sorted]⟩

/-- The text writes the section of the database as a map, with the names of the fields. -/
def NamesFields (text : String) : Prop :=
  ∃ d fields, Yaml.readMap text = some d ∧ d.get? "timescaledb" = some (.map fields)

instance (text : String) : Decidable (NamesFields text) :=
  match hread : Yaml.readMap text with
  | none => isFalse fun ⟨_, _, hd, _⟩ => by simp [hread] at hd
  | some d =>
    match hsection : d.get? "timescaledb" with
    | some (.map fields) => isTrue ⟨d, fields, hread, hsection⟩
    | none | some .null | some (.bool _) | some (.int _) | some (.float _) | some (.text _)
    | some (.list _) => isFalse fun ⟨d', fields, hd, hfields⟩ => by
      obtain rfl := Option.some.inj (hread.symm.trans hd)
      simp [hsection] at hfields

theorem load_eq (path text : String) (environment : List (String × String)) :
    load path (some text) environment =
      ofMap "Failed to load configuration" ((Yaml.readMap text).map
        (overlaid · (Override.documentOf overridePrefix environment))) := rfl

/-- Settings that are loaded without overrides are those that the text writes. -/
theorem exists_of_load {s : CollectorSettings}
    (hothers : ∀ x ∈ others, Override.path? overridePrefix x.1 = none)
    (h : load path (some text) others = .ok s) :
    ∃ written, Yaml.readMap text = some (.map (sortedMembers [] written)) ∧
      ofDocument (.map (sortedMembers [] written)) = some s := by
  rw [load_eq, documentOf_others hothers] at h
  cases hread : Yaml.readMap text with
  | none =>
      rw [hread] at h
      cases h
  | some d =>
      obtain ⟨written, rfl⟩ := exists_of_readMap hread
      refine ⟨written, rfl, ?_⟩
      rw [hread, Option.map_some, overlaid, overlaidMembers] at h
      unfold ofMap at h
      split at h
      · cases h
      · next d' hd' =>
        obtain rfl := Option.some.inj hd'
        split at h
        · cases h
        · next s' hs' =>
          obtain rfl := Except.ok.inj h
          exact hs'

/-- What is answered when the settings of a document cannot be read. -/
def malformed : Fault := .configuration "Failed to load configuration: malformed settings"

/-- A document is loaded if its settings can be read. -/
theorem ofMap_some (d : Document) : ofMap "Failed to load configuration" (some d) =
    match ofDocument d with
    | some s => .ok s
    | none => .error malformed := by
  have hmalformed : malformed =
      .configuration ("Failed to load configuration" ++ ": malformed settings") := by
    rw [malformed]
    decide
  rw [hmalformed]
  unfold ofMap
  dsimp only
  cases ofDocument d <;> rfl

section Loaded

variable {s : CollectorSettings} {db : DatabaseSettings}

/-- Where the section is a map, its password becomes what the value of the variable is read as. -/
theorem load_of_namesFields
    (hothers : ∀ x ∈ before ++ after, Override.path? overridePrefix x.1 = none)
    (hload : load path (some text) (before ++ after) = .ok s) (hsection : s.database = some db)
    (hfields : NamesFields text) :
    load path (some text) (before ++ (passwordVariable, v) :: after) =
      match (Override.value v).text? with
      | some p => .ok { s with database := some { db with password := p } }
      | none => .error malformed := by
  obtain ⟨written, hread, hs⟩ := exists_of_load hothers hload
  obtain ⟨d, fields, hread', hmap⟩ := hfields
  obtain rfl := Option.some.inj (hread.symm.trans hread')
  have hascending := ascending_keys written
  -- The section is in normal form as well.
  have hmember : member? "timescaledb" (sortedMembers [] written) = some (.map fields) := hmap
  have hfields : (fields.map (·.1)).Pairwise (· < ·) := by
    rw [member?_sortedMembers List.Pairwise.nil, member?_nil, Option.or_none,
      Option.map_eq_some_iff] at hmember
    obtain ⟨e, -, he⟩ := hmember
    cases e with
    | map given =>
        rw [sorted] at he
        obtain rfl := Document.map.inj he
        exact ascending_keys given
    | _ => cases he
  have hdb : DatabaseSettings.ofDocument .ignored (.map fields) = some db := by
    have hnullable := section_of_ofDocument (nodup_of_ascending hascending) hs
    rw [hmember, hsection] at hnullable
    obtain ⟨db', hdb', heq⟩ := Option.map_eq_some_iff.1 hnullable
    rw [hdb', Option.some.inj heq]
  have hvalue : (match member? "password" fields with
      | some e => e.overlaid (Override.value v).sorted
      | none => (Override.value v).sorted).text? = (Override.value v).text? := by
    cases member? "password" fields with
    | none => exact text?_sorted _
    | some e => exact (text?_overlaid _ _).trans (text?_sorted _)
  rw [load_eq, documentOf_password hothers, hread, Option.map_some, overlaid_password _ hmember,
    ofMap_some, ofDocument_section hascending hs, DatabaseSettings.ofDocument_password hfields hdb,
    hvalue]
  cases (Override.value v).text? <;> rfl

/-- Where the section is a list, the variable takes its place, and a host is missing. -/
theorem load_of_not_namesFields
    (hothers : ∀ x ∈ before ++ after, Override.path? overridePrefix x.1 = none)
    (hload : load path (some text) (before ++ after) = .ok s) (hfields : ¬ NamesFields text) :
    load path (some text) (before ++ (passwordVariable, v) :: after) = .error malformed := by
  obtain ⟨written, hread, hs⟩ := exists_of_load hothers hload
  have hascending := ascending_keys written
  have hmember : ∀ fields, member? "timescaledb" (sortedMembers [] written) ≠ some (.map fields) :=
    fun fields h => hfields ⟨_, fields, hread, h⟩
  have hhost : DatabaseSettings.ofDocument .ignored
      (.map [("password", (Override.value v).sorted)]) = none := by
    rw [DatabaseSettings.ofDocument_map (by simp)]
    rfl
  rw [load_eq, documentOf_password hothers, hread, Option.map_some,
    overlaid_password_of_not_map _ hmember, ofMap_some, ofDocument_section hascending hs, hhost]
  rfl

/-- What loading with a password from the environment does to settings with a section for the
database, which no other variable overrides: the section must be a map, and the value of the
variable must be read as a text; then that text is the password, and nothing else changes. Otherwise
the settings are refused. So the password is the value itself exactly if the section is a map and
the value is a word or one that the notation for values cannot make sense of. -/
theorem load_password_decided
    (hothers : ∀ x ∈ before ++ after, Override.path? overridePrefix x.1 = none)
    (hload : load path (some text) (before ++ after) = .ok s) (hsection : s.database = some db)
    (v : String) :
    (∀ p, NamesFields text → Override.value v = .text p →
      load path (some text) (before ++ (passwordVariable, v) :: after) =
        .ok { s with database := some { db with password := p } }) ∧
    ((¬ NamesFields text ∨ ∀ p, Override.value v ≠ .text p) →
      load path (some text) (before ++ (passwordVariable, v) :: after) = .error malformed) ∧
    (load path (some text) (before ++ (passwordVariable, v) :: after) =
        .ok { s with database := some { db with password := v } } ↔
      NamesFields text ∧ (¬ Override.Legible v ∨ Override.Word v)) := by
  have htaken : ∀ p, NamesFields text → Override.value v = .text p →
      load path (some text) (before ++ (passwordVariable, v) :: after) =
        .ok { s with database := some { db with password := p } } := by
    intro p hfields hp
    rw [load_of_namesFields hothers hload hsection hfields, hp]
    rfl
  have hrefused : (¬ NamesFields text ∨ ∀ p, Override.value v ≠ .text p) →
      load path (some text) (before ++ (passwordVariable, v) :: after) = .error malformed := by
    intro h
    by_cases hfields : NamesFields text
    · have hnone : (Override.value v).text? = none := by
        cases hv : Override.value v with
        | text p => exact absurd hv (h.resolve_left (not_not.2 hfields) p)
        | _ => rfl
      rw [load_of_namesFields hothers hload hsection hfields, hnone]
    · exact load_of_not_namesFields hothers hload hfields
  refine ⟨htaken, hrefused, ?_⟩
  rw [← Override.value_eq_text_iff]
  constructor
  · intro h
    by_cases hfault : ¬ NamesFields text ∨ ∀ p, Override.value v ≠ .text p
    · rw [hrefused hfault] at h
      cases h
    · obtain ⟨hfields, hp⟩ := not_or.1 hfault
      obtain ⟨p, hp⟩ := not_forall.1 hp
      have hvalue : Override.value v = .text p := not_not.1 hp
      rw [htaken p (not_not.1 hfields) hvalue] at h
      have hpassword : p = v := by
        have hdatabase := congrArg CollectorSettings.database (Except.ok.inj h)
        exact congrArg DatabaseSettings.password (Option.some.inj hdatabase)
      rw [hpassword] at hvalue
      exact ⟨not_not.1 hfields, hvalue⟩
  · rintro ⟨hfields, hv⟩
    exact htaken v hfields hv

end Loaded

/-! ## A database whose password is given by the environment -/

/-- Settings with a section for the database, as a map. -/
def mapText : String := "timescaledb:\n  host: db\n  database: homewatt\n  user: collector\n"

/-- The same settings, with the section as a list. -/
def listText : String := "timescaledb: [db, 5432, homewatt, collector]\n"

/-- What both texts write. -/
def textSettings : CollectorSettings :=
  { database := some { host := "db", database := "homewatt", user := "collector" } }

/-- The settings with another password. -/
def textSettingsWith (password : String) : CollectorSettings :=
  { database := some { host := "db", database := "homewatt", user := "collector", password } }

theorem eq_ok_of_toOption {α : Type} {x : Outcome α} {a : α} (h : x.toOption = some a) :
    x = .ok a := by
  cases x with
  | ok b => exact congrArg Except.ok (Option.some.inj h)
  | error f => cases h

theorem ne_ok_of_toOption {α : Type} {x : Outcome α} (h : x.toOption = none) (a : α) :
    x ≠ .ok a := by
  rintro rfl
  cases h

theorem load_mapText : load "homewatt.yaml" (some mapText) [] = .ok textSettings :=
  eq_ok_of_toOption (by decide +kernel)

/-- A word becomes the password, and digits keep the service from starting. -/
theorem load_password_secret :
    load "homewatt.yaml" (some mapText) ([] ++ [(passwordVariable, "secret")]) =
      .ok (textSettingsWith "secret") ∧
    load "homewatt.yaml" (some mapText) ([] ++ [(passwordVariable, "12345")]) =
      .error malformed := by
  have hfields : NamesFields mapText := by decide +kernel
  have hothers : ∀ x ∈ ([] ++ [] : List (String × String)),
      Override.path? overridePrefix x.1 = none := by simp
  have hdigits : ∀ p, Override.value "12345" ≠ .text p := by
    have hint : Override.value "12345" = .int 12345 := by rfl
    simp [hint]
  refine ⟨?_, ?_⟩
  · exact (load_password_decided hothers load_mapText rfl "secret").1 "secret" hfields rfl
  · exact (load_password_decided hothers load_mapText rfl "12345").2.1 (Or.inr hdigits)

/-- Passwords that are lost: digits are refused, quotes and blanks are taken off, and a word is
refused where the section is a list. -/
theorem password_lost :
    load "homewatt.yaml" (some mapText) [] = .ok textSettings ∧
    (∀ s, load "homewatt.yaml" (some mapText) [(passwordVariable, "12345")] ≠ .ok s) ∧
    load "homewatt.yaml" (some mapText) [(passwordVariable, "\"quoted\"")] =
      .ok (textSettingsWith "quoted") ∧
    load "homewatt.yaml" (some mapText) [(passwordVariable, " padded ")] =
      .ok (textSettingsWith "padded") ∧
    load "homewatt.yaml" (some listText) [] = .ok textSettings ∧
    (∀ s, load "homewatt.yaml" (some listText) [(passwordVariable, "secret")] ≠ .ok s) :=
  ⟨load_mapText, ne_ok_of_toOption (by decide +kernel), eq_ok_of_toOption (by decide +kernel),
    eq_ok_of_toOption (by decide +kernel), eq_ok_of_toOption (by decide +kernel),
    ne_ok_of_toOption (by decide +kernel)⟩

end CollectorSettings

end HomeEnergy
