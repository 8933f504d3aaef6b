import HomeEnergy.Proofs.Decimal.Digits
import HomeEnergy.Proofs.Settings.Sensible

/-!
# What the address of the database tells

The address puts a user, a password, a host, a port and the name of a database one behind the other,
with `:`, `@`, `:` and `/` between them. The parts stand in it as they are, so a separator within a
part looks like the separator behind it. This module says exactly which sections can be told from
their address.

Most conditions are about single characters. Colons and slashes are harmless in a host and in the
name of a database as long as they do not look like a port, that is, as long as no number stands
between a colon and a slash.

## Main results

* `DatabaseSettings.accepted_iff` — which sections pass the checks.
* `DatabaseSettings.url_determines_iff` — the sections whose address belongs to no other one.
* `DatabaseSettings.unmistakable_of_plain` — sections without separators are among them.
* `DatabaseSettings.url_misread` — two sections that pass the checks and share their address.
-/

namespace HomeEnergy

namespace Text

variable {a b a' b' : List Char} {c d : Char}

/-- Two ways to cut a text at a separator: they are one, or one cut is in the front part of the
other. -/
theorem cut_cases (h : a ++ c :: b = a' ++ c :: b') :
    (a' = a ∧ b' = b) ∨ (∃ x, a' = a ++ c :: x ∧ b = x ++ c :: b') ∨
      ∃ x, a = a' ++ c :: x ∧ b' = x ++ c :: b := by
  rcases List.append_eq_append_iff.1 h with ⟨x, hfront, hback⟩ | ⟨x, hfront, hback⟩
  · cases x with
    | nil =>
        rw [List.append_nil] at hfront
        exact Or.inl ⟨hfront, (List.cons.inj hback).2.symm⟩
    | cons e x =>
        obtain ⟨rfl, hrest⟩ := List.cons.inj hback
        exact Or.inr (Or.inl ⟨x, hfront, hrest⟩)
  · cases x with
    | nil =>
        rw [List.append_nil] at hfront
        exact Or.inl ⟨hfront.symm, (List.cons.inj hback).2⟩
    | cons e x =>
        obtain ⟨rfl, hrest⟩ := List.cons.inj hback
        exact Or.inr (Or.inr ⟨x, hfront, hrest⟩)

/-- A cut at a separator that the front part does not have is the first one. -/
theorem first_cut (h : a ++ c :: b = a' ++ c :: b') (hc : c ∉ a) :
    (a' = a ∧ b' = b) ∨ ∃ x, a' = a ++ c :: x ∧ b = x ++ c :: b' := by
  rcases cut_cases h with same | later | ⟨x, rfl, -⟩
  · exact Or.inl same
  · exact Or.inr later
  · simp at hc

/-- A separator that is neither in the front part nor behind it stands in the rest. -/
theorem later_cut (h : a ++ d :: b = a' ++ c :: b') (hc : c ∉ a) (hd : c ≠ d) :
    ∃ x, a' = a ++ d :: x ∧ b = x ++ c :: b' := by
  rcases List.append_eq_append_iff.1 h with ⟨x, hfront, hback⟩ | ⟨x, rfl, hback⟩
  · cases x with
    | nil => exact absurd (List.cons.inj hback).1.symm hd
    | cons e x =>
        obtain ⟨rfl, hrest⟩ := List.cons.inj hback
        exact ⟨x, hfront, hrest⟩
  · cases x with
    | nil => exact absurd (List.cons.inj hback).1 hd
    | cons e x =>
        obtain ⟨rfl, -⟩ := List.cons.inj hback
        simp at hc

end Text

namespace DatabaseSettings

/-! ## Hosts and ports -/

/-- A host, a port and the name of a database, as an address writes them. -/
def place (host : List Char) (port : Nat) (database : List Char) : List Char :=
  host ++ ':' :: (Nat.toDigits 10 port ++ '/' :: database)

/-- The address of a section. -/
theorem toList_url (s : DatabaseSettings) :
    s.url.toList = "postgres://".toList ++ (s.user.toList ++ ':' :: (s.password.toList ++ '@' ::
      place s.host.toList s.port s.database.toList)) := by
  -- For any scheme: the literal is not to be compared with those of the separators.
  have hparts : ∀ scheme : String, (scheme ++ s.user ++ ":" ++ s.password ++ "@" ++ s.host ++ ":"
      ++ toString s.port ++ "/" ++ s.database).toList =
        scheme.toList ++ (s.user.toList ++ ':' :: (s.password.toList ++ '@' ::
          place s.host.toList s.port s.database.toList)) := by
    intro scheme
    simp [place]
  exact hparts _

theorem url_eq_url_iff {s s' : DatabaseSettings} :
    s'.url = s.url ↔
      s.user.toList ++ ':' :: (s.password.toList ++ '@' ::
          place s.host.toList s.port s.database.toList) =
        s'.user.toList ++ ':' :: (s'.password.toList ++ '@' ::
          place s'.host.toList s'.port s'.database.toList) := by
  rw [← String.toList_inj, toList_url, toList_url, List.append_cancel_left_eq]
  exact eq_comm

section Place

variable {host database host' database' : List Char} {n n' : Nat}

@[simp] theorem place_ne_nil : place host n database ≠ [] := by
  simp [place]

theorem append_place (front : List Char) :
    front ++ place host n database = place (front ++ host) n database := by
  simp [place]

/-- No separator is in the digits of a port. -/
theorem not_mem_digits {c : Char} (hc : c.isDigit = false) : c ∉ Nat.toDigits 10 n := by
  intro hmem
  rw [Decimal.isRun_toDigits n c hmem] at hc
  cases hc

/-- What is written behind the host is read off up to the slash. -/
theorem port_inj
    (h : Nat.toDigits 10 n ++ '/' :: database = Nat.toDigits 10 n' ++ '/' :: database') :
    n' = n ∧ database' = database := by
  rcases Text.first_cut h (not_mem_digits rfl) with ⟨hdigits, hrest⟩ | ⟨x, hdigits, -⟩
  · have hvalue := congrArg Decimal.value hdigits
    rw [Decimal.value_toDigits, Decimal.value_toDigits] at hvalue
    exact ⟨hvalue, hrest⟩
  · have hslash : '/' ∉ Nat.toDigits 10 n' := not_mem_digits rfl
    rw [hdigits] at hslash
    simp at hslash

/-- A longer host ends in what looks like a port. -/
theorem place_of_longer {x : List Char}
    (h : Nat.toDigits 10 n ++ '/' :: database
      = x ++ ':' :: (Nat.toDigits 10 n' ++ '/' :: database'))
    (hhost : host' = host ++ ':' :: x) :
    ∃ r, host' = place host n r ∧ database = place r n' database' := by
  obtain ⟨r, rfl, hdatabase⟩ := Text.later_cut h (not_mem_digits rfl) (by decide)
  exact ⟨r, hhost, hdatabase⟩

/-- Two places that are written alike are the same, or the host of one of them and the database of
the other look like a place themselves. -/
theorem place_cases (h : place host n database = place host' n' database') :
    (host' = host ∧ n' = n ∧ database' = database) ∨
      (∃ r, host' = place host n r ∧ database = place r n' database') ∨
      ∃ r, host = place host' n' r ∧ database' = place r n database := by
  rcases Text.cut_cases h with ⟨rfl, hport⟩ | ⟨x, hhost, hport⟩ | ⟨x, hhost, hport⟩
  · exact Or.inl ⟨rfl, port_inj hport.symm⟩
  · exact Or.inr (Or.inl (place_of_longer hport hhost))
  · exact Or.inr (Or.inr (place_of_longer hport hhost))

end Place

/-! ## Sections that can be told from their address -/

/-- The same user and password, and the same database at the same place. -/
structure SameCoordinates (s s' : DatabaseSettings) : Prop where
  user : s.user = s'.user
  password : s.password = s'.password
  host : s.host = s'.host
  port : s.port = s'.port
  database : s.database = s'.database

/-- No part of a section has a separator where it could be taken for the one behind the part. -/
structure Unmistakable (s : DatabaseSettings) : Prop where
  user : ':' ∉ s.user.toList
  password : ':' ∉ s.password.toList ∧ '@' ∉ s.password.toList
  /-- An at sign in the host is its end. -/
  host : ∀ front back, s.host.toList = front ++ '@' :: back → back = []
  /-- No port in the host, unless nothing is before it. -/
  hostPort : ∀ front n back, n < 2 ^ 16 → s.host.toList = place front n back → front = []
  /-- No port in the name of the database, unless nothing is behind it. -/
  databasePort : ∀ front n back, n < 2 ^ 16 → s.database.toList = place front n back → back = []

/-- The section can stand in settings that pass the checks. -/
def Accepted (s : DatabaseSettings) : Prop :=
  s.port < 2 ^ 16 ∧ s.maxConnections < 2 ^ 32 ∧
    ∃ c : CollectorSettings, c.database = some s ∧ c.validate = .ok ()

/-- Only an empty host, an empty name and no connections at all are refused. -/
theorem accepted_iff {s : DatabaseSettings} :
    s.Accepted ↔ s.port < 2 ^ 16 ∧ s.maxConnections < 2 ^ 32 ∧
      s.host ≠ "" ∧ s.database ≠ "" ∧ 1 ≤ s.maxConnections := by
  constructor
  · rintro ⟨hport, hmost, c, hsection, hvalid⟩
    exact ⟨hport, hmost,
      (CollectorSettings.validate_eq_ok_iff_sensible.1 hvalid).database s hsection⟩
  · rintro ⟨hport, hmost, hsection⟩
    refine ⟨hport, hmost, { database := some s }, rfl, ?_⟩
    apply CollectorSettings.validate_eq_ok_iff_sensible.2
    exact ⟨by simp, by simpa using hsection, by simp, by simp, by simp, by simp, by simp, by simp,
      by simp [CollectorSettings.names], by simp [CollectorSettings.names]⟩

section Told

variable {s s' : DatabaseSettings}

/-- Behind the at sign that ends the credentials there is no other one that could end them. -/
theorem Unmistakable.no_later_sign (hs : s.Unmistakable) (hs' : s'.Accepted) {x : List Char} :
    place s.host.toList s.port s.database.toList ≠
      x ++ '@' :: place s'.host.toList s'.port s'.database.toList := by
  obtain ⟨hport, -, hhost, hdatabase, -⟩ := accepted_iff.1 hs'
  intro h
  -- The sign is in the host, or in the name of the database.
  rcases List.append_eq_append_iff.1 h with ⟨y, -, hback⟩ | ⟨y, hfront, hback⟩
  · cases y with
    | nil => simp at hback
    | cons c y =>
        obtain ⟨-, hback⟩ := List.cons.inj hback
        obtain ⟨z, -, hname⟩ := Text.later_cut hback (not_mem_digits rfl) (by decide)
        rw [← List.singleton_append, append_place, append_place] at hname
        exact hdatabase (by simpa using hs.databasePort _ _ _ hport hname)
  · cases y with
    | nil => simp at hback
    | cons c y =>
        obtain ⟨rfl, hback'⟩ := List.cons.inj hback
        obtain rfl := hs.host _ _ hfront
        -- Nothing of the host is left behind the sign, so the other host begins with the port.
        have hrest : place [] s.port s.database.toList =
            place s'.host.toList s'.port s'.database.toList := hback'.symm
        rcases place_cases hrest with ⟨hnone, -⟩ | ⟨r, -, hname⟩ | ⟨r, hnone, -⟩
        · exact hhost (by simpa using hnone)
        · exact hdatabase (by simpa using hs.databasePort _ _ _ hport hname)
        · exact place_ne_nil hnone.symm

/-- The address of an unmistakable section belongs to no other section. -/
theorem Unmistakable.sameCoordinates (hs : s.Unmistakable) (hs' : s'.Accepted)
    (h : s'.url = s.url) : s'.SameCoordinates s := by
  rw [url_eq_url_iff] at h
  -- The user ends at the first colon, for the password has none and then comes the at sign.
  rcases Text.first_cut h hs.user with ⟨huser, h⟩ | ⟨x, -, h⟩
  · rcases Text.first_cut h.symm hs.password.2 with ⟨hpassword, h⟩ | ⟨x, -, h⟩
    · obtain ⟨hport', -, hhost', hdatabase', -⟩ := accepted_iff.1 hs'
      rcases place_cases h.symm with ⟨hhost, hn, hdatabase⟩ | ⟨r, -, hname⟩ | ⟨r, hname, -⟩
      · exact ⟨String.toList_inj.1 huser, String.toList_inj.1 hpassword, String.toList_inj.1 hhost,
          hn, String.toList_inj.1 hdatabase⟩
      · exact absurd (hs.databasePort _ _ _ hport' hname) (by simpa using hdatabase')
      · exact absurd (hs.hostPort _ _ _ hport' hname) (by simpa using hhost')
    · exact absurd h (hs.no_later_sign hs')
  · obtain ⟨y, -, h⟩ := Text.later_cut h hs.password.1 (by decide)
    rw [← List.cons_append, ← List.append_assoc] at h
    exact absurd h (hs.no_later_sign hs')

/-- No other section that passes the checks has the address of this one. -/
def Told (s : DatabaseSettings) : Prop :=
  ∀ s' : DatabaseSettings, s'.Accepted → s'.url = s.url → s'.SameCoordinates s

/-- A section that can be told is the only way to read its address. -/
theorem Told.parts (ht : s.Told) (hs : s.Accepted) (user password host database : List Char)
    {n : Nat} (hn : n < 2 ^ 16) (hhost : host ≠ []) (hdatabase : database ≠ [])
    (h : s.user.toList ++ ':' :: (s.password.toList ++ '@' ::
        place s.host.toList s.port s.database.toList) =
      user ++ ':' :: (password ++ '@' :: place host n database)) :
    s.user.toList = user ∧ s.password.toList = password ∧ s.host.toList = host ∧
      s.database.toList = database := by
  obtain ⟨-, hmost, -, -, hsome⟩ := accepted_iff.1 hs
  -- The section that the other reading of the address gives.
  let other : DatabaseSettings :=
    { s with user := .ofList user, password := .ofList password, host := .ofList host, port := n,
             database := .ofList database }
  have haccepted : other.Accepted := by
    apply accepted_iff.2
    refine ⟨hn, hmost, ?_, ?_, hsome⟩
    · simpa [other, ← String.toList_inj] using hhost
    · simpa [other, ← String.toList_inj] using hdatabase
  have hurl : other.url = s.url := url_eq_url_iff.2 (by simpa [other] using h)
  have hsame := ht other haccepted hurl
  have huser := congrArg String.toList hsame.user
  have hpassword := congrArg String.toList hsame.password
  have hhost' := congrArg String.toList hsame.host
  have hdatabase' := congrArg String.toList hsame.database
  simp only [other, String.toList_ofList] at huser hpassword hhost' hdatabase'
  exact ⟨huser.symm, hpassword.symm, hhost'.symm, hdatabase'.symm⟩

/-- Wherever a part has a separator, the address can be read in another way. -/
theorem Told.unmistakable (ht : s.Told) (hs : s.Accepted) : s.Unmistakable := by
  obtain ⟨hport, -, hhost, hdatabase, -⟩ := accepted_iff.1 hs
  have hhost' : s.host.toList ≠ [] := by simpa using hhost
  have hdatabase' : s.database.toList ≠ [] := by simpa using hdatabase
  constructor
  case user =>
    -- What is behind the colon goes to the password.
    intro hmem
    obtain ⟨front, back, hsplit⟩ := List.append_of_mem hmem
    have hparts := ht.parts hs front (back ++ ':' :: s.password.toList) _ _ hport hhost' hdatabase'
      (by simp [hsplit])
    simp [hsplit] at hparts
  case password =>
    constructor
    · -- What is in front of the colon goes to the user.
      intro hmem
      obtain ⟨front, back, hsplit⟩ := List.append_of_mem hmem
      have hparts := ht.parts hs (s.user.toList ++ ':' :: front) back _ _ hport hhost' hdatabase'
        (by simp [hsplit])
      simp at hparts
    · -- What is behind the at sign goes to the host.
      intro hmem
      obtain ⟨front, back, hsplit⟩ := List.append_of_mem hmem
      have hparts := ht.parts hs s.user.toList front (back ++ '@' :: s.host.toList) _ hport
        (by simp) hdatabase' (by simp [hsplit, place])
      simp [hsplit] at hparts
  case host =>
    -- What is in front of the at sign goes to the password.
    intro front back hsplit
    apply Classical.byContradiction
    intro hback
    have hparts := ht.parts hs s.user.toList (s.password.toList ++ '@' :: front) back _ hport hback
      hdatabase' (by simp [hsplit, place])
    simp at hparts
  case hostPort =>
    -- What is behind the port goes to the name of the database.
    intro front n back hn hsplit
    apply Classical.byContradiction
    intro hfront
    have hparts := ht.parts hs s.user.toList s.password.toList front
      (place back s.port s.database.toList) hn hfront place_ne_nil (by simp [hsplit, place])
    simp [hsplit, place] at hparts
  case databasePort =>
    -- What is in front of the port goes to the host.
    intro front n back hn hsplit
    apply Classical.byContradiction
    intro hback
    have hparts := ht.parts hs s.user.toList s.password.toList
      (place s.host.toList s.port front) back hn place_ne_nil hback (by simp [hsplit, place])
    simp [hsplit, place] at hparts

/-- The address of a section that passes the checks tells the section apart from all others exactly
if none of its parts has a separator where it could be taken for the one behind the part. -/
theorem url_determines_iff (hs : s.Accepted) :
    (∀ s' : DatabaseSettings, s'.Accepted → s'.url = s.url → s'.SameCoordinates s) ↔
      s.Unmistakable := by
  constructor
  · intro ht
    exact Told.unmistakable ht hs
  · intro hu s' hs' h
    exact hu.sameCoordinates hs' h

/-- Parts without separators cannot be mistaken. -/
theorem unmistakable_of_plain (huser : ':' ∉ s.user.toList) (hpassword : ':' ∉ s.password.toList)
    (hsign : '@' ∉ s.password.toList) (hhost : '@' ∉ s.host.toList) (hport : ':' ∉ s.host.toList)
    (hdatabase : ':' ∉ s.database.toList) : s.Unmistakable := by
  refine ⟨huser, ⟨hpassword, hsign⟩, ?_, ?_, ?_⟩
  · intro front back h
    exact absurd (by simp [h]) hhost
  · intro front n back _ h
    exact absurd (by simp [h, place]) hport
  · intro front n back _ h
    exact absurd (by simp [h, place]) hdatabase

end Told

/-! ## A password that names another server -/

/-- A database at home. -/
def homeDatabase : DatabaseSettings :=
  { host := "db.home", database := "homewatt", user := "collector", password := "secret" }

theorem url_determines_home : homeDatabase.Accepted ∧ homeDatabase.Unmistakable ∧
    ∀ s' : DatabaseSettings, s'.Accepted → s'.url = homeDatabase.url →
      s'.SameCoordinates homeDatabase := by
  have haccepted : homeDatabase.Accepted := accepted_iff.2 (by decide)
  have hunmistakable : homeDatabase.Unmistakable := by
    apply unmistakable_of_plain <;> decide
  exact ⟨haccepted, hunmistakable, (url_determines_iff haccepted).2 hunmistakable⟩

/-- The password of the database at home, if it has an at sign, a colon and a slash in it. -/
def awkwardDatabase : DatabaseSettings := { homeDatabase with password := "p@elsewhere:5433/x" }

/-- What its address says as well: a database on another server. -/
def strayDatabase : DatabaseSettings :=
  { homeDatabase with
    password := "p", host := "elsewhere", port := 5433, database := "x@db.home:5432/homewatt" }

/-- Two sections that pass the checks and differ in all but the user share their address. -/
theorem url_misread : awkwardDatabase.Accepted ∧ strayDatabase.Accepted ∧
    strayDatabase.url = awkwardDatabase.url ∧ strayDatabase.password ≠ awkwardDatabase.password ∧
    strayDatabase.host ≠ awkwardDatabase.host ∧ strayDatabase.port ≠ awkwardDatabase.port ∧
    strayDatabase.database ≠ awkwardDatabase.database := by
  refine ⟨accepted_iff.2 (by decide), accepted_iff.2 (by decide), ?_⟩
  decide

end DatabaseSettings

end HomeEnergy
