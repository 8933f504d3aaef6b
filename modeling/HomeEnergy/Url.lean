import HomeEnergy.Text.Percent

/-!
# Addresses of resources

The authority of an address names a user, a host and a port. Schemes of the web know names, numbers
and bracketed numbers as hosts; for other schemes a host is any text without separators.

## Main results

* `Url.authority?` — the authority at the start of a text.
* `Url.isAskable` — whether a request can be sent to an address.
-/

namespace HomeEnergy.Url

/-! ## Numbers as hosts -/

/-- The number that digits of a base write, if they are digits. -/
def digits? (base : Nat) (s : List Char) : Option Nat :=
  s.foldlM (fun n c =>
    (Json.hexValue? c).bind fun d => if d < base then some (base * n + d) else none) 0

/-- A decimal number up to 255 without needless zeros. -/
def isOctet (s : String) : Bool :=
  match digits? 10 s.toList with
  | some n => s ≠ "" && n ≤ 255 && toString n = s
  | none => false

/-- Four decimal numbers with points between. -/
def isQuad (s : String) : Bool :=
  let parts := s.splitOn "."
  parts.length = 4 && parts.all isOctet

/-- One to four hexadecimal digits. -/
def isGroup (s : String) : Bool :=
  s.length ≤ 4 && s ≠ "" && (digits? 16 s.toList).isSome

/-- How many groups a list of groups counts for. The last may be four decimal numbers, which count
for two. -/
def groupCount? : List String → Option Nat
  | [] => some 0
  | [g] => if isGroup g then some 1 else if isQuad g then some 2 else none
  | g :: rest => if isGroup g then (groupCount? rest).map (· + 1) else none

/-- The groups that a text separates by colons. -/
def groups (s : String) : List String := if s = "" then [] else s.splitOn ":"

/-- An address of eight groups, where two colons stand for one or more groups of zeros. -/
def isLongNumber (s : String) : Bool :=
  match s.splitOn "::" with
  | [whole] => groupCount? (groups whole) = some 8
  | [front, back] =>
    match groupCount? (groups front), groupCount? (groups back) with
    | some m, some n => (groups front).all isGroup && m + n ≤ 7
    | _, _ => false
  | _ => false

/-- The number that a part of a host writes: decimal, or behind `0` octal, or behind `0x`
hexadecimal. -/
def partNumber? (s : List Char) : Option Nat :=
  match s with
  | [] => none
  | '0' :: 'x' :: rest | '0' :: 'X' :: rest => digits? 16 rest
  | '0' :: d :: rest => digits? 8 (d :: rest)
  | _ => digits? 10 s

/-- The parts of a name, without an empty one at its end. -/
def labels (host : String) : List String :=
  let parts := host.splitOn "."
  if parts.length > 1 ∧ parts.getLast? = some "" then parts.dropLast else parts

/-- Whether the last part of a name is written like a number. -/
def endsInNumber (host : String) : Bool :=
  match (labels host).getLast? with
  | none => false
  | some s =>
    (s ≠ "" && s.toList.all Char.isDigit) || (s.startsWith "0" && (partNumber? s.toList).isSome)

/-- A number of one to four parts: each but the last is a byte, and the last fills the rest. -/
def isShortNumber (host : String) : Bool :=
  match (labels host).mapM fun s => partNumber? s.toList with
  | some numbers =>
    numbers.length ≤ 4 && numbers.dropLast.all (· ≤ 255)
      && numbers.getLast?.any (· < Nat.pow 256 (5 - numbers.length))
  | none => false

/-! ## Hosts -/

/-- The characters that no host contains. -/
def separators : List Char :=
  ['\x00', '\t', '\n', '\r', ' ', '#', '/', ':', '<', '>', '?', '@', '[', '\\', ']', '^', '|']

/-- The bracketed host in a text, if it is one. -/
def bracketed? : List Char → Option (Option String)
  | '[' :: rest =>
    match rest.reverse with
    | ']' :: inner => some (some (String.ofList inner.reverse))
    | _ => some none
  | _ => none

/-- Whether a text is a host for schemes that are not of the web. -/
def isPlainHost (host : List Char) : Bool :=
  match bracketed? host with
  | some inner => inner.any isLongNumber
  | none => host.all fun c => !separators.contains c

/-- The characters that no name on the web contains. -/
def isOutsideNames (c : Char) : Bool :=
  separators.contains c || c.toNat < 0x20 || c.toNat = 0x7F
    || ['%', '"', '\x60', '\x7b', '\x7d'].contains c

/-- Whether a text is a host for schemes of the web. -/
def isWebHost (host : List Char) : Bool :=
  match bracketed? host with
  | some inner => inner.any isLongNumber
  | none =>
    let name := Text.lenient ⟨(Percent.decode (String.ofList host)).toArray⟩
    name ≠ "" && !name.toList.any isOutsideNames && (!endsInNumber name || isShortNumber name)

/-! ## Authorities -/

/-- Who is asked for, and where. -/
structure Authority where
  user : List Char := []
  password : List Char := []
  host : List Char
  port : Option Nat := none
deriving DecidableEq, Repr

/-- The host at the start of a text: up to a colon that is not in brackets. -/
def takeHost (inside : Bool) : List Char → List Char × List Char
  | [] => ([], [])
  | c :: rest =>
    if c = ':' && !inside then ([], c :: rest)
    else
      let (host, rest) :=
        takeHost (if c = '[' then true else if c = ']' then false else inside) rest
      (c :: host, rest)

/-- The port behind a host. -/
def port? : List Char → Option (Option Nat)
  | [] => some none
  | [':'] => some none
  | ':' :: s => ((digits? 10 s).filter (· < Nat.pow 2 16)).map some
  | _ => none

/-- The credentials in front of the last at sign of a text, if there is one, and what is behind. -/
def takeCredentials (s : List Char) : Option (List Char) × List Char :=
  let behind := (s.reverse.takeWhile (· != '@')).reverse
  if s.contains '@' then (some (s.take (s.length - behind.length - 1)), behind) else (none, s)

/-- Whether a character ends an authority. -/
def endsAuthority (web : Bool) (c : Char) : Bool :=
  c = '/' || c = '?' || c = '#' || (web && c = '\\')

/-- The authority at the start of a text, and the rest. Tabs and line ends do not count. -/
def authority? (web : Bool) (text : List Char) : Option (Authority × List Char) := do
  let chars := text.filter fun c => !(['\t', '\n', '\r'].contains c)
  let whole := chars.takeWhile fun c => !endsAuthority web c
  let rest := chars.dropWhile fun c => !endsAuthority web c
  let (credentials, place) := takeCredentials whole
  let (host, behind) := takeHost false place
  let user := (credentials.getD []).takeWhile (· != ':')
  let password := ((credentials.getD []).dropWhile (· != ':')).drop 1
  let known := if web then isWebHost host else isPlainHost host
  let placed := host ≠ [] ∨ (behind = [] ∧ user = [] ∧ password = [] ∧ credentials ≠ some [])
  if known ∧ placed then return (⟨user, password, host, ← port? behind⟩, rest) else none

/-- Whether a request can be sent to an address on the web. -/
def isAskable (url : String) : Bool :=
  let rest := (Text.after? "http://".toList url.toList).orElse fun _ =>
    Text.after? "https://".toList url.toList
  match rest with
  | none => false
  | some rest =>
    (authority? true (rest.dropWhile fun c => ['/', '\\', '\t', '\n', '\r'].contains c)).isSome

end HomeEnergy.Url
