import HomeEnergy.Decimal.Numeral
import HomeEnergy.Fault
import HomeEnergy.Url

/-!
# Addresses to listen at

A listener is opened at a host and a port. Only hosts of the machine itself will do.

## Main results

* `Listener.refusal?` — why no listener can be opened at an address.
-/

namespace HomeEnergy.Listener

/-- The host and the port of an address, which the last colon separates. -/
def parts? (address : String) : Option (String × String) :=
  let reversed := address.toList.reverse
  match reversed.dropWhile (· != ':') with
  | [] => none
  | _ :: host =>
    some (String.ofList host.reverse, String.ofList (reversed.takeWhile (· != ':')).reverse)

/-- The port that digits write, possibly behind a plus sign. -/
def port? (text : String) : Option Nat :=
  match readInteger 17 text.toList with
  | .ok n => if text.startsWith "-" ∨ n < 0 then none else some n.toNat
  | .error _ => none

/-- Whether a host stands for the machine itself. -/
def isOwn (host : String) : Bool :=
  host = "localhost" || host = "0.0.0.0" || host = "[::]"
    || Url.isQuad host && host.startsWith "127."

/-- Why no listener can be opened at an address, if none can. -/
def refusal? (address : String) : Option String :=
  match parts? address with
  | none => some "invalid socket address"
  | some (host, port) =>
    if (port? port).isNone then some "invalid port value"
    else if isOwn host then none
    else if Url.isQuad host then some "Cannot assign requested address (os error 99)"
    else some "failed to lookup address information: Temporary failure in name resolution"

/-- An address as it is told: with the number of the host. -/
def shown (address : String) : String :=
  match parts? address with
  | some ("localhost", port) => "127.0.0.1:" ++ port
  | _ => address

/-- Open a listener for a module, as far as the address allows. -/
def opening (address : String) : Outcome Unit :=
  match refusal? address with
  | none => .ok ()
  | some reason => .error (.connectionFailed address ("cannot bind listener: " ++ reason))

end HomeEnergy.Listener
