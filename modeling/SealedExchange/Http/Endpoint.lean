import SealedExchange.Http.Address

/-! # Where requests go

A url of one of the two schemes that requests are made with leads to a host and a port, and names
the target to ask for.
-/

namespace SealedExchange.Http

/-- Where a url leads. -/
structure Endpoint where
  secure : Bool
  host : Host
  port : Nat
  target : String
deriving DecidableEq, Repr

namespace Endpoint

/-- The endpoint of a url. -/
def ofAddress? (a : Address) : Option Endpoint := do
  let authority ← a.authority
  let secure ← match a.scheme with
    | "http" => some false
    | "https" => some true
    | _ => none
  let port := authority.port.getD (if secure then 443 else 80)
  if a.isTarget then some { secure, host := authority.host, port, target := a.target } else none

/-- The endpoint of the text of a url. -/
def ofUrl? (url : String) : Option Endpoint := (Address.parse? none url).bind ofAddress?

end Endpoint

end SealedExchange.Http
