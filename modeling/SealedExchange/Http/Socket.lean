import SealedExchange.Http.Endpoint

/-! # Where connections are accepted

A server listens at an address of its machine and a port. Two servers may listen at one port if no
address belongs to both. At port zero a server is given a port of its own, which nobody else knows.
-/

namespace SealedExchange.Http

/-- An address and a port to listen at. -/
structure Socket where
  host : Host
  port : Nat
deriving DecidableEq, Repr

namespace Socket

/-- The host to listen at in an address without brackets: the machine's own name or an internet
address. -/
def bareHost? (chars : List Char) : Option Host :=
  if chars.map Char.toLower = "localhost".toList then some (.ipv4 Host.loopback4)
  else ((Host.readBareIpv4? chars).map .ipv4).or ((Host.readIpv6? chars).map .ipv6)

/-- The host to listen at in brackets. The number of an interface may follow the address. -/
def bracketedHost? (chars : List Char) : Option Host :=
  match Text.splitOnceChars '%' chars with
  | none => Host.readBracketed? chars
  | some (address, zone) => do
    let digits := zone.dropLast
    let n ← Text.readDecimal? digits
    if n < Bytes.count 4 ∧ zone.getLast? = some ']' then Host.readBracketed? (address ++ [']'])
    else none

/-- Reads a host and a port. A plus sign may stand before the port unless the host is in
brackets. -/
def read? (address : String) : Option Socket := do
  let (port, host) ← Text.splitOnceChars ':' address.toList.reverse
  let (port, host) := (port.reverse, host.reverse)
  let (host, port) ←
    if host.head? = some '[' then do
      let host ← bracketedHost? host
      let port ← Text.readDecimal? port
      pure (host, port)
    else do
      let host ← bareHost? host
      let port ← Text.readNumber? port
      pure (host, port)
  if port < Bytes.count 2 then some { host := host.unmapped, port } else none

/-- The socket of an address that the machine can listen at. -/
def ofAddress? (address : String) : Option Socket :=
  (read? address).filter (·.host.isListenable)

/-- Tests whether two servers cannot listen at the same time. -/
def clashes (a b : Socket) : Bool :=
  a.port = b.port && a.port ≠ 0 && (a.host.covers b.host || b.host.covers a.host)

/-- Tests whether connections to an endpoint are accepted. -/
def accepts (s : Socket) (e : Endpoint) : Bool :=
  s.port = e.port && s.port ≠ 0 && e.host.ownAddress?.any s.host.covers

end Socket

end SealedExchange.Http
