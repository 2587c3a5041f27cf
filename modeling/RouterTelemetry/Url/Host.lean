import RouterTelemetry.Json.Quotation
import RouterTelemetry.Url.Domain

/-!
# Hosts

A host is a name or a numeric address.  Web addresses read their hosts as domain
names; other addresses leave a name as it is.
-/

namespace RouterTelemetry.Url

/-- Why a URL was refused. -/
inductive Fault where
  | emptyHost
  | domain
  | port
  | fourByteAddress
  | pieceAddress
  | hostCharacter
  | noScheme
deriving Repr, DecidableEq

/-- The wording of a refusal. -/
def Fault.message : Fault → String
  | .emptyHost => "empty host"
  | .domain => "invalid international domain name"
  | .port => "invalid port number"
  | .fourByteAddress => "invalid IPv4 address"
  | .pieceAddress => "invalid IPv6 address"
  | .hostCharacter => "invalid domain character"
  | .noScheme => "relative URL without a base"

/-- A host. -/
inductive Host where
  | named (text : String)
  | fourBytes (address : Nat)
  | eightPieces (pieces : List Nat)
deriving Repr, DecidableEq

/-- The host as it is written. -/
def Host.text : Host → String
  | .named text => text
  | .fourBytes address => showAddress address
  | .eightPieces pieces => "[" ++ showPieces pieces ++ "]"

/-- A host in brackets. -/
def Host.bracketed (text : List Char) : Except Fault Host :=
  if text.getLast? = some ']' then
    match parsePieces? (text.drop 1).dropLast with
    | some pieces => .ok (.eightPieces pieces)
    | none => .error .pieceAddress
  else
    .error .pieceAddress

/-- The host of a web address: percent-decoded, read as a domain name, and taken for
an address if it ends in a number. -/
def Host.ofWeb (text : List Char) : Except Fault Host :=
  if text.head? = some '[' then
    Host.bracketed text
  else
    match (Json.utf8Text? (decodeBytes text)).bind fun name => asciiDomain? name.toList with
    | none => .error .domain
    | some [] => .error .emptyHost
    | some name =>
        if endsInNumber name then
          match parseAddress? name with
          | some address => .ok (.fourBytes address)
          | none => .error .fourByteAddress
        else
          .ok (.named (String.ofList name))

/-- Characters that no uninterpreted host has. -/
def barredInHost : List Char :=
  ['\x00', '\t', '\n', '\r', ' ', '#', '/', ':', '<', '>', '?', '@', '[', '\\', ']', '^', '|']

/-- The host of any other address, left uninterpreted. -/
def Host.ofOther (text : List Char) : Except Fault Host :=
  if text.head? = some '[' then
    Host.bracketed text
  else if text.any barredInHost.contains then
    .error .hostCharacter
  else
    .ok (.named (String.ofList (encode [] text)))

end RouterTelemetry.Url
