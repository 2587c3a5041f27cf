import RouterTelemetry.Json.Cursor
import RouterTelemetry.Url.Basic

/-!
# Requests and replies

What is sent to the router and what comes back.  A reply may be lost as a whole,
or its body may be lost after its head has come; the transport then gives a reason
in its own words.
-/

namespace RouterTelemetry.Http

/-- A header of a request. -/
abbrev Header := String × String

/-- A request to the router. -/
structure Request where
  method : String
  /-- The path with the query. -/
  target : String
  headers : List Header := []
  body : String := ""
deriving Repr, DecidableEq

/-- The value of a header of a request. -/
def Request.header? (request : Request) (name : String) : Option String :=
  (request.headers.find? (·.1 == name)).map Prod.snd

/-- Results can be told apart when values and reasons can. -/
instance decidableEqResult {ε α : Type} [DecidableEq ε] [DecidableEq α] :
    DecidableEq (Except ε α)
  | .ok a, .ok b => decidable_of_iff (a = b) ⟨congrArg _, Except.ok.inj⟩
  | .error a, .error b => decidable_of_iff (a = b) ⟨congrArg _, Except.error.inj⟩
  | .ok _, .error _ => isFalse nofun
  | .error _, .ok _ => isFalse nofun

/-- An answer of the router. -/
structure Answer where
  status : Nat
  /-- The values of its headers that set cookies. -/
  setCookies : List String := []
  /-- The reason of the transport if it could not be read to its end. -/
  body : Except String Json.Input := .ok []
deriving Repr, DecidableEq

/-- What becomes of a request: an answer, or the reason of the transport why there is
none. -/
abbrev Reply := Except String Answer

/-- The body of a reply, or the reason why it has not come. -/
def Reply.body (reply : Reply) : Except String Json.Input :=
  reply.bind (·.body)

/-- A request with what became of it. -/
structure Exchange where
  request : Request
  reply : Reply
deriving Repr, DecidableEq

/-- A router with a state of its own. -/
structure Router (σ : Type) where
  reply : Request → σ → Reply × σ

/-- A router that no request reaches. -/
def Router.unreachable {σ : Type} : Router σ :=
  ⟨fun _ state => (.error "error sending request", state)⟩

end RouterTelemetry.Http
