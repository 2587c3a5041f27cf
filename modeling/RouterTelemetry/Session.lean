import RouterTelemetry.Text.Blank

/-!
# Sessions

The cookies that a login returned, and the header that carries them.
-/

namespace RouterTelemetry

/-- A cookie. -/
structure Cookie where
  name : String
  value : String
deriving Repr, DecidableEq

/-- The cookies of the most recent login, none before the first. -/
structure Session where
  cookies : List Cookie := []
deriving Repr, DecidableEq

/-- There is no cookie. -/
def Session.isEmpty (session : Session) : Bool :=
  session.cookies.isEmpty

/-- A cookie as a request carries it. -/
def Cookie.pair (cookie : Cookie) : String :=
  cookie.name ++ "=" ++ cookie.value

/-- The header that carries the cookies; no header without a cookie. -/
def Session.header? (session : Session) : Option String :=
  if session.isEmpty then none else some ("; ".intercalate (session.cookies.map Cookie.pair))

/-! ## Cookies set by an answer -/

/-- The cookie of a raw value: the part before the first semicolon, split at its
first equals sign.  Without that sign or without a name there is none. -/
def Cookie.ofHeader? (raw : String) : Option Cookie :=
  let pair := raw.toList.takeWhile (· != ';')
  match pair.dropWhile (· != '=') with
  | [] => none
  | _ :: value =>
      let name := Text.trimmed (pair.takeWhile (· != '='))
      if name.isEmpty then none
      else some ⟨String.ofList name, String.ofList (Text.trimmed value)⟩

end RouterTelemetry
