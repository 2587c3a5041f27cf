/-!
# TOML values

What a document may hold.  Dates and times are kept as their text.
-/

namespace RouterTelemetry.Toml

/-- A value of a document. -/
inductive Value where
  | text (value : String)
  | integer (value : Int)
  | real (value : Float)
  | boolean (value : Bool)
  /-- A date, a time or both. -/
  | moment (text : String)
  | list (items : List Value)
  | table (entries : List (String × Value))

end RouterTelemetry.Toml
