import RouterTelemetry.Url.Percent

/-!
# Form encoding

A form is sent as names and values with every byte encoded that could be taken
for a part of the form itself.
-/

namespace RouterTelemetry.Http

/-- The byte stands for itself in a form. -/
def isKept (b : UInt8) : Bool :=
  (48 ≤ b && b ≤ 57) || (65 ≤ b && b ≤ 90) || (97 ≤ b && b ≤ 122) ||
    b == 42 || b == 45 || b == 46 || b == 95

/-- One byte of a form. -/
def formByte (b : UInt8) : List Char :=
  if isKept b then [Char.ofNat b.toNat]
  else if b = 32 then ['+']
  else Url.encodeByte b

/-- A name or a value of a form. -/
def formText (text : String) : String :=
  String.ofList (text.toUTF8.toList.flatMap formByte)

/-- A form of one field. -/
def formField (name value : String) : String :=
  formText name ++ "=" ++ formText value

end RouterTelemetry.Http
