import Mathlib.Data.List.Basic
import RouterTelemetry.Measure

/-!
# Quoted texts without escapes

Bytes that are printable ASCII, other than quotes and backslashes, stand for themselves
between quotes: they are read as the text of their characters.
-/

namespace RouterTelemetry.Json

/-- The byte stands for an ASCII character that needs no escape. -/
structure PlainByte (b : UInt8) : Prop where
  noQuote : b ≠ byte '"'
  noSlash : b ≠ byte '\\'
  printed : ¬b < 32
  ascii : b < 128

/-- The characters of ASCII bytes. -/
def asciiChars (bytes : List UInt8) : List Char :=
  bytes.map Char.ofUInt8

/-- A text between quotes. -/
def quotation (text : Input) : Input :=
  byte '"' :: (text ++ [byte '"'])

theorem utf8EncodeChar_ofUInt8 {b : UInt8} (ascii : b < 128) :
    String.utf8EncodeChar (Char.ofUInt8 b) = [b] := by
  have small : b.toNat < 128 := by simpa using UInt8.lt_iff_toNat_lt.mp ascii
  have code : (Char.ofUInt8 b).val.toNat = b.toNat := UInt8.toNat_toUInt32 b
  have size : (Char.ofUInt8 b).utf8Size = 1 := by
    rw [Char.utf8Size_eq_one_iff, UInt32.le_iff_toNat_le, code]
    exact Nat.le_of_lt_succ small
  rw [String.utf8EncodeChar_eq_singleton size]
  change [UInt8.ofNat (Char.ofUInt8 b).val.toNat] = [b]
  rw [code, UInt8.ofNat_toNat]

/-- ASCII bytes are the UTF-8 form of their characters. -/
theorem utf8Encode_asciiChars {bytes : List UInt8} (ascii : ∀ b ∈ bytes, b < 128) :
    (asciiChars bytes).utf8Encode = ⟨bytes.toArray⟩ := by
  apply ByteArray.ext
  rw [List.utf8Encode, List.data_toByteArray, asciiChars, List.flatMap_map]
  have each : ∀ b ∈ bytes, String.utf8EncodeChar (Char.ofUInt8 b) = [b] := fun b member =>
    utf8EncodeChar_ofUInt8 (ascii b member)
  rw [List.flatMap_congr each, List.flatMap_singleton']

theorem utf8Text?_of_ascii {bytes : List UInt8} (ascii : ∀ b ∈ bytes, b < 128) :
    utf8Text? bytes = some (String.ofList (asciiChars bytes)) := by
  have encoded := utf8Encode_asciiChars ascii
  have valid : ByteArray.IsValidUTF8 ⟨bytes.toArray⟩ := .intro _ encoded.symm
  rw [utf8Text?, String.fromUTF8?, dif_pos valid]
  congr 1
  exact String.toByteArray_inj.mp (by rw [String.toByteArray_ofList, encoded]; rfl)

/-- The characters of a text whose bytes are ASCII. -/
theorem toList_of_ascii {text : String} (ascii : ∀ b ∈ text.toByteArray.data.toList, b < 128) :
    text.toList = asciiChars text.toByteArray.data.toList := by
  have same : String.ofList (asciiChars text.toByteArray.data.toList) = text := by
    apply String.toByteArray_inj.mp
    rw [String.toByteArray_ofList, utf8Encode_asciiChars ascii]
  exact (congrArg String.toList same).symm.trans (String.toList_ofList)

/-- Plain bytes are gathered up to the closing quote. -/
theorem readTextBytes_of_plain {text : Input} (plain : ∀ b ∈ text, PlainByte b) (rest : Input) :
    ∃ shorter, readTextBytes (text ++ byte '"' :: rest) = .ok ⟨text, rest, shorter⟩ := by
  induction text with
  | nil =>
      refine ⟨rest_shorter _ _, ?_⟩
      change readTextBytes (byte '"' :: rest) = _
      rw [readTextBytes, if_pos rfl]
  | cons b text ih =>
      rw [List.forall_mem_cons] at plain
      obtain ⟨shorter, tail⟩ := ih plain.2
      refine ⟨Nat.lt_succ_of_lt shorter, ?_⟩
      change readTextBytes (b :: (text ++ byte '"' :: rest)) = _
      rw [readTextBytes, if_neg plain.1.noQuote, if_neg plain.1.noSlash,
        if_neg plain.1.printed, tail]

theorem readQuotation_of_plain {text : Input} (plain : ∀ b ∈ text, PlainByte b) (rest : Input) :
    ∃ shorter, readQuotation (text ++ byte '"' :: rest) =
      .ok ⟨String.ofList (asciiChars text), rest, shorter⟩ := by
  obtain ⟨shorter, gathered⟩ := readTextBytes_of_plain plain rest
  have decoded := utf8Text?_of_ascii fun b member => (plain b member).ascii
  exact ⟨shorter, by simp only [readQuotation, gathered, decoded]⟩

/-- A plain text between quotes is read as the text of its characters. -/
theorem readHead_quotation {text : Input} (plain : ∀ b ∈ text, PlainByte b) :
    ∃ shorter, readHead (quotation text) =
      .ok ⟨.text (String.ofList (asciiChars text)), [], shorter⟩ := by
  obtain ⟨shorter, given⟩ := readQuotation_of_plain plain []
  refine ⟨Nat.lt_succ_of_lt shorter, ?_⟩
  have start : skipBlank (quotation text) = ⟨quotation text, Nat.le_refl _⟩ := rfl
  have here : readHeadHere (quotation text) =
      .ok ⟨.text (String.ofList (asciiChars text)), [], Nat.lt_succ_of_lt shorter⟩ := by
    change readHeadHere (byte '"' :: (text ++ [byte '"'])) = _
    rw [readHeadHere, if_neg (by decide), if_neg (by decide), if_pos rfl, given]
    rfl
  rw [readHead, start]
  dsimp only
  rw [here]
  rfl

end RouterTelemetry.Json
