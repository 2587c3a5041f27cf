import Mathlib.Data.List.Induction
import Mathlib.Tactic.Ring
import RouterTelemetry.Proofs.SeparatedText

/-!
# Numeric addresses are read back

An address that has been read is in range, and the normal form of an address in range is read as
that address.
-/

namespace RouterTelemetry.Url

/-! ## Digits -/

section

variable {base n : Nat} {front digits : List Char} {c : Char}

theorem valueIn?_concat (base : Nat) (front : List Char) (c : Char) :
    valueIn? base (front ++ [c]) =
      (valueIn? base front).bind fun total => (hexValue? c).bind fun digit =>
        if digit < base then some (total * base + digit) else none := by
  rw [valueIn?, List.foldl_append]
  rfl

theorem hexValue?_digitChar {digit : Nat} (small : digit < 16) :
    hexValue? digit.digitChar = some digit := by
  have all : ∀ digit < 16, hexValue? digit.digitChar = some digit := by decide
  exact all digit small

/-- The digits of a number are read back. -/
theorem valueIn?_toDigits (low : 1 < base) (high : base ≤ 16) (n : Nat) :
    valueIn? base (Nat.toDigits base n) = some n := by
  induction n using Nat.strongRecOn with
  | _ n ih =>
    have last := Nat.mod_lt n (Nat.lt_of_succ_lt low)
    have read := valueIn?_concat base (Nat.toDigits base (n / base)) (n % base).digitChar
    rw [hexValue?_digitChar (by omega)] at read
    rcases Nat.lt_or_ge n base with small | large
    · rw [Nat.toDigits_of_lt_base small, ← List.nil_append [n.digitChar], valueIn?_concat,
        hexValue?_digitChar (by omega)]
      simp [valueIn?, small]
    · rw [Nat.toDigits_of_base_le low large, read, ih _ (Nat.div_lt_self (by omega) low)]
      simp [last, Nat.div_add_mod']

theorem valueIn?_lt (value : valueIn? base digits = some n) :
    n < base ^ digits.length := by
  induction digits using List.reverseRecOn generalizing n with
  | nil =>
      cases value
      exact Nat.one_pos
  | append_singleton front c ih =>
      rw [valueIn?_concat, Option.bind_eq_some_iff] at value
      obtain ⟨total, before, value⟩ := value
      obtain ⟨digit, _, value⟩ := Option.bind_eq_some_iff.mp value
      split_ifs at value with small
      have below := ih before
      rw [← Option.some.inj value, List.length_append, List.length_singleton, Nat.pow_succ]
      calc total * base + digit
        _ < total * base + base := Nat.add_lt_add_left small _
        _ = (total + 1) * base := by ring
        _ ≤ base ^ front.length * base := Nat.mul_le_mul_right base below

theorem exists_digitChar_of_mem_toDigits (low : 1 < base) (high : base ≤ 16)
    (member : c ∈ Nat.toDigits base n) : ∃ digit < 16, c = digit.digitChar := by
  induction n using Nat.strongRecOn with
  | _ n ih =>
    rcases Nat.lt_or_ge n base with small | large
    · rw [Nat.toDigits_of_lt_base small, List.mem_singleton] at member
      exact ⟨n, by omega, member⟩
    · rw [Nat.toDigits_of_base_le low large] at member
      rcases List.mem_append.mp member with before | last
      · exact ih _ (Nat.div_lt_self (by omega) low) before
      · have := Nat.mod_lt n (Nat.lt_of_succ_lt low)
        exact ⟨n % base, by omega, List.mem_singleton.mp last⟩

end

/-! ## Four bytes -/

/-- The decimal digits of the four bytes. -/
def byteDigits (address : Nat) : List (List Char) :=
  [16777216, 65536, 256, 1].map fun unit => Nat.toDigits 10 (address / unit % 256)

theorem toList_showAddress (address : Nat) :
    (showAddress address).toList = joinWith '.' (byteDigits address) := by
  simp [showAddress, byteDigits, joinWith]

section

variable {address : Nat} {host : List Char}

theorem isDigit_of_mem_byteDigits {digits : List Char} (member : digits ∈ byteDigits address) :
    digits ≠ [] ∧ ∀ c ∈ digits, c.isDigit := by
  obtain ⟨unit, _, rfl⟩ := List.mem_map.mp member
  exact ⟨Nat.toDigits_ne_nil, fun c => Nat.isDigit_of_mem_toDigits (by decide) (by decide)⟩

theorem splitAt_showAddress (address : Nat) :
    splitAt '.' (showAddress address).toList = byteDigits address := by
  rw [toList_showAddress, splitAt_joinWith (by simp [byteDigits])]
  intro digits member point
  exact absurd ((isDigit_of_mem_byteDigits member).2 '.' point) (by decide)

theorem addressPart?_toDigits {n : Nat} (byte : n < 256) :
    addressPart? (Nat.toDigits 10 n) = some n := by
  have all : ∀ n < 256, addressPart? (Nat.toDigits 10 n) = some n := by decide +kernel
  exact all n byte

theorem mapM_addressPart?_byteDigits (address : Nat) :
    (byteDigits address).mapM addressPart? =
      some ([16777216, 65536, 256, 1].map fun unit => address / unit % 256) := by
  have byte (n : Nat) : addressPart? (Nat.toDigits 10 (n % 256)) = some (n % 256) :=
    addressPart?_toDigits (Nat.mod_lt n (by decide))
  simp [byteDigits, byte]

/-- The last part is not empty. -/
theorem exists_last_byteDigits (address : Nat) :
    ∃ c rest front, (byteDigits address).reverse = (c :: rest) :: front ∧
      (c :: rest).all Char.isDigit := by
  have some : (byteDigits address).reverse ≠ [] := by simp [byteDigits]
  obtain ⟨last, front, reversed⟩ := List.exists_cons_of_ne_nil some
  have member : last ∈ byteDigits address := by
    rw [← List.mem_reverse, reversed]
    exact List.mem_cons_self
  obtain ⟨full, digits⟩ := isDigit_of_mem_byteDigits member
  obtain ⟨c, rest, rfl⟩ := List.exists_cons_of_ne_nil full
  exact ⟨c, rest, front, reversed, List.all_eq_true.mpr digits⟩

theorem addressParts_showAddress (address : Nat) :
    addressParts (showAddress address).toList = byteDigits address := by
  obtain ⟨c, rest, front, last, _⟩ := exists_last_byteDigits address
  rw [addressParts, splitAt_showAddress, last]
  dsimp only
  rw [← last, List.reverse_reverse]

theorem endsInNumber_showAddress (address : Nat) : endsInNumber (showAddress address).toList := by
  obtain ⟨c, rest, front, last, digits⟩ := exists_last_byteDigits address
  rw [endsInNumber, lastPart, splitAt_showAddress, last]
  dsimp only
  rw [digits, List.isEmpty_cons]
  rfl

/-- The normal form is read as the address. -/
theorem parseAddress?_showAddress (range : address < 2 ^ 32) :
    parseAddress? (showAddress address).toList = some address := by
  rw [parseAddress?, addressParts_showAddress, mapM_addressPart?_byteDigits]
  simp
  omega

/-- Bytes make a number below a power of 256. -/
theorem foldl_bytes_lt {bytes : List Nat} (small : ∀ byte ∈ bytes, byte ≤ 255) (start : Nat) :
    bytes.foldl (fun total n => 256 * total + n) start < (start + 1) * 256 ^ bytes.length := by
  induction bytes generalizing start with
  | nil => simp
  | cons byte bytes ih =>
      obtain ⟨first, small⟩ := List.forall_mem_cons.mp small
      calc bytes.foldl (fun total n => 256 * total + n) (256 * start + byte)
        _ < (256 * start + byte + 1) * 256 ^ bytes.length := ih small _
        _ ≤ ((start + 1) * 256) * 256 ^ bytes.length := Nat.mul_le_mul_right _ (by omega)
        _ = (start + 1) * 256 ^ (byte :: bytes).length := by
          rw [List.length_cons, Nat.pow_succ]
          ring

/-- An address that has been read is in range. -/
theorem lt_of_parseAddress? (read : parseAddress? host = some address) : address < 2 ^ 32 := by
  rw [parseAddress?] at read
  obtain ⟨numbers, _, read⟩ := Option.bind_eq_some_iff.mp read
  cases reversed : numbers.reverse with
  | nil =>
      rw [reversed] at read
      cases read
  | cons last front =>
      rw [reversed] at read
      dsimp only at read
      generalize front.reverse = front at read
      split_ifs at read with wrong
      simp only [Bool.or_eq_true, decide_eq_true_eq, not_or, List.any_eq_true, not_exists, not_and,
        Nat.not_lt, Nat.not_le] at wrong
      obtain ⟨⟨count, small⟩, low⟩ := wrong
      have high := foldl_bytes_lt small 0
      have whole : 256 ^ front.length * 256 ^ (4 - front.length) = 2 ^ 32 := by
        rw [← Nat.pow_add, Nat.add_sub_cancel' (by omega)]
        rfl
      rw [Nat.zero_add, Nat.one_mul] at high
      rw [← Option.some.inj read, ← whole]
      calc _
        _ < front.foldl (fun total n => 256 * total + n) 0 * 256 ^ (4 - front.length) +
            256 ^ (4 - front.length) := Nat.add_lt_add_left low _
        _ = (front.foldl (fun total n => 256 * total + n) 0 + 1) * 256 ^ (4 - front.length) := by
          ring
        _ ≤ 256 ^ front.length * 256 ^ (4 - front.length) := Nat.mul_le_mul_right _ high

end

/-! ## Eight pieces -/

/-- A piece has sixteen bits. -/
def ArePieces (pieces : List Nat) : Prop :=
  pieces.length = 8 ∧ ∀ piece ∈ pieces, piece < 65536

theorem showPiece_eq_cons (piece : Nat) :
    ∃ c rest, showPiece piece = c :: rest ∧ c ≠ ':' ∧
      (c :: rest).all fun c => (hexValue? c).isSome := by
  obtain ⟨c, rest, written⟩ :=
    List.exists_cons_of_ne_nil (Nat.toDigits_ne_nil (n := piece) (b := 16))
  have digits : ∀ c ∈ showPiece piece, (hexValue? c).isSome := by
    intro c member
    obtain ⟨digit, small, rfl⟩ := exists_digitChar_of_mem_toDigits (by decide) (by decide) member
    rw [hexValue?_digitChar small]
    rfl
  have shown : showPiece piece = c :: rest := written
  refine ⟨c, rest, shown, ?_, ?_⟩
  · rintro rfl
    have := digits ':' (by rw [shown]; exact List.mem_cons_self)
    revert this
    decide
  · rw [← shown]
    exact List.all_eq_true.mpr digits

/-- The digits of a piece are taken from a text that goes on with no digit. -/
theorem takeWhile_showPiece {piece : Nat} (range : piece < 65536) (rest : List Char)
    (ends : rest.head?.all (· == ':')) :
    ((showPiece piece ++ rest).take 4).takeWhile (fun c => (hexValue? c).isSome) =
      showPiece piece := by
  obtain ⟨c, tail, written, _, digits⟩ := showPiece_eq_cons piece
  have short : (showPiece piece).length ≤ 4 :=
    (Nat.length_toDigits_le_iff (by decide) (by decide)).mpr range
  rw [← written, List.all_eq_true] at digits
  rw [List.take_append, List.take_of_length_le short, List.takeWhile_append_of_pos digits]
  cases rest with
  | nil => simp
  | cons first rest =>
      have colon : first = ':' := by simpa using ends
      cases room : 4 - (showPiece piece).length with
      | zero => simp
      | succ n =>
          rw [colon, List.take_succ_cons, List.takeWhile_cons_of_neg (by decide), List.append_nil]

/-- What is done after a piece: the end of the text, or a colon and more. -/
def readAfterPiece : List Char → Pieces → Option Pieces
  | [], pieces => some pieces
  | _ :: next :: after, pieces => readPieces (next :: after) pieces
  | [_], _ => none

/-- A piece is read back. -/
theorem readPieces_showPiece {piece : Nat} (range : piece < 65536) {pieces : Pieces}
    (room : pieces.reversed.length < 8) {rest : List Char} (ends : rest.head?.all (· == ':')) :
    readPieces (showPiece piece ++ rest) pieces = readAfterPiece rest (pieces.push piece) := by
  obtain ⟨c, tail, written, other, _⟩ := showPiece_eq_cons piece
  have taken := takeWhile_showPiece range rest ends
  have value : valueIn? 16 (showPiece piece) = some piece :=
    valueIn?_toDigits (by decide) (by decide) piece
  have dropped : (showPiece piece ++ rest).drop (showPiece piece).length = rest := List.drop_left
  rw [written, List.cons_append] at taken dropped ⊢
  rw [written] at value
  rw [readPieces, if_neg (Nat.ne_of_lt room), if_neg other]
  simp only [taken, value]
  generalize left : List.drop (List.length (List.takeWhile _ _)) _ = text
  rw [taken, dropped] at left
  rw [← left]
  cases rest with
  | nil => rfl
  | cons mark after =>
      have colon : mark = ':' := by simpa using ends
      rw [colon]
      cases after <;> rfl

/-- The pieces in a row. -/
def Pieces.pushAll (pieces : Pieces) (more : List Nat) : Pieces :=
  { pieces with reversed := more.reverse ++ pieces.reversed }

theorem Pieces.push_pushAll (pieces : Pieces) (piece : Nat) (more : List Nat) :
    (pieces.push piece).pushAll more = pieces.pushAll (piece :: more) := by
  simp [push, pushAll]

theorem joinWith_showPiece_cons_cons (piece next : Nat) (more : List Nat) :
    joinWith ':' ((piece :: next :: more).map showPiece) =
      showPiece piece ++ ':' :: joinWith ':' ((next :: more).map showPiece) :=
  rfl

/-- Written pieces do not begin with a colon. -/
theorem joinWith_showPiece_eq_cons (piece : Nat) (more : List Nat) :
    ∃ c rest, joinWith ':' ((piece :: more).map showPiece) = c :: rest ∧ c ≠ ':' := by
  obtain ⟨c, rest, written, other, _⟩ := showPiece_eq_cons piece
  cases more with
  | nil => exact ⟨c, rest, written, other⟩
  | cons next more =>
      refine ⟨c, rest ++ ':' :: joinWith ':' ((next :: more).map showPiece), ?_, other⟩
      rw [joinWith_showPiece_cons_cons, written, List.cons_append]

section

variable {pieces : Pieces} {more : List Nat}

/-- Pieces with colons between them are read back. -/
theorem readPieces_joinWith_append (full : more ≠ []) (small : ∀ piece ∈ more, piece < 65536)
    (room : pieces.reversed.length + more.length ≤ 8) {rest : List Char}
    (ends : rest.head?.all (· == ':')) :
    readPieces (joinWith ':' (more.map showPiece) ++ rest) pieces =
      readAfterPiece rest (pieces.pushAll more) := by
  induction more generalizing pieces with
  | nil => exact absurd rfl full
  | cons piece more ih =>
      obtain ⟨range, small⟩ := List.forall_mem_cons.mp small
      rw [List.length_cons] at room
      cases more with
      | nil => exact readPieces_showPiece range (by omega) ends
      | cons next more =>
          obtain ⟨c, tail, written, _⟩ := joinWith_showPiece_eq_cons next more
          have later : (pieces.push piece).reversed.length + (next :: more).length ≤ 8 := by
            simp only [Pieces.push, List.length_cons] at room ⊢
            omega
          rw [← Pieces.push_pushAll, ← ih (List.cons_ne_nil _ _) small later,
            joinWith_showPiece_cons_cons, List.append_assoc, List.cons_append,
            readPieces_showPiece range (by omega) rfl, written]
          rfl

theorem readPieces_joinWith (small : ∀ piece ∈ more, piece < 65536)
    (room : pieces.reversed.length + more.length ≤ 8) :
    readPieces (joinWith ':' (more.map showPiece)) pieces = some (pieces.pushAll more) := by
  cases more with
  | nil =>
      rw [List.map_nil, joinWith, readPieces]
      rfl
  | cons piece more =>
      have read := readPieces_joinWith_append (List.cons_ne_nil piece more) small room
        (rfl : ([] : List Char).head?.all (· == ':'))
      rwa [List.append_nil] at read

/-- The colon after a colon. -/
theorem readPieces_colon (fresh : pieces.compressed = none) (room : pieces.reversed.length < 8)
    (after : List Char) :
    readPieces (':' :: after) pieces =
      readPieces after ⟨0 :: pieces.reversed, some (pieces.reversed.length + 1)⟩ := by
  rw [readPieces, if_neg (Nat.ne_of_lt room), if_pos rfl, fresh]

end

/-! ### Runs of zeros -/

/-- At the start of the chosen run there are as many zeros. -/
theorem longestZeros_spec (pieces : List Nat) :
    (longestZeros pieces).2 ≤ zeroRun (pieces.drop (longestZeros pieces).1) := by
  refine List.foldlRecOn
    (motive := fun best : Nat × Nat => best.2 ≤ zeroRun (pieces.drop best.1)) _ _
    (Nat.zero_le _) fun best kept start _ => ?_
  dsimp only
  split_ifs
  · exact Nat.le_refl _
  · exact kept

theorem eq_replicate_append_drop {pieces : List Nat} {run : Nat} (le : run ≤ zeroRun pieces) :
    pieces = List.replicate run 0 ++ pieces.drop run := by
  induction run generalizing pieces with
  | zero => rfl
  | succ run ih =>
      cases pieces with
      | nil => cases le
      | cons piece pieces =>
          rcases Nat.eq_zero_or_pos piece with rfl | positive
          · rw [zeroRun, List.takeWhile_cons_of_pos rfl] at le
            exact congrArg (0 :: ·) (ih (Nat.le_of_succ_le_succ le))
          · rw [zeroRun, List.takeWhile_cons_of_neg (by simp; omega)] at le
            cases le

/-- The zeros of a double colon are filled in. -/
theorem filled?_compressed {front back : List Nat} {run : Nat} (positive : 0 < run)
    (eight : front.length + run + back.length = 8) :
    Pieces.filled? ⟨back.reverse ++ 0 :: front.reverse, some (front.length + 1)⟩ =
      some (front ++ List.replicate run 0 ++ back) := by
  obtain ⟨rest, rfl⟩ := Nat.exists_eq_succ_of_ne_zero (Nat.ne_of_gt positive)
  have zeros : 8 - (front ++ 0 :: back).length = rest := by
    rw [List.length_append, List.length_cons]
    omega
  have reversed : (back.reverse ++ 0 :: front.reverse).reverse = front ++ 0 :: back := by simp
  rw [Pieces.filled?, reversed]
  dsimp only
  rw [zeros]
  have split : front ++ 0 :: back = (front ++ [0]) ++ back := by simp
  have count : front.length + 1 = (front ++ [0]).length := by simp
  rw [split, count, List.take_left, List.drop_left, List.replicate_succ]
  simp

theorem readAllPieces_of_ne {c : Char} {text : List Char} (other : c ≠ ':') (more : text ≠ []) :
    readAllPieces (c :: text) = readPieces (c :: text) {} := by
  obtain ⟨d, text, rfl⟩ := List.exists_cons_of_ne_nil more
  rw [readAllPieces]
  · exact fun same _ => other same
  · exact other

/-- Pieces around a double colon. -/
theorem readAllPieces_compressed {front back : List Nat}
    (frontSmall : ∀ piece ∈ front, piece < 65536) (backSmall : ∀ piece ∈ back, piece < 65536)
    (room : front.length + back.length ≤ 6) :
    readAllPieces (joinWith ':' (front.map showPiece) ++ [':', ':'] ++
        joinWith ':' (back.map showPiece)) =
      some ⟨back.reverse ++ 0 :: front.reverse, some (front.length + 1)⟩ := by
  cases front with
  | nil =>
      change readPieces (joinWith ':' (back.map showPiece)) ⟨[0], some 1⟩ = _
      rw [readPieces_joinWith backSmall]
      · rfl
      · simp only [List.length_nil, List.length_cons] at room ⊢
        omega
  | cons piece front =>
      obtain ⟨c, rest, written, other⟩ := joinWith_showPiece_eq_cons piece front
      rw [List.append_assoc, List.cons_append, List.singleton_append, written, List.cons_append,
        readAllPieces_of_ne other (by simp), ← List.cons_append, ← written,
        readPieces_joinWith_append (List.cons_ne_nil _ _) frontSmall (by simp at room ⊢; omega) rfl,
        readAfterPiece, readPieces_colon rfl (by simp [Pieces.pushAll] at room ⊢; omega),
        readPieces_joinWith backSmall (by simp [Pieces.pushAll] at room ⊢; omega)]
      simp [Pieces.pushAll]

/-- The normal form is read as the pieces. -/
theorem parsePieces?_showPieces {pieces : List Nat} (range : ArePieces pieces) :
    parsePieces? (showPieces pieces).toList = some pieces := by
  obtain ⟨eight, small⟩ := range
  have zeros := longestZeros_spec pieces
  rw [showPieces]
  generalize longestZeros pieces = found at zeros
  obtain ⟨start, run⟩ := found
  dsimp only at zeros ⊢
  rw [parsePieces?]
  split_ifs with short
  · cases pieces with
    | nil => cases eight
    | cons first pieces =>
        cases pieces with
        | nil => cases eight
        | cons second more =>
            obtain ⟨c, tail, written, other, _⟩ := showPiece_eq_cons first
            have text := joinWith_showPiece_cons_cons first second more
            rw [written, List.cons_append] at text
            have read := readPieces_joinWith small
              (Nat.le_of_eq ((Nat.zero_add _).trans eight) : ({} : Pieces).reversed.length + _ ≤ 8)
            rw [String.toList_ofList, text, readAllPieces_of_ne other (by simp), ← text, read,
              Option.bind_some, Pieces.filled?]
            simp only [Pieces.pushAll, List.append_nil, List.reverse_reverse, eight, if_true]
  · have whole :
        pieces = pieces.take start ++ List.replicate run 0 ++ pieces.drop (start + run) := by
      rw [List.append_assoc, ← List.drop_drop, ← eq_replicate_append_drop zeros,
        List.take_append_drop]
    have count := congrArg List.length whole
    rw [List.length_append, List.length_append, List.length_replicate, eight] at count
    rw [String.toList_ofList, readAllPieces_compressed
        (fun piece member => small piece (List.mem_of_mem_take member))
        (fun piece member => small piece (List.mem_of_mem_drop member)) (by omega),
      Option.bind_some, filled?_compressed (by omega) count.symm, ← whole]

/-- The characters of the normal form. -/
theorem mem_showPieces {pieces : List Nat} {c : Char} (member : c ∈ (showPieces pieces).toList) :
    c = ':' ∨ ∃ digit < 16, c = digit.digitChar := by
  have joined {some : List Nat} (inside : c ∈ joinWith ':' (some.map showPiece)) :
      c = ':' ∨ ∃ digit < 16, c = digit.digitChar := by
    rcases mem_joinWith inside with rfl | ⟨part, listed, inPart⟩
    · exact .inl rfl
    · obtain ⟨piece, _, rfl⟩ := List.mem_map.mp listed
      exact .inr (exists_digitChar_of_mem_toDigits (by decide) (by decide) inPart)
  rw [showPieces] at member
  dsimp only at member
  split_ifs at member
  · rw [String.toList_ofList] at member
    exact joined member
  · rw [String.toList_ofList, List.mem_append, List.mem_append] at member
    rcases member with (front | colons) | back
    · exact joined front
    · exact .inl (by simpa using colons)
    · exact joined back

/-! ### Range -/

/-- The pieces read so far fit into an address. -/
def Pieces.InRange (pieces : Pieces) : Prop :=
  pieces.reversed.length ≤ 8 ∧ ∀ piece ∈ pieces.reversed, piece < 65536

theorem Pieces.InRange.push {pieces : Pieces} (before : pieces.InRange)
    (room : pieces.reversed.length ≠ 8) (piece : Nat) (small : piece < 65536) :
    (pieces.push piece).InRange := by
  refine ⟨?_, List.forall_mem_cons.mpr ⟨small, before.2⟩⟩
  have := before.1
  simp only [Pieces.push, List.length_cons]
  omega

theorem valueIn?_lt_of_take {digits whole : List Char} {p : Char → Bool} {piece : Nat}
    (taken : digits = (whole.take 4).takeWhile p) (value : valueIn? 16 digits = some piece) :
    piece < 65536 := by
  have short : digits.length ≤ 4 := by
    rw [taken]
    exact ((List.takeWhile_sublist p).length_le).trans (List.length_take_le 4 whole)
  calc piece
    _ < 16 ^ digits.length := valueIn?_lt value
    _ ≤ 16 ^ 4 := Nat.pow_le_pow_right (by decide) short

theorem le_of_byteParts? {text : List Char} {parts : List Nat}
    (read : byteParts? text = some parts) : ∀ part ∈ parts, part ≤ 255 := by
  rw [byteParts?, Option.bind_eq_bind, Option.bind_eq_some_iff] at read
  obtain ⟨found, _, read⟩ := read
  split_ifs at read with fits
  rw [Bool.and_eq_true, List.all_eq_true] at fits
  rw [← Option.some.inj read]
  exact fun part member => of_decide_eq_true (fits.2 part member)

theorem pair_lt {high low : Nat} (first : high ≤ 255) (second : low ≤ 255) :
    high * 256 + low < 65536 := by
  omega

theorem inRange_readPieces {text : List Char} {pieces read : Pieces} (before : pieces.InRange)
    (result : readPieces text pieces = some read) : read.InRange := by
  fun_induction readPieces text pieces with
  | case1 pieces => exact Option.some.inj result ▸ before
  | case2 | case3 | case6 | case8 | case10 | case11 => cases result
  | case4 pieces rest room fresh ih =>
      exact ih (before.push room 0 (Nat.two_pow_pos 16)) result
  | case5 pieces c rest room other whole digits ends =>
      obtain ⟨piece, value, rfl⟩ := Option.map_eq_some_iff.mp result
      exact before.push room _ (valueIn?_lt_of_take rfl value)
  | case7 pieces c rest room other whole digits tail ends few first second third fourth bytes =>
      have small := le_of_byteParts? bytes
      have last : pieces.reversed.length ≤ 6 := by simp at few; omega
      have high := pair_lt (small first (by simp)) (small second (by simp))
      have low := pair_lt (small third (by simp)) (small fourth (by simp))
      rw [← Option.some.inj result]
      refine (before.push room _ high).push ?_ _ low
      simp only [Pieces.push, List.length_cons]
      omega
  | case9 pieces c rest room other whole digits next after ends piece value ih =>
      exact ih (before.push room _ (valueIn?_lt_of_take rfl value)) result

/-- Eight pieces are read, each in range. -/
theorem arePieces_of_parsePieces? {text : List Char} {pieces : List Nat}
    (result : parsePieces? text = some pieces) : ArePieces pieces := by
  rw [parsePieces?, Option.bind_eq_some_iff] at result
  obtain ⟨read, all, filled⟩ := result
  have range : read.InRange := by
    unfold readAllPieces at all
    split at all
    · exact inRange_readPieces ⟨by decide, by simp⟩ all
    · cases all
    · exact inRange_readPieces ⟨by decide, by simp⟩ all
    · cases all
  have small : ∀ piece ∈ read.reversed.reverse, piece < 65536 := fun piece member =>
    range.2 piece (List.mem_reverse.mp member)
  have short := range.1
  rw [← List.length_reverse] at short
  rw [Pieces.filled?] at filled
  generalize read.reversed.reverse = whole at *
  split at filled
  · rw [← Option.some.inj filled]
    constructor
    · simp only [List.length_append, List.length_take, List.length_replicate, List.length_drop]
      omega
    · intro piece member
      rcases List.mem_append.mp member with front | back
      · rcases List.mem_append.mp front with front | zero
        · exact small piece (List.mem_of_mem_take front)
        · rw [List.eq_of_mem_replicate zero]
          exact Nat.two_pow_pos 16
      · exact small piece (List.mem_of_mem_drop back)
  · split_ifs at filled with eight
    rw [← Option.some.inj filled]
    exact ⟨eight, small⟩

end RouterTelemetry.Url
