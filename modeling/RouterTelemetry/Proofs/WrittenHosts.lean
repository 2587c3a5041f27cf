import RouterTelemetry.Proofs.EncodedLabels
import RouterTelemetry.Proofs.StringReading
import RouterTelemetry.Proofs.WrittenAddresses
import RouterTelemetry.Url.Basic

/-!
# Hosts are read back

Reading a domain name a second time changes nothing: its labels are in ASCII by then, in lower case
and properly encoded.  So the text of every host that has been read is read as that host, and it is
found as a whole in an authority.
-/

namespace RouterTelemetry.Url

/-! ## Labels -/

/-- The label is in its ASCII form. -/
structure AsciiLabel (label : List Char) : Prop where
  ascii : ∀ c ∈ label, c.toNat < 128
  stands : ∀ c ∈ label, standsForItself c
  whole : '.' ∉ label
  reads : asciiLabel? label = some label

/-- Letters that need no mapping make a label, unless it only looks like an encoded one. -/
theorem asciiLabel_of_letters {label : List Char}
    (letters : ∀ c ∈ label, c.toNat < 128 ∧ standsForItself c ∧ c ≠ '.')
    (proper : label.take 4 = encodedMark → isProperEncoding (label.drop 4) = true) :
    AsciiLabel label := by
  have ascii : label.all (·.toNat < 128) :=
    List.all_eq_true.mpr fun c member => decide_eq_true (letters c member).1
  have standing : label.all standsForItself :=
    List.all_eq_true.mpr fun c member => (letters c member).2.1
  refine ⟨fun c member => (letters c member).1, fun c member => (letters c member).2.1,
    fun point => (letters '.' point).2.2 rfl, ?_⟩
  rw [asciiLabel?, if_pos ascii, standing, Bool.not_true, if_neg Bool.false_ne_true, if_neg]
  rintro ⟨mark, improper⟩
  exact Bool.false_ne_true (improper.symm.trans (proper mark))

theorem asciiLabel_encoded {label encoded : List Char} (whole : '.' ∉ label)
    (beyond : label.any (128 ≤ ·.toNat)) (proper : isProperLabel label)
    (written : Punycode.encode? label = some encoded) : AsciiLabel (encodedMark ++ encoded) := by
  have stands : ∀ c ∈ label, standsForItself c := by
    simp only [isProperLabel, Bool.and_eq_true, List.all_eq_true] at proper
    exact proper.1.1.1
  refine asciiLabel_of_letters (fun c member => ?_) fun _ => ?_
  · rcases List.mem_append.mp member with mark | member
    · have all : encodedMark.all fun c => c.toNat < 128 ∧ standsForItself c ∧ c ≠ '.' := by decide
      exact of_decide_eq_true (List.all_eq_true.mp all c mark)
    · rcases Punycode.mem_of_encode? written member with ⟨inLabel, ascii⟩ | rfl | digit
      · refine ⟨ascii, stands c inLabel, ?_⟩
        rintro rfl
        exact whole inLabel
      · decide
      · obtain ⟨value, small, rfl⟩ := digit
        have all : ∀ value < 36, (Punycode.digitChar value).toNat < 128 ∧
            standsForItself (Punycode.digitChar value) ∧ Punycode.digitChar value ≠ '.' := by
          decide
        exact all value small
  · have rest : (encodedMark ++ encoded).drop 4 = encoded := rfl
    rw [rest, isProperEncoding, Punycode.decode?_of_encode? written]
    dsimp only
    rw [beyond, proper]
    rfl

theorem asciiLabel_of_asciiLabel? {label text : List Char} (whole : '.' ∉ label)
    (written : asciiLabel? label = some text) : AsciiLabel text := by
  have result := written
  rw [asciiLabel?] at written
  split_ifs at written with ascii standing improper proper
  · cases Option.some.inj written
    refine ⟨?_, ?_, whole, result⟩
    · simpa using ascii
    · simpa using standing
  · obtain ⟨encoded, given, rfl⟩ := Option.map_eq_some_iff.mp written
    refine asciiLabel_encoded whole ?_ proper given
    simpa using ascii

theorem asciiLabel_toDigits (n : Nat) : AsciiLabel (Nat.toDigits 10 n) := by
  have letters : ∀ c ∈ Nat.toDigits 10 n,
      c.toNat < 128 ∧ standsForItself c ∧ c ≠ '.' ∧ c ≠ 'x' := by
    intro c member
    obtain ⟨digit, small, rfl⟩ := exists_digitChar_of_mem_toDigits (by decide) (by decide) member
    have all : ∀ digit < 16, digit.digitChar.toNat < 128 ∧ standsForItself digit.digitChar ∧
        digit.digitChar ≠ '.' ∧ digit.digitChar ≠ 'x' := by decide
    exact all digit small
  refine asciiLabel_of_letters (fun c member => ?_) fun mark => ?_
  · obtain ⟨ascii, stands, noPoint, _⟩ := letters c member
    exact ⟨ascii, stands, noPoint⟩
  · have first : 'x' ∈ (Nat.toDigits 10 n).take 4 := by
      rw [mark]
      decide
    exact absurd rfl (letters 'x' (List.mem_of_mem_take first)).2.2.2

/-! ## Domain names -/

section

variable {f : List Char → Option (List Char)} {parts labels : List (List Char)}

theorem mapM_eq_self (each : ∀ label ∈ labels, f label = some label) :
    labels.mapM f = some labels := by
  induction labels with
  | nil => rfl
  | cons label labels ih =>
      obtain ⟨first, each⟩ := List.forall_mem_cons.mp each
      rw [List.mapM_cons, first, ih each]
      rfl

theorem exists_of_mem_mapM (given : parts.mapM f = some labels) :
    ∀ label ∈ labels, ∃ part ∈ parts, f part = some label := by
  induction parts generalizing labels with
  | nil =>
      cases given
      exact fun label member => absurd member List.not_mem_nil
  | cons part parts ih =>
      rw [List.mapM_cons] at given
      obtain ⟨label, first, given⟩ := Option.bind_eq_some_iff.mp given
      obtain ⟨rest, later, given⟩ := Option.bind_eq_some_iff.mp given
      cases Option.some.inj given
      refine List.forall_mem_cons.mpr ⟨⟨part, List.mem_cons_self, first⟩, fun label member => ?_⟩
      obtain ⟨other, listed, written⟩ := ih later label member
      exact ⟨other, List.mem_cons_of_mem part listed, written⟩

theorem ne_nil_of_mapM (given : parts.mapM f = some labels) (some : parts ≠ []) : labels ≠ [] := by
  obtain ⟨part, parts, rfl⟩ := List.exists_cons_of_ne_nil some
  rw [List.mapM_cons] at given
  obtain ⟨label, _, given⟩ := Option.bind_eq_some_iff.mp given
  obtain ⟨rest, _, given⟩ := Option.bind_eq_some_iff.mp given
  cases Option.some.inj given
  exact List.cons_ne_nil _ _

end

/-- The name is a domain name in its ASCII form. -/
structure AsciiDomain (name : List Char) : Prop where
  reads : asciiDomain? name = some name
  allowed : ∀ c ∈ name, isForbiddenInDomain c = false

/-- Labels make a name. -/
theorem asciiDomain_joinWith {labels : List (List Char)} (some : labels ≠ [])
    (each : ∀ label ∈ labels, AsciiLabel label)
    (allowed : ∀ c ∈ joinWith '.' labels, isForbiddenInDomain c = false) :
    AsciiDomain (joinWith '.' labels) := by
  have letters : ∀ c ∈ joinWith '.' labels, c.toNat < 128 ∧ mapInDomain c = [c] := by
    intro c member
    rcases mem_joinWith member with rfl | ⟨label, listed, inside⟩
    · decide
    · exact ⟨(each label listed).ascii c inside, eq_of_beq ((each label listed).stands c inside)⟩
  have mapped : (joinWith '.' labels).flatMap mapInDomain = joinWith '.' labels :=
    (List.flatMap_congr fun c member => (letters c member).2).trans (List.flatMap_singleton' _)
  have ascii : (joinWith '.' labels).all (·.toNat < 128) :=
    List.all_eq_true.mpr fun c member => decide_eq_true (letters c member).1
  have noneForbidden : (joinWith '.' labels).any isForbiddenInDomain = false :=
    List.any_eq_false.mpr fun c member => Bool.eq_false_iff.mp (allowed c member)
  refine ⟨?_, allowed⟩
  rw [asciiDomain?, mapped, if_pos ascii,
    splitAt_joinWith some fun label listed => (each label listed).whole,
    mapM_eq_self fun label listed => (each label listed).reads]
  exact if_neg (Bool.eq_false_iff.mp noneForbidden)

theorem asciiDomain_of_asciiDomain? {name ascii : List Char}
    (written : asciiDomain? name = some ascii) : AsciiDomain ascii := by
  rw [asciiDomain?] at written
  obtain ⟨labels, given, written⟩ := Option.bind_eq_some_iff.mp written
  dsimp only at written
  split_ifs at written with forbidden
  cases Option.some.inj written
  refine asciiDomain_joinWith (ne_nil_of_mapM given (splitAt_ne_nil _ _))
    (fun label listed => ?_) ?_
  · obtain ⟨part, inName, encoded⟩ := exists_of_mem_mapM given label listed
    exact asciiLabel_of_asciiLabel? (notMem_of_mem_splitAt inName) encoded
  · simpa using forbidden

theorem asciiDomain_showAddress (address : Nat) : AsciiDomain (showAddress address).toList := by
  rw [toList_showAddress]
  have labels : ∀ label ∈ byteDigits address, AsciiLabel label := by
    intro label member
    obtain ⟨unit, _, rfl⟩ := List.mem_map.mp member
    exact asciiLabel_toDigits _
  refine asciiDomain_joinWith (by simp [byteDigits]) labels fun c member => ?_
  rcases mem_joinWith member with rfl | ⟨label, listed, inside⟩
  · rfl
  · obtain ⟨unit, _, rfl⟩ := List.mem_map.mp listed
    obtain ⟨digit, small, rfl⟩ := exists_digitChar_of_mem_toDigits (by decide) (by decide) inside
    have all : ∀ digit < 16, isForbiddenInDomain digit.digitChar = false := by decide
    exact all digit small

/-! ## Hosts -/

theorem decodeBytes_of_notMem {text : List Char} (plain : '%' ∉ text) :
    decodeBytes text = text.flatMap String.utf8EncodeChar := by
  induction text with
  | nil => rfl
  | cons c text ih =>
      obtain ⟨other, plain⟩ := not_or.mp (List.mem_cons.not.mp plain)
      rw [decodeBytes, ih plain, List.flatMap_cons]
      exact fun _ _ _ same => absurd same.symm other

namespace AsciiDomain

variable {name : List Char}

theorem notMem (domain : AsciiDomain name) {c : Char} (forbidden : isForbiddenInDomain c = true) :
    c ∉ name := fun member =>
  Bool.false_ne_true ((domain.allowed c member).symm.trans forbidden)

theorem head_ne (domain : AsciiDomain name) : name.head? ≠ some '[' := fun bracket =>
  domain.notMem rfl (List.mem_of_mem_head? bracket)

theorem decoded (domain : AsciiDomain name) :
    ((Json.utf8Text? (decodeBytes name)).bind fun text => asciiDomain? text.toList) =
      some name := by
  rw [decodeBytes_of_notMem (domain.notMem rfl), Json.utf8Text?_flatMap, Option.bind_some,
    String.toList_ofList, domain.reads]

theorem ofWeb_fourBytes (domain : AsciiDomain name) (full : name ≠ [])
    (number : endsInNumber name = true) {address : Nat}
    (read : parseAddress? name = some address) : Host.ofWeb name = .ok (.fourBytes address) := by
  obtain ⟨c, rest, rfl⟩ := List.exists_cons_of_ne_nil full
  rw [Host.ofWeb, if_neg domain.head_ne, domain.decoded]
  dsimp only
  rw [if_pos number, read]

theorem ofWeb_named (domain : AsciiDomain name) (full : name ≠ [])
    (noNumber : endsInNumber name = false) :
    Host.ofWeb name = .ok (.named (String.ofList name)) := by
  obtain ⟨c, rest, rfl⟩ := List.exists_cons_of_ne_nil full
  rw [Host.ofWeb, if_neg domain.head_ne, domain.decoded]
  dsimp only
  rw [if_neg (Bool.eq_false_iff.mp noNumber)]

end AsciiDomain

/-! ### Within an authority -/

/-- The host ends before a port or at the end. -/
def EndsHost (rest : List Char) : Prop :=
  rest = [] ∨ ∃ digits, rest = ':' :: digits

theorem splitHost_of_endsHost {rest : List Char} (ends : EndsHost rest) :
    splitHost false rest = ([], rest) := by
  rcases ends with rfl | ⟨digits, rfl⟩
  · rfl
  · rfl

theorem splitHost_append {host rest : List Char} (ends : EndsHost rest)
    (plain : ∀ c ∈ host, c ≠ ':' ∧ c ≠ '[') :
    splitHost false (host ++ rest) = (host, rest) := by
  induction host with
  | nil => exact splitHost_of_endsHost ends
  | cons c host ih =>
      obtain ⟨⟨noColon, noBracket⟩, plain⟩ := List.forall_mem_cons.mp plain
      rw [List.cons_append, splitHost]
      simp [noColon, noBracket, ih plain]

theorem splitHost_bracketed {inner rest : List Char} (ends : EndsHost rest)
    (plain : ∀ c ∈ inner, c ≠ '[' ∧ c ≠ ']') :
    splitHost true (inner ++ ']' :: rest) = (inner ++ [']'], rest) := by
  induction inner with
  | nil =>
      rw [List.nil_append, splitHost]
      simp [splitHost_of_endsHost ends]
  | cons c inner ih =>
      obtain ⟨⟨noOpening, noClosing⟩, plain⟩ := List.forall_mem_cons.mp plain
      rw [List.cons_append, splitHost]
      simp [noOpening, noClosing, ih plain]

/-- The text of the host is read as that host, and is found as a whole in an authority. -/
structure Host.Stands (host : Host) : Prop where
  reads : Host.ofWeb host.text.toList = .ok host
  full : host.text.toList ≠ []
  clear : ∀ c ∈ host.text.toList, isEdge c = false ∧ endsAuthority .web c = false ∧ c ≠ '@'
  split : ∀ rest, EndsHost rest →
    splitHost false (host.text.toList ++ rest) = (host.text.toList, rest)

namespace Host

theorem stands_eightPieces {pieces : List Nat} (range : ArePieces pieces) :
    (Host.eightPieces pieces).Stands := by
  have text : (Host.eightPieces pieces).text.toList =
      '[' :: ((showPieces pieces).toList ++ [']']) := by
    simp [Host.text]
  have letters : ∀ c ∈ (showPieces pieces).toList,
      c ≠ '[' ∧ c ≠ ']' ∧ isEdge c = false ∧ endsAuthority .web c = false ∧ c ≠ '@' := by
    intro c member
    rcases mem_showPieces member with rfl | ⟨digit, small, rfl⟩
    · decide
    · have all : ∀ digit < 16, digit.digitChar ≠ '[' ∧ digit.digitChar ≠ ']' ∧
          isEdge digit.digitChar = false ∧ endsAuthority .web digit.digitChar = false ∧
          digit.digitChar ≠ '@' := by decide
      exact all digit small
  constructor
  · have last : ('[' :: ((showPieces pieces).toList ++ [']'])).getLast? = some ']' := by
      rw [← List.cons_append, List.getLast?_concat]
    rw [text, ofWeb, if_pos (by rfl), bracketed, if_pos last]
    simp [parsePieces?_showPieces range]
  · rw [text]
    exact List.cons_ne_nil _ _
  · rw [text]
    intro c member
    rcases List.mem_cons.mp member with rfl | member
    · decide
    · rcases List.mem_append.mp member with inside | last
      · exact (letters c inside).2.2
      · rw [List.mem_singleton.mp last]
        decide
  · intro rest ends
    rw [text, List.cons_append, List.append_assoc, List.singleton_append, splitHost]
    simp [splitHost_bracketed ends fun c member => ⟨(letters c member).1, (letters c member).2.1⟩]

/-- A character that a domain name may have. -/
theorem clear_of_allowed {c : Char} (allowed : isForbiddenInDomain c = false) :
    isEdge c = false ∧ endsAuthority .web c = false ∧ c ≠ '@' ∧ c ≠ ':' ∧ c ≠ '[' := by
  have ne {d : Char} (forbidden : isForbiddenInDomain d = true) : c ≠ d := by
    rintro rfl
    exact Bool.false_ne_true (allowed.symm.trans forbidden)
  have noEdge : isEdge c = false := by
    simp only [isForbiddenInDomain, Bool.or_eq_false_iff, decide_eq_false_iff_not] at allowed
    exact decide_eq_false allowed.1.1
  have inside : endsAuthority .web c = false := by
    simp [endsAuthority, isSlash, ne (d := '/') rfl, ne (d := '\\') rfl, ne (d := '?') rfl,
      ne (d := '#') rfl]
  exact ⟨noEdge, inside, ne rfl, ne rfl, ne rfl⟩

theorem stands_of_domain {host : Host} (domain : AsciiDomain host.text.toList)
    (full : host.text.toList ≠ []) (reads : Host.ofWeb host.text.toList = .ok host) :
    host.Stands where
  reads := reads
  full := full
  clear c member := by
    obtain ⟨noEdge, inside, noAt, _⟩ := clear_of_allowed (domain.allowed c member)
    exact ⟨noEdge, inside, noAt⟩
  split rest ends := splitHost_append ends fun c member =>
    (clear_of_allowed (domain.allowed c member)).2.2.2

theorem stands_fourBytes {address : Nat} (range : address < 2 ^ 32) :
    (Host.fourBytes address).Stands := by
  have domain := asciiDomain_showAddress address
  have number := endsInNumber_showAddress address
  have full : (showAddress address).toList ≠ [] := by
    intro empty
    rw [empty] at number
    cases number
  exact stands_of_domain domain full
    (domain.ofWeb_fourBytes full number (parseAddress?_showAddress range))

/-- Every host that has been read stands for itself. -/
theorem stands_of_ofWeb {text : List Char} {host : Host} (read : Host.ofWeb text = .ok host) :
    host.Stands := by
  rw [Host.ofWeb] at read
  split_ifs at read with bracket
  · rw [bracketed] at read
    split_ifs at read
    cases given : parsePieces? (text.drop 1).dropLast with
    | none =>
        rw [given] at read
        cases read
    | some pieces =>
        rw [given] at read
        cases Except.ok.inj read
        exact stands_eightPieces (arePieces_of_parsePieces? given)
  · cases given : (Json.utf8Text? (decodeBytes text)).bind fun name => asciiDomain? name.toList with
    | none =>
        rw [given] at read
        cases read
    | some name =>
        rw [given] at read
        obtain ⟨decoded, _, ascii⟩ := Option.bind_eq_some_iff.mp given
        have domain := asciiDomain_of_asciiDomain? ascii
        cases name with
        | nil => cases read
        | cons c rest =>
            dsimp only at read
            split_ifs at read with number
            · cases address : parseAddress? (c :: rest) with
              | none =>
                  rw [address] at read
                  cases read
              | some address' =>
                  rw [address] at read
                  cases Except.ok.inj read
                  exact stands_fourBytes (lt_of_parseAddress? address)
            · cases Except.ok.inj read
              have text : (named (String.ofList (c :: rest))).text.toList = c :: rest :=
                String.toList_ofList
              have full : c :: rest ≠ [] := List.cons_ne_nil c rest
              refine stands_of_domain ?_ ?_ ?_
              · rwa [text]
              · rwa [text]
              · rw [text]
                exact domain.ofWeb_named full (Bool.eq_false_iff.mpr number)

end Host

end RouterTelemetry.Url
