import RouterTelemetry.Proofs.NormalUrls

/-!
# Web addresses are read back

The text of a web address in normal form is read as that address: each part ends where the mark of
the next one begins, and is in its encoded form already.
-/

namespace RouterTelemetry.Url

/-! ## Parts -/

section

variable {url : Url} {rest : List Char}

/-- A part with its mark, if there is one. -/
def marked (mark : Char) (part : Option (List Char)) : List Char :=
  part.elim [] (mark :: ·)

/-- The text of the port with its colon. -/
def portPart (url : Url) : List Char :=
  marked ':' (url.port.map (Nat.toDigits 10))

/-- The query with its mark. -/
def queryPart (url : Url) : List Char :=
  marked '?' (url.query.map String.toList)

/-- The fragment with its mark. -/
def fragmentPart (url : Url) : List Char :=
  marked '#' (url.fragment.map String.toList)

theorem mem_marked {mark c : Char} {part : Option (List Char)} (member : c ∈ marked mark part) :
    c = mark ∨ ∃ text ∈ part, c ∈ text := by
  cases part with
  | none => cases member
  | some text =>
      rcases List.mem_cons.mp member with same | inside
      · exact .inl same
      · exact .inr ⟨text, rfl, inside⟩

theorem head_marked {mark : Char} {part : Option (List Char)} :
    ∀ c ∈ (marked mark part).head?, c = mark := by
  cases part with
  | none => exact fun c member => absurd member (Option.not_mem_none c)
  | some text =>
      rintro c ⟨⟩
      rfl

theorem toList_href {host : Host} (given : url.host = some host) :
    url.href.toList = url.scheme.toList ++ ':' :: '/' :: '/' ::
      (url.credentials.toList ++ (host.text.toList ++ url.portPart) ++
        (url.path.toList ++ (url.queryPart ++ url.fragmentPart))) := by
  rw [href, authority, given, target, portPart, queryPart, fragmentPart]
  cases url.port <;> cases url.query <;> cases url.fragment <;> simp [marked]

/-- The user name and the password with the colon between them, if there is either. -/
def userText (url : Url) : Option (List Char) :=
  if url.user = "" ∧ url.password = "" then none
  else some (url.user.toList ++ if url.password = "" then [] else ':' :: url.password.toList)

theorem toList_credentials (url : Url) :
    url.credentials.toList = url.userText.elim [] (· ++ ['@']) := by
  rw [credentials, userText]
  split_ifs <;> simp

theorem splitUser_of_notMem (plain : '@' ∉ rest) : splitUser rest = (none, rest) := by
  rw [splitUser, afterLast_of_notMem plain]
  exact if_pos rfl

theorem splitUser_append (front : List Char) (plain : '@' ∉ rest) :
    splitUser (front ++ '@' :: rest) = (some front, rest) := by
  rw [splitUser, afterLast_append front plain,
    if_neg (length_ne_append_separator front rest '@'), take_beforeLast]

theorem splitUser_credentials (url : Url) (plain : '@' ∉ rest) :
    splitUser (url.credentials.toList ++ rest) = (url.userText, rest) := by
  rw [toList_credentials]
  cases url.userText with
  | none => exact splitUser_of_notMem plain
  | some text =>
      rw [Option.elim_some, List.append_assoc, List.singleton_append, splitUser_append text plain]

theorem Plain.ne {set : EncodeSet} {c d : Char} (plain : Plain set c) (listed : d ∈ set) :
    c ≠ d := by
  rintro rfl
  exact plain.2 listed

/-! ### Characters before the path -/

/-- The character stands in an authority. -/
def InAuthority (c : Char) : Prop :=
  isEdge c = false ∧ endsAuthority .web c = false

instance (c : Char) : Decidable (InAuthority c) :=
  inferInstanceAs (Decidable (_ ∧ _))

theorem Plain.inAuthority {c : Char} (plain : Plain userSet c) : InAuthority c := by
  refine ⟨plain.not_edge (by decide), ?_⟩
  simp [endsAuthority, isSlash, plain.ne (d := '/') (by decide), plain.ne (d := '\\') (by decide),
    plain.ne (d := '?') (by decide), plain.ne (d := '#') (by decide)]

theorem mem_portPart {c : Char} (member : c ∈ url.portPart) :
    c = ':' ∨ ∃ digit < 16, c = digit.digitChar := by
  rcases mem_marked member with colon | ⟨digits, given, inside⟩
  · exact .inl colon
  · obtain ⟨port, _, rfl⟩ := Option.map_eq_some_iff.mp given
    exact .inr (exists_digitChar_of_mem_toDigits (by decide) (by decide) inside)

theorem endsHost_portPart (url : Url) : EndsHost url.portPart := by
  rw [portPart]
  cases url.port with
  | none => exact .inl rfl
  | some port => exact .inr ⟨_, rfl⟩

theorem clear_portPart {c : Char} (member : c ∈ url.portPart) : InAuthority c ∧ c ≠ '@' := by
  rcases mem_portPart member with rfl | ⟨digit, small, rfl⟩
  · decide
  · have all : ∀ digit < 16, InAuthority digit.digitChar ∧ digit.digitChar ≠ '@' := by decide
    exact all digit small

theorem at_notMem {host : Host} (stands : host.Stands) :
    '@' ∉ host.text.toList ++ url.portPart := by
  intro member
  rcases List.mem_append.mp member with inHost | inPort
  · exact (stands.clear '@' inHost).2.2 rfl
  · exact (clear_portPart inPort).2 rfl

namespace Normal

theorem inAuthority_credentials (normal : url.Normal) :
    ∀ c ∈ url.credentials.toList, InAuthority c := by
  intro c member
  rw [toList_credentials, userText] at member
  split_ifs at member with neither noPassword
  · cases member
  · rw [List.append_nil, Option.elim_some, List.mem_append, List.mem_singleton] at member
    rcases member with inUser | rfl
    · exact (normal.user c inUser).inAuthority
    · decide
  · rw [Option.elim_some, List.mem_append, List.mem_append, List.mem_cons, List.mem_singleton]
      at member
    rcases member with (inUser | rfl | inPassword) | rfl
    · exact (normal.user c inUser).inAuthority
    · decide
    · exact (normal.password c inPassword).inAuthority
    · decide

theorem inAuthority (normal : url.Normal) {host : Host} (stands : host.Stands) :
    ∀ c ∈ url.credentials.toList ++ (host.text.toList ++ url.portPart), InAuthority c := by
  intro c member
  rcases List.mem_append.mp member with inCredentials | member
  · exact normal.inAuthority_credentials c inCredentials
  · rcases List.mem_append.mp member with inHost | inPort
    · obtain ⟨noEdge, inside, _⟩ := stands.clear c inHost
      exact ⟨noEdge, inside⟩
    · exact (clear_portPart inPort).1

/-! ### Reading the authority -/

theorem userOf_userText (normal : url.Normal) :
    userOf (url.userText.getD []) = (url.user, url.password) := by
  have colon : ':' ∉ url.user.toList := fun member => (normal.user ':' member).ne (by decide) rfl
  have noMark : ∀ c ∈ url.user.toList, (c != ':') = true := fun c member =>
    bne_iff_ne.mpr ((normal.user c member).ne (by decide))
  have user := encode_of_plain normal.user
  have password := encode_of_plain normal.password
  rw [userText]
  split_ifs with neither noPassword
  · rw [neither.1, neither.2]
    rfl
  · rw [List.append_nil, Option.getD_some, userOf, takeWhile_of_notMem colon, noPassword, user,
      String.ofList_toList, List.dropWhile_eq_nil_iff.mpr noMark]
    rfl
  · rw [Option.getD_some, userOf, takeWhile_append_separator colon, user, String.ofList_toList,
      dropWhile_append_of_head noMark (by simp), List.drop_one, List.tail_cons, password,
      String.ofList_toList]

theorem portOf_portPart (normal : url.Normal) :
    portOf .web url.scheme url.portPart = .ok url.port := by
  have bounds := normal.port
  rw [portPart]
  cases port : url.port with
  | none => rfl
  | some number =>
      rw [port] at bounds
      obtain ⟨small, explicit⟩ := bounds number rfl
      have digits : (Nat.toDigits 10 number).all Char.isDigit :=
        List.all_eq_true.mpr fun c => Nat.isDigit_of_mem_toDigits (by decide) (by decide)
      have value := valueIn?_toDigits (by decide) (by decide : 10 ≤ 16) number
      change readPort url.scheme (Nat.toDigits 10 number) = _
      rw [readPort, if_pos digits, value]
      simp [Nat.not_lt.mpr small, explicit, Nat.toDigits_ne_nil]

/-- The authority is read back. -/
theorem readAuthority_text (normal : url.Normal) {host : Host} (stands : host.Stands) :
    readAuthority .web { scheme := url.scheme }
        (url.credentials.toList ++ (host.text.toList ++ url.portPart)) false =
      .ok { scheme := url.scheme, user := url.user, password := url.password, host := some host,
            port := url.port } := by
  have full : (host.text.toList ++ url.portPart).isEmpty = false := by
    simp [stands.full]
  have named : host ≠ .named "" := by
    rintro rfl
    exact stands.full rfl
  unfold readAuthority
  rw [splitUser_credentials url (at_notMem stands)]
  dsimp only
  rw [normal.userOf_userText, stands.split _ (endsHost_portPart url)]
  dsimp only
  rw [if_neg (by simp [full]), if_neg (by simp [stands.full])]
  change (Host.ofWeb host.text.toList >>= _) = _
  rw [stands.reads]
  change (if host = .named "" ∧ _ then _ else _) = _
  rw [if_neg fun empty => named empty.1, normal.portOf_portPart]
  rfl

end Normal

/-! ### Reading the rest -/

theorem head_tail (url : Url) :
    ∀ c ∈ (url.queryPart ++ url.fragmentPart).head?, beginsTail c = true := by
  intro c member
  have mark : c = '?' ∨ c = '#' := by
    rw [List.head?_append] at member
    rcases Option.or_eq_some_iff.mp member with query | ⟨_, fragment⟩
    · exact .inl (head_marked c query)
    · exact .inr (head_marked c fragment)
  rcases mark with rfl | rfl <;> rfl

namespace Normal

theorem mem_queryPart (normal : url.Normal) {c : Char} (member : c ∈ url.queryPart) :
    Plain webQuerySet c := by
  rcases mem_marked member with rfl | ⟨text, given, inside⟩
  · decide
  · obtain ⟨query, isQuery, rfl⟩ := Option.map_eq_some_iff.mp given
    exact normal.query query isQuery c inside

theorem mem_fragmentPart (normal : url.Normal) {c : Char} (member : c ∈ url.fragmentPart) :
    Plain fragmentSet c := by
  rcases mem_marked member with rfl | ⟨text, given, inside⟩
  · decide
  · obtain ⟨fragment, isFragment, rfl⟩ := Option.map_eq_some_iff.mp given
    exact normal.fragment fragment isFragment c inside

/-- Query and fragment are read back. -/
theorem readTail_text (normal : url.Normal) (front : Url) :
    readTail .web front (url.queryPart ++ url.fragmentPart) =
      { front with query := url.query, fragment := url.fragment } := by
  have inside : ∀ c ∈ url.queryPart, (c != '#') = true := fun c member =>
    bne_iff_ne.mpr ((normal.mem_queryPart member).ne (by decide))
  have stops : ∀ c ∈ url.fragmentPart.head?, (c != '#') = false := by
    intro c member
    rw [head_marked c member]
    rfl
  have query := normal.query
  have fragment := normal.fragment
  rw [readTail, takeWhile_append_of_head inside stops, dropWhile_append_of_head inside stops,
    queryPart, fragmentPart]
  cases givenQuery : url.query <;> cases givenFragment : url.fragment
  all_goals
    simp_all [marked, encode_of_plain, Kind.isSpecial]

/-- A path ends where the query or the fragment begins. -/
theorem mem_path (normal : url.Normal) : ∀ c ∈ url.path.toList, Plain pathSet c := by
  obtain ⟨segments, _, settled, path⟩ := normal.path
  rw [path, String.toList_ofList]
  intro c member
  rcases mem_slashed member with rfl | ⟨segment, listed, inside⟩
  · decide
  · exact (settled segment listed).plain c inside

theorem head_path (normal : url.Normal) : url.path.toList.head? = some '/' := by
  obtain ⟨segments, full, _, path⟩ := normal.path
  rw [path, String.toList_ofList, ← slash_joinWith full]
  rfl

theorem readPath_path (normal : url.Normal) : readPath .web url.path.toList = url.path := by
  obtain ⟨segments, full, settled, path⟩ := normal.path
  rw [path, String.toList_ofList, readPath_slashed full settled]

/-- What follows the slashes is read back. -/
theorem readHierarchy_text (normal : url.Normal) {host : Host} (given : url.host = some host)
    (stands : host.Stands) :
    readHierarchy .web url.scheme
        (url.credentials.toList ++ (host.text.toList ++ url.portPart) ++
          (url.path.toList ++ (url.queryPart ++ url.fragmentPart))) = .ok url := by
  have authority : ∀ c ∈ url.credentials.toList ++ (host.text.toList ++ url.portPart),
      (!endsAuthority .web c) = true := by
    intro c member
    rw [(normal.inAuthority stands c member).2]
    rfl
  have slash : ∀ c ∈ (url.path.toList ++ (url.queryPart ++ url.fragmentPart)).head?,
      (!endsAuthority .web c) = false := by
    rw [List.head?_append, normal.head_path]
    rintro c ⟨⟩
    rfl
  have path : ∀ c ∈ url.path.toList, (!beginsTail c) = true := by
    intro c member
    have plain := normal.mem_path c member
    simp [beginsTail, plain.ne (d := '?') (by decide), plain.ne (d := '#') (by decide)]
  have tail : ∀ c ∈ (url.queryPart ++ url.fragmentPart).head?, (!beginsTail c) = false := by
    intro c member
    rw [head_tail url c member]
    rfl
  have notEnd : (url.path.toList ++ (url.queryPart ++ url.fragmentPart)).isEmpty = false := by
    refine List.isEmpty_eq_false_iff.mpr fun empty => ?_
    have head := normal.head_path
    rw [(List.append_eq_nil_iff.mp empty).1] at head
    cases head
  rw [readHierarchy, takeWhile_append_of_head authority slash,
    dropWhile_append_of_head authority slash, notEnd, takeWhile_append_of_head path tail,
    dropWhile_append_of_head path tail, normal.readPath_path, normal.readAuthority_text stands]
  change Except.ok (readTail .web _ _) = _
  rw [normal.readTail_text, ← given]

end Normal

/-! ## The whole -/

theorem isLineBreak_of_not_edge {c : Char} (noEdge : isEdge c = false) : isLineBreak c = false := by
  refine Bool.eq_false_iff.mpr fun lineBreak => Bool.false_ne_true (noEdge.symm.trans ?_)
  simp only [isLineBreak, Bool.or_eq_true, beq_iff_eq] at lineBreak
  rcases lineBreak with (rfl | rfl) | rfl <;> rfl

theorem dropWhile_isEdge {text : List Char} (clear : ∀ c ∈ text, isEdge c = false) :
    text.dropWhile isEdge = text := by
  cases text with
  | nil => rfl
  | cons c text =>
      exact List.dropWhile_cons_of_neg (Bool.eq_false_iff.mp (clear c List.mem_cons_self))

theorem cleaned_of_clear {text : String} (clear : ∀ c ∈ text.toList, isEdge c = false) :
    cleaned text = text.toList := by
  rw [cleaned, dropWhile_isEdge clear,
    dropWhile_isEdge fun c member => clear c (List.mem_reverse.mp member), List.reverse_reverse]
  refine List.filter_eq_self.mpr fun c member => ?_
  rw [isLineBreak_of_not_edge (clear c member)]
  rfl

/-- The schemes of the web. -/
theorem mem_of_kindOf_web {scheme : String} (web : kindOf scheme = .web) :
    scheme = "http" ∨ scheme = "https" ∨ scheme = "ws" ∨ scheme = "wss" ∨ scheme = "ftp" := by
  rw [kindOf] at web
  split_ifs at web with file listed
  simpa using listed

theorem splitScheme?_web {scheme : String} (web : kindOf scheme = .web) (rest : List Char) :
    splitScheme? (scheme.toList ++ ':' :: rest) = some (scheme.toList, rest) := by
  rcases mem_of_kindOf_web web with rfl | rfl | rfl | rfl | rfl <;> rfl

namespace Normal

theorem clear_scheme (normal : url.Normal) : ∀ c ∈ url.scheme.toList, isEdge c = false := by
  have all : url.scheme.toList.all (isEdge · == false) := by
    rcases mem_of_kindOf_web normal.scheme with same | same | same | same | same
    all_goals
      rw [same]
      decide
  exact fun c member => eq_of_beq (List.all_eq_true.mp all c member)

/-- Nothing is dropped from the text of a URL. -/
theorem cleaned_href (normal : url.Normal) : cleaned url.href = url.href.toList := by
  obtain ⟨host, given, stands⟩ := normal.host
  refine cleaned_of_clear fun c member => ?_
  rw [toList_href given, List.mem_append, List.mem_cons, List.mem_cons, List.mem_cons,
    List.mem_append] at member
  rcases member with inScheme | rfl | rfl | rfl | inAuthority | behind
  · exact normal.clear_scheme c inScheme
  · rfl
  · rfl
  · rfl
  · exact (normal.inAuthority stands c inAuthority).1
  · rw [List.mem_append, List.mem_append] at behind
    rcases behind with inPath | inQuery | inFragment
    · exact (normal.mem_path c inPath).not_edge (by decide)
    · exact (normal.mem_queryPart inQuery).not_edge (by decide)
    · exact (normal.mem_fragmentPart inFragment).not_edge (by decide)

/-- The text of a URL in normal form is read as that URL. -/
theorem parse_href (normal : url.Normal) : parse url.href = .ok url := by
  obtain ⟨host, given, stands⟩ := normal.host
  have noSlash : ∀ c ∈ (url.credentials.toList ++ (host.text.toList ++ url.portPart) ++
      (url.path.toList ++ (url.queryPart ++ url.fragmentPart))).head?,
      isSlash .web c = false := by
    intro c member
    have full : url.credentials.toList ++ (host.text.toList ++ url.portPart) ≠ [] := by
      simp [stands.full]
    rw [List.head?_append_of_ne_nil _ full] at member
    have inside := (normal.inAuthority stands c (List.mem_of_mem_head? member)).2
    simp only [endsAuthority, Bool.or_eq_false_iff] at inside
    exact inside.1.1
  rw [parse, normal.cleaned_href, toList_href given, splitScheme?_web normal.scheme]
  dsimp only
  rw [String.ofList_toList, normal.scheme]
  dsimp only
  have slashes : ∀ c ∈ ['/', '/'], isSlash .web c = true := by simp [isSlash]
  have behind := dropWhile_append_of_head slashes noSlash
  rw [List.cons_append, List.singleton_append] at behind
  rw [behind, normal.readHierarchy_text given stands]

end Normal

end

end RouterTelemetry.Url
