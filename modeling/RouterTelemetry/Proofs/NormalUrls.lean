import RouterTelemetry.Proofs.ResolvedPath
import RouterTelemetry.Proofs.Results
import RouterTelemetry.Proofs.WrittenHosts

/-!
# Normal forms of web addresses

A web address that has been read is in normal form: its parts are encoded, its host stands for
itself and its path is resolved.
-/

namespace RouterTelemetry.Url

/-- The URL is a web address with all its parts in normal form. -/
structure Normal (url : Url) : Prop where
  scheme : kindOf url.scheme = .web
  user : ∀ c ∈ url.user.toList, Plain userSet c
  password : ∀ c ∈ url.password.toList, Plain userSet c
  host : ∃ host, url.host = some host ∧ host.Stands
  port : ∀ port ∈ url.port, port ≤ 65535 ∧ defaultPort? url.scheme ≠ some port
  path : ∃ segments ≠ [], (∀ segment ∈ segments, Settled segment) ∧
    url.path = String.ofList (slashed segments)
  query : ∀ query ∈ url.query, ∀ c ∈ query.toList, Plain webQuerySet c
  fragment : ∀ fragment ∈ url.fragment, ∀ c ∈ fragment.toList, Plain fragmentSet c

theorem escapesPlain_webQuerySet : EscapesPlain webQuerySet := by decide

theorem escapesPlain_fragmentSet : EscapesPlain fragmentSet := by decide

/-! ## Reading gives the normal form -/

section

variable {kind : Kind} {scheme : String} {text authority : List Char} {url url' : Url}
  {atEnd : Bool}

theorem port_of_readPort {port : Option Nat} (read : readPort scheme text = .ok port) :
    ∀ number ∈ port, number ≤ 65535 ∧ defaultPort? scheme ≠ some number := by
  rw [readPort] at read
  dsimp only at read
  split_ifs at read with digits large implied
  · cases read
    exact fun number member => absurd member (Option.not_mem_none number)
  · cases read
    rintro number ⟨⟩
    exact ⟨Nat.le_of_not_lt large, fun same => implied (.inr same)⟩

theorem port_of_portOf {port : Option Nat} (read : portOf .web scheme text = .ok port) :
    ∀ number ∈ port, number ≤ 65535 ∧ defaultPort? scheme ≠ some number := by
  cases text with
  | nil =>
      cases read
      exact fun number member => absurd member (Option.not_mem_none number)
  | cons mark digits => exact port_of_readPort read

theorem plain_ofList_encode {set : EncodeSet} (escapes : EscapesPlain set) (text : List Char) :
    ∀ c ∈ (String.ofList (encode set text)).toList, Plain set c := by
  rw [String.toList_ofList]
  exact fun c => plain_of_mem_encode escapes

/-- What reading an authority makes of a URL. -/
theorem exists_of_readAuthority (read : readAuthority kind url authority atEnd = .ok url') :
    ∃ user password host port hostText portText,
      url' = { url with user, password, host := some host, port } ∧
      (∀ c ∈ user.toList, Plain userSet c) ∧ (∀ c ∈ password.toList, Plain userSet c) ∧
      hostOf kind hostText = .ok host ∧ portOf kind url.scheme portText = .ok port := by
  unfold readAuthority at read
  dsimp only at read
  split_ifs at read
  obtain ⟨host, hostRead, read⟩ := bind_eq_ok_iff.mp read
  split_ifs at read
  obtain ⟨port, portRead, read⟩ := bind_eq_ok_iff.mp read
  cases Except.ok.inj read
  exact ⟨_, _, host, port, _, _, rfl, plain_ofList_encode escapesPlain_userSet _,
    plain_ofList_encode escapesPlain_userSet _, hostRead, portRead⟩

/-- The parts that begin with their marks. -/
theorem query_of_readTail :
    ∀ query ∈ (readTail .web url text).query, ∀ c ∈ query.toList, Plain webQuerySet c := by
  rw [readTail]
  dsimp only
  split
  · exact fun query member => absurd member (Option.not_mem_none query)
  · rintro query ⟨⟩
    exact plain_ofList_encode escapesPlain_webQuerySet _

theorem fragment_of_readTail :
    ∀ fragment ∈ (readTail .web url text).fragment,
      ∀ c ∈ fragment.toList, Plain fragmentSet c := by
  rw [readTail]
  dsimp only
  split
  · exact fun fragment member => absurd member (Option.not_mem_none fragment)
  · rintro fragment ⟨⟩
    exact plain_ofList_encode escapesPlain_fragmentSet _

theorem normal_of_readHierarchy (web : kindOf scheme = .web)
    (read : readHierarchy .web scheme text = .ok url) : url.Normal := by
  rw [readHierarchy] at read
  dsimp only at read
  obtain ⟨withHost, authorityRead, read⟩ := bind_eq_ok_iff.mp read
  obtain ⟨user, password, host, port, hostText, portText, rfl, userPlain, passwordPlain, hostRead,
    portRead⟩ := exists_of_readAuthority authorityRead
  cases Except.ok.inj read
  exact {
    scheme := web
    user := userPlain
    password := passwordPlain
    host := ⟨host, rfl, Host.stands_of_ofWeb hostRead⟩
    port := port_of_portOf portRead
    path := exists_settled_of_readPath _
    query := query_of_readTail
    fragment := fragment_of_readTail }

theorem scheme_of_readFile (read : readFile text = .ok url) : url.scheme = "file" := by
  unfold readFile at read
  dsimp only at read
  split_ifs at read
  all_goals
    obtain ⟨host, _, read⟩ := bind_eq_ok_iff.mp read
    cases Except.ok.inj read
    rfl

theorem scheme_of_readHierarchy (read : readHierarchy kind scheme text = .ok url) :
    url.scheme = scheme := by
  rw [readHierarchy] at read
  dsimp only at read
  obtain ⟨withHost, authorityRead, read⟩ := bind_eq_ok_iff.mp read
  obtain ⟨user, password, host, port, hostText, portText, rfl, _⟩ :=
    exists_of_readAuthority authorityRead
  cases Except.ok.inj read
  rfl

theorem scheme_of_readOther (read : readOther scheme text = .ok url) : url.scheme = scheme := by
  unfold readOther at read
  split at read
  · exact scheme_of_readHierarchy read
  · cases Except.ok.inj read
    rfl
  · cases Except.ok.inj read
    rfl

/-- A web address that has been read is in normal form. -/
theorem normal_of_parse {text : String} (read : parse text = .ok url)
    (web : kindOf url.scheme = .web) : url.Normal := by
  rw [parse] at read
  cases split : splitScheme? (cleaned text) with
  | none =>
      rw [split] at read
      cases read
  | some parts =>
      obtain ⟨schemeText, rest⟩ := parts
      rw [split] at read
      dsimp only at read
      cases kind : kindOf (String.ofList schemeText) with
      | web =>
          rw [kind] at read
          exact normal_of_readHierarchy kind read
      | file =>
          rw [kind] at read
          rw [scheme_of_readFile read] at web
          cases web
      | other =>
          rw [kind] at read
          rw [scheme_of_readOther read, kind] at web
          cases web

end

end RouterTelemetry.Url
