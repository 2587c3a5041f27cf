import RouterTelemetry.Proofs.Composition
import RouterTelemetry.Proofs.ExporterHistory
import RouterTelemetry.Proofs.RequestAddresses
import RouterTelemetry.Proofs.StringReading

/-!
# The password in the form of a login

A form spells a text byte by byte, so it can be read back: it is cut at its ampersands, every field
is split at its first equals sign, and plus signs and escapes are undone.  Neither sign occurs in
what is spelled.  The body of a login is therefore read as one field that holds the password,
whatever characters the password consists of.
-/

namespace RouterTelemetry

namespace Http

/-! ## Bytes of texts -/

/-- Listing the bytes of an array from a position on. -/
theorem toList_loop (bytes : ByteArray) (i : Nat) (listed : List UInt8) :
    ByteArray.toList.loop bytes i listed = listed.reverse ++ bytes.data.toList.drop i := by
  fun_induction ByteArray.toList.loop bytes i listed with
  | case1 i listed within ih =>
      have inside : i < bytes.data.toList.length := within
      have next : bytes.data.toList[i] = bytes.get! i := (getElem!_pos bytes.data i within).symm
      rw [ih, List.drop_eq_getElem_cons inside, next, List.reverse_cons, List.append_assoc,
        List.singleton_append]
  | case2 i listed beyond =>
      have outside : bytes.data.toList.length ≤ i := Nat.le_of_not_lt beyond
      rw [List.drop_eq_nil_of_le outside, List.append_nil]

theorem toList_toUTF8 (text : String) :
    text.toUTF8.toList = text.toList.flatMap String.utf8EncodeChar := by
  rw [ByteArray.toList, toList_loop, String.toUTF8_eq_toByteArray, ← String.utf8Encode_toList,
    List.utf8Encode, List.data_toByteArray]
  rfl

/-! ## Spelled bytes -/

/-- The character stands for itself in a form: a letter or a digit of ASCII, or one of four
others. -/
def KeptInForm (c : Char) : Prop :=
  ('0' ≤ c ∧ c ≤ '9') ∨ ('A' ≤ c ∧ c ≤ 'Z') ∨ ('a' ≤ c ∧ c ≤ 'z') ∨ c ∈ ['*', '-', '.', '_']

/-- Bytes as a form spells them: some characters stand for themselves, a plus sign stands for a
space, and every other byte is a percent sign with two upper-case hexadecimal digits. -/
inductive Spells : List Char → List UInt8 → Prop where
  | nil : Spells [] []
  | kept {b : UInt8} {text : List Char} {bytes : List UInt8} :
      KeptInForm (Char.ofUInt8 b) → Spells text bytes →
      Spells (Char.ofUInt8 b :: text) (b :: bytes)
  | space {text : List Char} {bytes : List UInt8} :
      Spells text bytes → Spells ('+' :: text) (32 :: bytes)
  | escaped {b : UInt8} {text : List Char} {bytes : List UInt8} :
      ¬KeptInForm (Char.ofUInt8 b) → b ≠ 32 → Spells text bytes →
      Spells ('%' :: Url.hexDigit (b.toNat / 16) :: Url.hexDigit (b.toNat % 16) :: text)
        (b :: bytes)

theorem toNat_ofUInt8 (b : UInt8) : (Char.ofUInt8 b).toNat = b.toNat :=
  UInt8.toNat_toUInt32 b

theorem keptInForm_iff {c : Char} : KeptInForm c ↔
    (48 ≤ c.toNat ∧ c.toNat ≤ 57) ∨ (65 ≤ c.toNat ∧ c.toNat ≤ 90) ∨
      (97 ≤ c.toNat ∧ c.toNat ≤ 122) ∨ c.toNat = 42 ∨ c.toNat = 45 ∨ c.toNat = 46 ∨
        c.toNat = 95 := by
  simp only [KeptInForm, List.mem_cons, List.not_mem_nil, or_false, ← Char.toNat_inj]
  rfl

/-- None of the signs that mean something in a form stands for itself. -/
theorem KeptInForm.ne_of_sign {c sign : Char} (kept : KeptInForm c)
    (isSign : sign ∈ ['&', '=', '%', '+']) : c ≠ sign := by
  rintro rfl
  rw [keptInForm_iff] at kept
  simp only [List.mem_cons, List.not_mem_nil, or_false] at isSign
  rcases isSign with rfl | rfl | rfl | rfl <;> exact absurd kept (by decide)

theorem isKept_iff (b : UInt8) : isKept b = true ↔ KeptInForm (Char.ofUInt8 b) := by
  rw [keptInForm_iff, toNat_ofUInt8]
  simp only [isKept, Bool.or_eq_true, Bool.and_eq_true, decide_eq_true_eq, beq_iff_eq,
    UInt8.le_iff_toNat_le, ← UInt8.toNat_inj, or_assoc]
  rfl

/-- Every byte of a form is spelled. -/
theorem Spells.formByte {text : List Char} {bytes : List UInt8} (spells : Spells text bytes)
    (b : UInt8) : Spells (formByte b ++ text) (b :: bytes) := by
  rw [Http.formByte]
  split_ifs with kept space
  · rw [← toNat_ofUInt8, Char.ofNat_toNat]
    exact .kept ((isKept_iff b).mp kept) spells
  · subst space
    exact .space spells
  · exact .escaped (fun other => kept ((isKept_iff b).mpr other)) space spells

theorem spells_formText (text : String) : Spells (formText text).toList text.toUTF8.toList := by
  rw [formText, String.toList_ofList]
  generalize text.toUTF8.toList = bytes
  induction bytes with
  | nil => exact .nil
  | cons b bytes ih => exact ih.formByte b

/-- What is spelled has none of the signs that part the fields of a form and their sides. -/
theorem Spells.notMem {text : List Char} {bytes : List UInt8} (spells : Spells text bytes) :
    '&' ∉ text ∧ '=' ∉ text := by
  have digits : ∀ n < 16, Url.hexDigit n ≠ '&' ∧ Url.hexDigit n ≠ '=' := by decide
  induction spells with
  | nil => exact ⟨List.not_mem_nil, List.not_mem_nil⟩
  | @kept b _ _ kept _ ih =>
      have noAmpersand : Char.ofUInt8 b ≠ '&' := kept.ne_of_sign (by simp)
      have noSign : Char.ofUInt8 b ≠ '=' := kept.ne_of_sign (by simp)
      exact ⟨List.not_mem_cons_of_ne_of_not_mem noAmpersand.symm ih.1,
        List.not_mem_cons_of_ne_of_not_mem noSign.symm ih.2⟩
  | space _ ih =>
      exact ⟨List.not_mem_cons_of_ne_of_not_mem (by decide) ih.1,
        List.not_mem_cons_of_ne_of_not_mem (by decide) ih.2⟩
  | @escaped b _ _ _ _ _ ih =>
      have small := b.toNat_lt
      have high := digits (b.toNat / 16) (by omega)
      have low := digits (b.toNat % 16) (by omega)
      simp [ih, high.1.symm, high.2.symm, low.1.symm, low.2.symm]

/-! ## Forms read back -/

/-- A plus sign stands for a space. -/
def spaced (c : Char) : Char :=
  if c = '+' then ' ' else c

/-- The text of a name or of a value: plus signs are undone first, then escapes.  There is none if
the bytes are not UTF-8. -/
def readFormText? (written : List Char) : Option String :=
  Json.utf8Text? (Url.decodeBytes (written.map spaced))

/-- A field, split at its first equals sign; without one the value is empty. -/
def readFormField? (field : List Char) : Option (String × String) :=
  (readFormText? (field.takeWhile (· != '='))).bind fun name =>
    (readFormText? ((field.dropWhile (· != '=')).drop 1)).map fun value => (name, value)

/-- The fields of a form, between ampersands; an empty piece is no field. -/
def readForm? (body : String) : Option (List (String × String)) :=
  ((body.toList.splitOn '&').filter fun field => !field.isEmpty).mapM readFormField?

theorem hexValue?_hexDigit {n : Nat} (small : n < 16) :
    Url.hexValue? (Url.hexDigit n) = some n ∧ spaced (Url.hexDigit n) = Url.hexDigit n := by
  have all : ∀ n < 16, Url.hexValue? (Url.hexDigit n) = some n ∧
      spaced (Url.hexDigit n) = Url.hexDigit n := by decide
  exact all n small

theorem decodeBytes_cons_of_ne {c : Char} (other : c ≠ '%') (text : List Char) :
    Url.decodeBytes (c :: text) = String.utf8EncodeChar c ++ Url.decodeBytes text := by
  rw [Url.decodeBytes]
  exact fun _ _ _ same => absurd same other

/-- Spelled bytes are read back. -/
theorem Spells.decodeBytes {text : List Char} {bytes : List UInt8} (spells : Spells text bytes) :
    Url.decodeBytes (text.map spaced) = bytes := by
  induction spells with
  | nil => rfl
  | @kept b text bytes kept _ ih =>
      have ascii : b < 128 := by
        rw [keptInForm_iff, toNat_ofUInt8] at kept
        rw [UInt8.lt_iff_toNat_lt]
        change b.toNat < 128
        omega
      have noPercent : Char.ofUInt8 b ≠ '%' := kept.ne_of_sign (by simp)
      have noPlus : Char.ofUInt8 b ≠ '+' := kept.ne_of_sign (by simp)
      rw [List.map_cons, spaced, if_neg noPlus, decodeBytes_cons_of_ne noPercent, ih,
        Json.utf8EncodeChar_ofUInt8 ascii, List.singleton_append]
  | @space text bytes _ ih =>
      have encoded : String.utf8EncodeChar (spaced '+') = [32] := by decide
      rw [List.map_cons, decodeBytes_cons_of_ne (by decide), ih, encoded, List.singleton_append]
  | @escaped b text bytes _ _ _ ih =>
      have small := b.toNat_lt
      obtain ⟨high, highSpaced⟩ := hexValue?_hexDigit (n := b.toNat / 16) (by omega)
      obtain ⟨low, lowSpaced⟩ := hexValue?_hexDigit (n := b.toNat % 16) (by omega)
      have code : (b.toNat / 16 * 16 + b.toNat % 16).toUInt8 = b := by
        rw [Nat.div_add_mod', Nat.toUInt8_eq, UInt8.ofNat_toNat]
      have percent : spaced '%' = '%' := rfl
      rw [List.map_cons, List.map_cons, List.map_cons, percent, highSpaced, lowSpaced,
        Url.decodeBytes, high, low]
      dsimp only
      rw [code, ih]

theorem formText_password : formText "password" = "password" := by
  rw [formText, toList_toUTF8]
  rfl

theorem readFormText?_formText (text : String) :
    readFormText? (formText text).toList = some text := by
  rw [readFormText?, (spells_formText text).decodeBytes, toList_toUTF8, Json.utf8Text?_flatMap,
    String.ofList_toList]

/-- A form of one field is read as this field. -/
theorem readForm?_formField (name value : String) :
    readForm? (formField name value) = some [(name, value)] := by
  obtain ⟨nameNoAmpersand, noSign⟩ := (spells_formText name).notMem
  obtain ⟨valueNoAmpersand, -⟩ := (spells_formText value).notMem
  have written : (formField name value).toList =
      (formText name).toList ++ '=' :: (formText value).toList := by
    rw [formField, String.toList_append, String.toList_append, List.append_assoc]
    rfl
  have whole : '&' ∉ (formText name).toList ++ '=' :: (formText value).toList := by
    rw [List.mem_append, List.mem_cons, not_or, not_or]
    exact ⟨nameNoAmpersand, by decide, valueNoAmpersand⟩
  have left : ((formText name).toList ++ '=' :: (formText value).toList).takeWhile (· != '=') =
      (formText name).toList := Url.takeWhile_append_separator noSign _
  have right : ((formText name).toList ++ '=' :: (formText value).toList).dropWhile (· != '=') =
      '=' :: (formText value).toList := Url.dropWhile_append_separator noSign _
  have field : readFormField? ((formText name).toList ++ '=' :: (formText value).toList) =
      some (name, value) := by
    rw [readFormField?, left, right, List.drop_one, List.tail_cons, readFormText?_formText,
      readFormText?_formText]
    rfl
  have filled : ((formText name).toList ++ '=' :: (formText value).toList).isEmpty = false := by
    simp
  rw [readForm?, written, List.splitOn_eq_singleton whole, List.filter_singleton, filled]
  simp [field]

/-! ## Requests that carry a password -/

/-- The request says that its body is a form.  This form is read as one field, the password under
its name, and it spells the bytes of the password. -/
structure Request.CarriesPassword (request : Request) (password : String) : Prop where
  isForm : request.header? "content-type" = some "application/x-www-form-urlencoded"
  read : readForm? request.body = some [("password", password)]
  spelled : ∃ written, request.body.toList = "password=".toList ++ written ∧
    Spells written password.toUTF8.toList

theorem loginRequest_carriesPassword (url : Url) (password : String) :
    (Client.loginRequest url password).CarriesPassword password where
  isForm := rfl
  read := readForm?_formField "password" password
  spelled := by
    refine ⟨(formText password).toList, ?_, spells_formText password⟩
    rw [Client.loginRequest, Client.loginForm, formField, formText_password, String.toList_append]
    rfl

/-- A body carries one password. -/
theorem Request.CarriesPassword.eq_of_body_eq {request other : Request}
    {password password' : String} (carries : request.CarriesPassword password)
    (otherCarries : other.CarriesPassword password')
    (same : request.body = other.body) : password = password' := by
  have read := otherCarries.read
  rw [← same, carries.read] at read
  simpa using read

/-- The request is a fetch, with nothing in its body, or a login with the password. -/
def Request.Tells (password : String) (request : Request) : Prop :=
  (request.method = "GET" ∧ request.body = "") ∨
    (request.method = "POST" ∧ request.CarriesPassword password)

end Http

open Http

/-- Whatever the dialogue sends is a fetch or a login with the password. -/
def Telling (password : String) {α : Type} (dialogue : Dialogue α) : Prop :=
  ∀ (σ : Type) (router : Router σ) (session : Session) (state : σ),
    ∀ request ∈ (dialogue.run router session state).requests, request.Tells password

theorem telling_composable (password : String) : Composable (Telling password) where
  done value σ router session state := nofun
  report _ next σ router session state := next σ router session state
  bind first rest σ router session state := by
    rw [Dialogue.run_bind, Dialogue.Run.requests_followedBy]
    intro request member
    rcases List.mem_append.mp member with early | late
    · exact first σ router session state request early
    · exact rest _ σ router _ _ request late

/-- The dialogue sends a login before all else. -/
def LoginFirst {α : Type} (dialogue : Dialogue α) : Prop :=
  ∀ (σ : Type) (router : Router σ) (session : Session) (state : σ),
    ∃ request ∈ (dialogue.run router session state).requests.head?, request.method = "POST"

theorem LoginFirst.bind {α β : Type} {dialogue : Dialogue α} (first : LoginFirst dialogue)
    (next : α → Dialogue β) : LoginFirst (dialogue.bind next) := by
  intro σ router session state
  obtain ⟨request, sent, isLogin⟩ := first σ router session state
  refine ⟨request, ?_, isLogin⟩
  rw [Dialogue.run_bind, Dialogue.Run.requests_followedBy, List.head?_append,
    Option.mem_def.mp sent]
  rfl

theorem LoginFirst.report {α : Type} {dialogue : Dialogue α} (first : LoginFirst dialogue)
    (event : Event) : LoginFirst (.report event dialogue) :=
  fun σ router session state => first σ router session state

namespace Client

theorem get_telling (endpoint : Endpoint) (password : String) {α : Type} (resource : Resource α) :
    Telling password (get endpoint resource).run := by
  intro σ router session state
  cases parsed : Url.parse (endpoint.addressOf resource.path) with
  | error fault =>
      rw [get_run_of_parse_error resource router session state parsed]
      exact nofun
  | ok url =>
      rw [get_run_of_parse_ok resource router session state parsed]
      intro request member
      rw [List.mem_singleton.mp member]
      exact .inl ⟨rfl, rfl⟩

theorem login_carriesPassword (endpoint : Endpoint) (password : String) {σ : Type}
    (router : Router σ) (session : Session) (state : σ) :
    ∀ request ∈ ((login endpoint password).run.run router session state).requests,
      request.method = "POST" ∧ request.CarriesPassword password := by
  cases parsed : Url.parse (endpoint.addressOf loginPath) with
  | error fault =>
      rw [login_run_of_parse_error password router session state parsed]
      exact nofun
  | ok url =>
      rw [login_run_of_parse_ok password router session state parsed]
      intro request member
      rw [List.mem_singleton.mp member]
      exact ⟨rfl, loginRequest_carriesPassword url password⟩

theorem login_telling (endpoint : Endpoint) (password : String) :
    Telling password (login endpoint password).run :=
  fun _ router session state request sent =>
    .inr (login_carriesPassword endpoint password router session state request sent)

theorem login_first {text : String} {endpoint : Endpoint}
    (accepted : Endpoint.parse text = .ok endpoint) (password : String) :
    LoginFirst (login endpoint password).run := by
  intro σ router session state
  have planned : Step.login ∈ plan [] := List.mem_cons_self
  have parsed := Endpoint.parse_addressOf accepted planned
  rw [login_run_of_parse_ok password router session state parsed]
  exact ⟨_, rfl, rfl⟩

theorem takeSnapshot_login_first {text : String} {endpoint : Endpoint}
    (accepted : Endpoint.parse text = .ok endpoint) (password : String) (bands : List Band) :
    LoginFirst (takeSnapshot endpoint password bands).run := by
  rw [takeSnapshot, Attempt.run_bind, Attempt.run_report, Dialogue.bind_report, Dialogue.bind_done]
  apply LoginFirst.report
  rw [Attempt.run_bind]
  exact (login_first accepted password).bind _

end Client

namespace Collector

theorem collect_telling (collector : Collector) :
    Telling collector.password collector.collect.run := by
  have composable := telling_composable collector.password
  refine composable.attempt_bind ?_ fun snapshot => ?_
  · exact composable.takeSnapshot (Client.get_telling _ _) (Client.login_telling _ _) _
  · refine composable.attempt_bind ?_ fun _ => composable.done _
    intro σ router session state
    rw [Attempt.run_reportAll_run]
    exact nofun

theorem collect_login_first {text : String} {collector : Collector}
    (accepted : Endpoint.parse text = .ok collector.endpoint) :
    LoginFirst collector.collect.run := by
  rw [collect, Attempt.run_bind]
  exact (Client.takeSnapshot_login_first accepted _ _).bind _

end Collector

namespace Exporter

/-! ## Operations of an exporter -/

theorem requests_perform (collector : Collector) (exporter : Exporter) (visit : Visit) :
    (exporter.perform collector visit).requests =
      if visit.operation = .render then []
      else (collector.collect.run.run visit.router exporter.session visit.state).requests := by
  rcases visit with ⟨operation, State, router, state⟩
  -- A cycle reports its start and then collects, so it sends what the collection sends.
  cases operation with
  | collect => simp only [perform, collect, Turn.map, Turn.requests, Dialogue.Run.requests,
      reduceCtorEq, if_false]
  | runCycle => simp only [perform, runCycle, Collector.cycle, Dialogue.run_report, Turn.map,
      Turn.requests, Dialogue.Run.requests, reduceCtorEq, if_false]
  | scrape => simp only [perform, scrape, runCycle, Collector.cycle, Dialogue.run_report, Turn.map,
      Turn.requests, Dialogue.Run.requests, reduceCtorEq, if_false]
  | render => simp only [perform, Turn.requests, List.map_nil, if_true]

theorem perform_carriesPassword {collector : Collector} {exporter : Exporter} {visit : Visit}
    {request : Request} (sent : request ∈ (exporter.perform collector visit).requests)
    (isLogin : request.method = "POST") : request.CarriesPassword collector.password := by
  rw [requests_perform] at sent
  split_ifs at sent with renders
  · cases sent
  · rcases collector.collect_telling _ _ _ _ request sent with ⟨isFetch, -⟩ | ⟨-, carries⟩
    · rw [isLogin] at isFetch
      exact absurd isFetch (by decide)
    · exact carries

/-- A client sends its password in the form of the login, whichever the password is, and so does an
exporter in every operation with any router.  The form is read as one field, the password under its
name, so logins with the same body have the same password, whoever sends them.  If the endpoint was
accepted, each operation but rendering does send a login, before all else. -/
theorem password_sent_unaltered :
    (∀ (endpoint : Endpoint) (password : String) (σ : Type) (router : Router σ) (session : Session)
      (state : σ), ∀ request ∈
        ((Client.login endpoint password).run.run router session state).requests,
      request.method = "POST" ∧ request.CarriesPassword password) ∧
    ∀ (collector : Collector) (exporter : Exporter) (visit : Visit),
      (∀ request ∈ (exporter.perform collector visit).requests, request.method = "POST" →
        request.CarriesPassword collector.password ∧
        ∀ (other : Collector) (exporter' : Exporter) (visit' : Visit),
          ∀ request' ∈ (exporter'.perform other visit').requests, request'.method = "POST" →
            request.body = request'.body → collector.password = other.password) ∧
      ∀ text, Endpoint.parse text = .ok collector.endpoint → visit.operation ≠ .render →
        ∃ request ∈ (exporter.perform collector visit).requests.head?, request.method = "POST" := by
  constructor
  · intro endpoint password σ router session state
    exact Client.login_carriesPassword endpoint password router session state
  · intro collector exporter visit
    constructor
    · intro request sent isLogin
      have carries := perform_carriesPassword sent isLogin
      refine ⟨carries, fun other exporter' visit' request' sent' isLogin' same => ?_⟩
      exact carries.eq_of_body_eq (perform_carriesPassword sent' isLogin') same
    · intro text accepted talks
      rw [requests_perform, if_neg talks]
      exact collector.collect_login_first accepted _ _ _ _

/-- A password of signs that mean something in a form, and of a letter of two bytes. -/
theorem password_of_signs_sent :
    let endpoint : Endpoint := ⟨{ scheme := "https", host := some (.named "h"), path := "/" }⟩
    let visit : Visit := ⟨.scrape, Unit, .unreachable, ()⟩
    let turn := ({} : Exporter).perform ⟨endpoint, "a&b=c +%é", Band.all⟩ visit
    Endpoint.parse "https://h" = .ok endpoint ∧ visit.operation ≠ .render ∧
      ∃ request ∈ turn.requests, request.method = "POST" ∧
        readForm? request.body = some [("password", "a&b=c +%é")] := by
  intro endpoint visit turn
  have accepted : Endpoint.parse "https://h" = .ok endpoint := rfl
  have talks : visit.operation ≠ .render := by decide
  obtain ⟨logins, first⟩ :=
    password_sent_unaltered.2 ⟨endpoint, "a&b=c +%é", Band.all⟩ ({} : Exporter) visit
  obtain ⟨request, sent, isLogin⟩ := first "https://h" accepted talks
  have member : request ∈ turn.requests := List.mem_of_mem_head? sent
  exact ⟨accepted, talks, request, member, isLogin, (logins request member isLogin).1.read⟩

end Exporter

end RouterTelemetry
