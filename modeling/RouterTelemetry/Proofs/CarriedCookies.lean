import RouterTelemetry.Proofs.SeparatedText
import RouterTelemetry.Proofs.SessionHistory

/-!
# Cookies read back from their header

A cookie that a raw value sets has no semicolon, no equals sign in its name and no blanks at its
ends.  The header that carries the cookies of a session can therefore be cut at its semicolons, and
every piece at its first equals sign: the pairs so read are those that the raw values of the last
login set, in their order and as often, and there are no others.
-/

namespace RouterTelemetry

open Http

/-! ## Blanks around a text -/

namespace Text

/-- There is no blank at either end. -/
structure Tight (text : List Char) : Prop where
  first : ∀ c ∈ text.head?, isBlank c = false
  last : ∀ c ∈ text.getLast?, isBlank c = false

/-- The text is the inner one with blanks around it, and all of them are around it. -/
structure Surrounds (text inner : List Char) : Prop where
  tight : Tight inner
  around : ∃ front back, text = front ++ inner ++ back ∧
    (∀ c ∈ front, isBlank c = true) ∧ ∀ c ∈ back, isBlank c = true

theorem Surrounds.mem {text inner : List Char} (surrounds : Surrounds text inner) {c : Char}
    (member : c ∈ inner) : c ∈ text := by
  obtain ⟨front, back, rfl, -, -⟩ := surrounds.around
  exact List.mem_append_left back (List.mem_append_right front member)

/-- Dropping stops at what is not dropped. -/
theorem eq_false_of_mem_head?_dropWhile {p : Char → Bool} {text : List Char} {c : Char}
    (first : c ∈ (text.dropWhile p).head?) : p c = false := by
  have stop := List.head?_dropWhile_not p text
  rw [Option.mem_def.mp first] at stop
  exact stop

theorem surrounds_trimmed (text : List Char) : Surrounds text (trimmed text) := by
  obtain ⟨rest, rest_eq⟩ : ∃ rest, rest = text.dropWhile isBlank := ⟨_, rfl⟩
  have front : text = text.takeWhile isBlank ++ rest := by
    rw [rest_eq, List.takeWhile_append_dropWhile]
  have back : rest = trimmed text ++ (rest.reverse.takeWhile isBlank).reverse := by
    rw [trimmed, ← rest_eq, ← List.reverse_append, List.takeWhile_append_dropWhile,
      List.reverse_reverse]
  constructor
  · constructor
    · intro c first
      have start : c ∈ (text.dropWhile isBlank).head? := by
        rw [← rest_eq, back, List.head?_append, first, Option.some_or]
        exact Option.mem_some_self c
      exact eq_false_of_mem_head?_dropWhile start
    · intro c last
      rw [trimmed, List.getLast?_reverse] at last
      exact eq_false_of_mem_head?_dropWhile last
  · refine ⟨text.takeWhile isBlank, (rest.reverse.takeWhile isBlank).reverse, ?_, ?_, ?_⟩
    · rw [List.append_assoc, ← back, ← front]
    · exact fun c member => List.mem_takeWhile_imp member
    · exact fun c member => List.mem_takeWhile_imp (List.mem_reverse.mp member)

/-- Trimming finds the text that blanks surround. -/
theorem trimmed_eq_iff {text inner : List Char} : trimmed text = inner ↔ Surrounds text inner := by
  constructor
  · rintro rfl
    exact surrounds_trimmed text
  · rintro ⟨⟨first, last⟩, front, back, rfl, blankFront, blankBack⟩
    cases inner with
    | nil =>
        rw [trimmed_eq_nil_iff, List.append_nil]
        intro c member
        exact (List.mem_append.mp member).elim (blankFront c) (blankBack c)
    | cons c rest =>
        have start : (front ++ (c :: rest) ++ back).dropWhile isBlank = c :: rest ++ back := by
          rw [List.append_assoc]
          exact Url.dropWhile_append_of_head blankFront first
        have stop : ((c :: rest) ++ back).reverse.dropWhile isBlank = (c :: rest).reverse := by
          rw [List.reverse_append]
          apply Url.dropWhile_append_of_head
          · exact fun d member => blankBack d (List.mem_reverse.mp member)
          · rwa [List.head?_reverse]
        rw [trimmed, start, stop, List.reverse_reverse]

/-- Blanks before a text without blanks at its ends are all that is trimmed. -/
theorem trimmed_append (lead : List Char) {inner : List Char}
    (blank : ∀ c ∈ lead, isBlank c = true) (tight : Tight inner) :
    trimmed (lead ++ inner) = inner :=
  trimmed_eq_iff.mpr ⟨tight, lead, [], by simp, blank, nofun⟩

end Text

namespace Cookie

/-! ## What raw values set -/

/-- The raw value sets the cookie.  Its first part, which ends at the first semicolon, is split at
its first equals sign; without the blanks around them the two sides are the name and the value, and
there is a name. -/
def SetBy (raw : String) (cookie : Cookie) : Prop :=
  ∃ name value rest, raw.toList = name ++ '=' :: (value ++ rest) ∧
    '=' ∉ name ∧ ';' ∉ name ∧ ';' ∉ value ∧ (∀ c ∈ rest.head?, c = ';') ∧
    Text.Surrounds name cookie.name.toList ∧ Text.Surrounds value cookie.value.toList ∧
    cookie.name ≠ ""

/-- Raw values set cookies in their order; one that is malformed sets none. -/
inductive SetInOrder : List String → List Cookie → Prop where
  | nil : SetInOrder [] []
  | set {raw : String} {raws : List String} {cookie : Cookie} {cookies : List Cookie} :
      SetBy raw cookie → SetInOrder raws cookies → SetInOrder (raw :: raws) (cookie :: cookies)
  | skip {raw : String} {raws : List String} {cookies : List Cookie} :
      ¬WellFormed raw → SetInOrder raws cookies → SetInOrder (raw :: raws) cookies

theorem ofHeader?_eq_some_iff {raw : String} {cookie : Cookie} :
    ofHeader? raw = some cookie ↔ SetBy raw cookie := by
  constructor
  · intro given
    obtain ⟨name, rest, split, noSign, noEnd, -⟩ :=
      wellFormed_of_ofHeader?_isSome (Option.isSome_of_eq_some given)
    rw [ofHeader?_of_split split noSign noEnd] at given
    split_ifs at given with unnamed
    obtain rfl := Option.some.inj given
    refine ⟨name, rest.takeWhile (· != ';'), rest.dropWhile (· != ';'), ?_, noSign, noEnd, ?_, ?_,
      ?_, ?_, ?_⟩
    · rw [split, List.takeWhile_append_dropWhile]
    · intro member
      simpa using List.mem_takeWhile_imp member
    · intro c first
      simpa using Text.eq_false_of_mem_head?_dropWhile first
    · rw [String.toList_ofList]
      exact Text.surrounds_trimmed name
    · rw [String.toList_ofList]
      exact Text.surrounds_trimmed _
    · intro empty
      apply unnamed
      have noText := congrArg String.toList empty
      rw [String.toList_ofList] at noText
      rw [noText]
      rfl
  · rintro ⟨name, value, rest, split, noSign, noEnd, valueNoEnd, stop, ofName, ofValue, named⟩
    have first : (value ++ rest).takeWhile (· != ';') = value := by
      apply Url.takeWhile_append_of_head
      · intro c member
        exact bne_iff_ne.mpr (ne_of_mem_of_not_mem member valueNoEnd)
      · intro c isFirst
        rw [stop c isFirst]
        rfl
    have isNamed : cookie.name.toList.isEmpty = false := by
      rw [List.isEmpty_eq_false_iff]
      exact fun empty => named (String.toList_inj.mp empty)
    rw [ofHeader?_of_split split noSign noEnd, first, Text.trimmed_eq_iff.mpr ofName,
      Text.trimmed_eq_iff.mpr ofValue, isNamed, if_neg Bool.false_ne_true, String.ofList_toList,
      String.ofList_toList]

theorem setInOrder_filterMap (raws : List String) : SetInOrder raws (raws.filterMap ofHeader?) := by
  induction raws with
  | nil => exact .nil
  | cons raw raws ih =>
      rw [List.filterMap_cons]
      cases given : ofHeader? raw with
      | none =>
          refine .skip ?_ ih
          rw [← ofHeader?_isSome_iff, given]
          exact Bool.false_ne_true
      | some cookie => exact .set (ofHeader?_eq_some_iff.mp given) ih

/-- Raw values set one list of cookies. -/
theorem SetInOrder.eq_filterMap {raws : List String} {cookies : List Cookie}
    (inOrder : SetInOrder raws cookies) : cookies = raws.filterMap ofHeader? := by
  induction inOrder with
  | nil => rfl
  | set sets _ ih => rw [List.filterMap_cons_some (ofHeader?_eq_some_iff.mpr sets), ← ih]
  | skip malformed _ ih =>
      rw [← ofHeader?_isSome_iff, Option.not_isSome_iff_eq_none] at malformed
      rw [List.filterMap_cons_none malformed, ← ih]

/-! ## The header read back -/

/-- A piece of the header: it is split at its first equals sign, and blanks around the two sides
do not count. -/
def ofPiece? (piece : List Char) : Option Cookie :=
  match piece.dropWhile (· != '=') with
  | [] => none
  | _ :: value =>
      some ⟨String.ofList (Text.trimmed (piece.takeWhile (· != '='))),
        String.ofList (Text.trimmed value)⟩

/-- The header, cut at every semicolon. -/
def readHeader? (header : String) : Option (List Cookie) :=
  (header.toList.splitOn ';').mapM ofPiece?

/-- The cookie can be told from its neighbours in a header. -/
structure Separable (cookie : Cookie) : Prop where
  noSign : '=' ∉ cookie.name.toList
  nameNoEnd : ';' ∉ cookie.name.toList
  valueNoEnd : ';' ∉ cookie.value.toList
  nameTight : Text.Tight cookie.name.toList
  valueTight : Text.Tight cookie.value.toList

theorem SetBy.separable {raw : String} {cookie : Cookie} (sets : SetBy raw cookie) :
    Separable cookie := by
  obtain ⟨name, value, rest, -, noSign, noEnd, valueNoEnd, -, ofName, ofValue, -⟩ := sets
  constructor
  · exact fun member => noSign (ofName.mem member)
  · exact fun member => noEnd (ofName.mem member)
  · exact fun member => valueNoEnd (ofValue.mem member)
  · exact ofName.tight
  · exact ofValue.tight

theorem toList_pair (cookie : Cookie) :
    cookie.pair.toList = cookie.name.toList ++ '=' :: cookie.value.toList := by
  rw [pair, String.toList_append, String.toList_append, List.append_assoc]
  rfl

theorem Separable.notMem_pair {cookie : Cookie} (separable : Separable cookie) :
    ';' ∉ cookie.pair.toList := by
  rw [toList_pair, List.mem_append, List.mem_cons, not_or, not_or]
  exact ⟨separable.nameNoEnd, by decide, separable.valueNoEnd⟩

/-- A pair is read back, whatever blanks stand before it. -/
theorem Separable.ofPiece?_pair {cookie : Cookie} (separable : Separable cookie)
    (lead : List Char) (blank : ∀ c ∈ lead, Text.isBlank c = true) :
    ofPiece? (lead ++ cookie.pair.toList) = some cookie := by
  have noSign : '=' ∉ lead ++ cookie.name.toList := by
    rw [List.mem_append, not_or]
    refine ⟨fun member => ?_, separable.noSign⟩
    exact Bool.false_ne_true (blank '=' member)
  have split : lead ++ cookie.pair.toList =
      (lead ++ cookie.name.toList) ++ '=' :: cookie.value.toList := by
    rw [toList_pair, List.append_assoc]
  have name : (lead ++ cookie.pair.toList).takeWhile (· != '=') = lead ++ cookie.name.toList := by
    rw [split]
    exact Url.takeWhile_append_separator noSign _
  have value : (lead ++ cookie.pair.toList).dropWhile (· != '=') =
      '=' :: cookie.value.toList := by
    rw [split]
    exact Url.dropWhile_append_separator noSign _
  have tight : Text.trimmed cookie.value.toList = cookie.value.toList :=
    Text.trimmed_append [] nofun separable.valueTight
  rw [ofPiece?, value]
  dsimp only
  rw [name, Text.trimmed_append lead blank separable.nameTight, tight, String.ofList_toList,
    String.ofList_toList]

theorem mapM_ofPiece? {cookies : List Cookie} (separable : ∀ cookie ∈ cookies, Separable cookie)
    (lead : List Char) (blank : ∀ c ∈ lead, Text.isBlank c = true) :
    (cookies.map fun cookie => lead ++ cookie.pair.toList).mapM ofPiece? = some cookies := by
  induction cookies with
  | nil => rfl
  | cons cookie cookies ih =>
      rw [List.forall_mem_cons] at separable
      rw [List.map_cons, List.mapM_cons, separable.1.ofPiece?_pair lead blank, ih separable.2]
      rfl

/-- Between texts that a semicolon and a space separate, the space belongs to the next text. -/
theorem intercalate_semicolon_space (text : List Char) (texts : List (List Char)) :
    [';', ' '].intercalate (text :: texts) = [';'].intercalate (text :: texts.map (' ' :: ·)) := by
  induction texts generalizing text with
  | nil => rfl
  | cons next texts ih =>
      have spaced (rest : List (List Char)) :
          [';'].intercalate ((' ' :: next) :: rest) = ' ' :: [';'].intercalate (next :: rest) := by
        cases rest <;> simp
      rw [List.map_cons, List.intercalate_cons_cons, List.intercalate_cons_cons, ih, spaced]
      simp

/-- The header of cookies that can be told apart is read back as these cookies. -/
theorem readHeader?_intercalate {cookie : Cookie} {cookies : List Cookie}
    (separable : ∀ other ∈ cookie :: cookies, Separable other) :
    readHeader? ("; ".intercalate ((cookie :: cookies).map pair)) = some (cookie :: cookies) := by
  obtain ⟨first, later⟩ := List.forall_mem_cons.mp separable
  have pieces : ("; ".intercalate ((cookie :: cookies).map pair)).toList.splitOn ';' =
      cookie.pair.toList :: cookies.map fun other => ' ' :: other.pair.toList := by
    have written : ("; ".intercalate ((cookie :: cookies).map pair)).toList =
        [';'].intercalate
          (cookie.pair.toList :: cookies.map fun other => ' ' :: other.pair.toList) := by
      rw [String.toList_intercalate, List.map_map, List.map_cons]
      refine (intercalate_semicolon_space _ _).trans ?_
      rw [List.map_map]
      rfl
    rw [written]
    refine List.splitOn_intercalate ';' ?_ (List.cons_ne_nil _ _)
    rw [List.forall_mem_cons, List.forall_mem_map]
    refine ⟨first.notMem_pair, fun other member => ?_⟩
    rw [List.mem_cons, not_or]
    exact ⟨by decide, (later other member).notMem_pair⟩
  have blank : ∀ c ∈ [' '], Text.isBlank c = true := by
    intro c member
    rw [List.mem_singleton.mp member]
    rfl
  have spaced := mapM_ofPiece? later [' '] blank
  have one := first.ofPiece?_pair [] nofun
  rw [List.nil_append] at one
  simp only [List.singleton_append] at spaced
  rw [readHeader?, pieces, List.mapM_cons, one, spaced]
  rfl

end Cookie

/-- The header of a session of cookies that raw values have set is read back as these cookies. -/
theorem Session.readHeader?_header? {raws : List String} {cookies : List Cookie}
    (inOrder : Cookie.SetInOrder raws cookies) (held : cookies ≠ []) :
    ∃ header, Session.header? ⟨cookies⟩ = some header ∧
      Cookie.readHeader? header = some cookies := by
  obtain ⟨cookie, later, rfl⟩ := List.exists_cons_of_ne_nil held
  refine ⟨_, rfl, Cookie.readHeader?_intercalate fun other member => ?_⟩
  rw [inOrder.eq_filterMap, List.mem_filterMap] at member
  obtain ⟨raw, -, given⟩ := member
  exact (Cookie.ofHeader?_eq_some_iff.mp given).separable

namespace Client

/-! ## Logins and the fetches after them -/

/-- The exchange is a login that succeeds: its answer has a status below 300 and a well-formed
cookie. -/
structure Grants (exchange : Exchange) (answer : Answer) : Prop where
  isLogin : exchange.request.method = "POST"
  answered : exchange.reply = .ok answer
  low : answer.status < 300
  wellFormed : ∃ raw ∈ answer.setCookies, Cookie.WellFormed raw

theorem Grants.grantedBy_eq {exchange : Exchange} {answer : Answer}
    (grants : Grants exchange answer) : grantedBy exchange = some ⟨cookiesOf answer⟩ := by
  rw [grantedBy, grants.answered]
  exact if_pos ⟨grants.isLogin, grants.low, cookiesOf_ne_nil_iff.mpr grants.wellFormed⟩

theorem grantedBy_eq_none {exchange : Exchange} (none : ∀ answer, ¬Grants exchange answer) :
    grantedBy exchange = .none := by
  rw [grantedBy]
  cases reply : exchange.reply with
  | error reason => rfl
  | ok answer =>
      apply if_neg
      rintro ⟨isLogin, low, cookies⟩
      exact none answer ⟨isLogin, reply, low, cookiesOf_ne_nil_iff.mp cookies⟩

/-- The session of a login that succeeds lasts until the next one. -/
theorem lastGranted_of_grants {login : Exchange} {answer : Answer} (grants : Grants login answer)
    {between : List Exchange} (last : ∀ exchange ∈ between, ∀ other, ¬Grants exchange other)
    (session : Session) (before : List Exchange) :
    lastGranted session (before ++ login :: between) = ⟨cookiesOf answer⟩ := by
  have nothing : between.reverse.findSome? grantedBy = none := by
    rw [List.findSome?_eq_none_iff]
    exact fun exchange member => grantedBy_eq_none (last exchange (List.mem_reverse.mp member))
  rw [lastGranted, List.reverse_append, List.reverse_cons, List.append_assoc,
    List.findSome?_append, nothing, Option.none_or, List.singleton_append, List.findSome?_cons,
    grants.grantedBy_eq]
  rfl

theorem login_eq_ok_iff (endpoint : Endpoint) (password : String) {σ : Type} (router : Router σ)
    (session : Session) (state : σ) :
    ((login endpoint password).run.run router session state).value = .ok () ↔
      ∃ exchange answer,
        ((login endpoint password).run.run router session state).exchanges = [exchange] ∧
          Grants exchange answer := by
  have outcome := login_outcome endpoint password router session state
  rw [outcome.success]
  constructor
  · rintro ⟨url, answer, isUrl, answered, low, wellFormed⟩
    exact ⟨_, answer, outcome.asked url isUrl, rfl, answered, low, wellFormed⟩
  · rintro ⟨exchange, answer, exchanged, grants⟩
    cases parsed : Url.parse (endpoint.addressOf loginPath) with
    | error fault =>
        rw [outcome.unasked fun url => by rw [parsed]; exact nofun] at exchanged
        cases exchanged
    | ok url =>
        rw [outcome.asked url parsed] at exchanged
        obtain rfl := List.singleton_inj.mp exchanged
        exact ⟨url, answer, rfl, grants.answered, grants.low, grants.wellFormed⟩

/-- A client goes through any operations.  A login of its then succeeds exactly by an exchange that
grants a session.  Whichever login has succeeded on the way, a fetch after it and before the next
such login has one header of cookies.  This header, cut at every semicolon, every piece split at
its first equals sign and both sides trimmed, gives the cookies that the well-formed raw values of
the answer to that login set, in their order and as often as they do, and no others. -/
theorem fetches_carry_granted_cookies (endpoint : Endpoint) (operations : List Operation)
    {σ : Type} (router : Router σ) (state : σ) :
    let run := (performAll endpoint operations).run router {} state
    (∀ password,
      let next := (login endpoint password).run.run router run.session run.router
      next.value = .ok () ↔
        ∃ exchange answer, next.exchanges = [exchange] ∧ Grants exchange answer) ∧
    ∀ before login between fetch after answer,
      run.exchanges = before ++ login :: between ++ fetch :: after → Grants login answer →
      (∀ exchange ∈ between, ∀ other, ¬Grants exchange other) → fetch.request.method = "GET" →
      ∃ header cookies, fetch.request.cookieHeaders = [header] ∧
        Cookie.readHeader? header = some cookies ∧
        Cookie.SetInOrder answer.setCookies cookies := by
  intro run
  refine ⟨fun password => login_eq_ok_iff endpoint password router run.session run.router, ?_⟩
  intro before login between fetch after answer split grants last isFetch
  have tracks : Tracks {} run := performAll_tracking endpoint operations σ router {} state
  have carried := (split ▸ tracks.carried).at_exchange
  rw [lastGranted_of_grants grants last] at carried
  have held : cookiesOf answer ≠ [] := cookiesOf_ne_nil_iff.mpr grants.wellFormed
  obtain ⟨header, written, read⟩ :=
    Session.readHeader?_header? (Cookie.setInOrder_filterMap answer.setCookies) held
  refine ⟨header, cookiesOf answer, ?_, read, Cookie.setInOrder_filterMap answer.setCookies⟩
  rcases carried with ⟨isLogin, -⟩ | ⟨-, headers⟩
  · rw [isFetch] at isLogin
    exact absurd isLogin (by decide)
  · rw [headers]
    exact congrArg Option.toList written

/-- A login brings a value with an equals sign, an empty value and the same cookie twice, between
raw values without a name; another login is refused; then a fetch carries what the first one
brought. -/
theorem fetch_carries_cookies_of_first_login :
    let endpoint : Endpoint :=
      ⟨{ scheme := "https", host := some (.named "mabbox.bytel.fr"), path := "/" }⟩
    let answer : Answer :=
      { status := 200
        setCookies := ["a=b=c d; Path=/", "junk", " =x; Secure", " id = ; HttpOnly", "a=b=c d"] }
    let router : Router Nat :=
      ⟨fun _ count => (.ok (if count = 1 then { status := 401 } else answer), count + 1)⟩
    let run := (performAll endpoint [.login "admin", .login "typo", .get .resolver]).run router {} 0
    ∃ login refused fetch, run.exchanges = [] ++ login :: [refused] ++ fetch :: [] ∧
      Grants login answer ∧ (∀ exchange ∈ [refused], ∀ other, ¬Grants exchange other) ∧
      fetch.request.method = "GET" ∧
      ∃ header cookies, fetch.request.cookieHeaders = [header] ∧
        Cookie.readHeader? header = some cookies ∧
        Cookie.SetInOrder answer.setCookies cookies ∧
        cookies = [⟨"a", "b=c d"⟩, ⟨"id", ""⟩, ⟨"a", "b=c d"⟩] := by
  intro endpoint answer router run
  let loginUrl : Url :=
    { scheme := "https", host := some (.named "mabbox.bytel.fr"), path := "/api/v1/login" }
  let statsUrl : Url :=
    { scheme := "https", host := some (.named "mabbox.bytel.fr"), path := "/api/v1/dns/stats" }
  let login : Exchange := ⟨loginRequest loginUrl "admin", .ok answer⟩
  let refused : Exchange := ⟨loginRequest loginUrl "typo", .ok { status := 401 }⟩
  let fetch : Exchange := ⟨fetchRequest statsUrl ⟨cookiesOf answer⟩, .ok answer⟩
  have exchanged : run.exchanges = [] ++ login :: [refused] ++ fetch :: [] := by decide +kernel
  have wellFormed : Cookie.WellFormed "a=b=c d" :=
    ⟨['a'], "b=c d".toList, rfl, by decide, by decide, 'a', List.mem_cons_self, rfl⟩
  have grants : Grants login answer := ⟨rfl, rfl, by decide, "a=b=c d", by decide, wellFormed⟩
  have notGranted : ∀ exchange ∈ [refused], ∀ other, ¬Grants exchange other := by
    intro exchange member other other_grants
    rw [List.mem_singleton.mp member] at other_grants
    have high := other_grants.low
    rw [← Except.ok.inj other_grants.answered] at high
    exact absurd high (by decide)
  obtain ⟨header, cookies, carried, read, inOrder⟩ :=
    (fetches_carry_granted_cookies endpoint [.login "admin", .login "typo", .get .resolver] router
      0).2 [] login [refused] fetch [] answer exchanged grants notGranted rfl
  refine ⟨login, refused, fetch, exchanged, grants, notGranted, rfl, header, cookies, carried, read,
    inOrder, ?_⟩
  rw [inOrder.eq_filterMap]
  decide

end Client

end RouterTelemetry
