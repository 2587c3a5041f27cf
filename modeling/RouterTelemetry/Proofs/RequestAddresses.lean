import RouterTelemetry.Endpoint
import RouterTelemetry.Proofs.FetchPlan
import RouterTelemetry.Proofs.WrittenUrls

/-!
# Addresses of requests

The address of a request is the text of the endpoint, without slashes at its end, and the path of a
step below the root of the interface.  What is added goes on with the last part of the URL,
whichever that is: the path, unless the endpoint has a query or a fragment.  All parts before it
stay as they are.
-/

namespace RouterTelemetry.Url

open Endpoint

/-! ## Slashes at the end -/

theorem toList_withoutEndSlashes (text : String) :
    (withoutEndSlashes text).toList = text.toList.rdropWhile (· == '/') := by
  rw [withoutEndSlashes, String.toList_ofList, List.rdropWhile]

theorem mem_of_mem_withoutEndSlashes {text : String} {c : Char}
    (member : c ∈ (withoutEndSlashes text).toList) : c ∈ text.toList := by
  rw [toList_withoutEndSlashes] at member
  exact (List.rdropWhile_prefix _ _).subset member

/-- Slashes are dropped behind any other character. -/
theorem rdropWhile_append_cons (front : List Char) {c : Char} (other : c ≠ '/')
    (tail : List Char) :
    (front ++ c :: tail).rdropWhile (· == '/') = front ++ c :: tail.rdropWhile (· == '/') := by
  induction tail using List.reverseRecOn with
  | nil => exact List.rdropWhile_concat_neg _ _ _ (by simpa using other)
  | append_singleton tail last ih =>
      rw [← List.cons_append, ← List.append_assoc]
      by_cases slash : last = '/'
      · rw [List.rdropWhile_concat_pos _ _ _ (by simpa using slash), ih,
          List.rdropWhile_concat_pos _ _ _ (by simpa using slash)]
      · rw [List.rdropWhile_concat_neg _ _ _ (by simpa using slash),
          List.rdropWhile_concat_neg _ _ _ (by simpa using slash), List.append_assoc,
          List.cons_append]

theorem withoutEndSlashes_append {front : String} {init : List Char} {c : Char}
    (ends : front.toList = init ++ [c]) (other : c ≠ '/') (tail : String) :
    withoutEndSlashes (front ++ tail) = front ++ withoutEndSlashes tail := by
  refine String.toList_injective ?_
  rw [toList_withoutEndSlashes, String.toList_append, String.toList_append, ends,
    List.append_assoc, List.singleton_append, rdropWhile_append_cons init other,
    toList_withoutEndSlashes, List.append_assoc, List.singleton_append]

/-! ## Extended URLs -/

/-- The last part of the URL goes on with the text, in the place of slashes at its end. -/
def extended (url : Url) (more : String) : Url :=
  match url.fragment, url.query with
  | some fragment, _ => { url with fragment := some (withoutEndSlashes fragment ++ more) }
  | none, some query => { url with query := some (withoutEndSlashes query ++ more) }
  | none, none => { url with path := withoutEndSlashes url.path ++ more }

section

variable {url : Url}

theorem extended_of_fragment {fragment : String} (given : url.fragment = some fragment)
    (more : String) :
    url.extended more =
      { url with fragment := some (withoutEndSlashes fragment ++ more) } := by
  rw [extended, given]

theorem extended_of_query {query : String} (noFragment : url.fragment = none)
    (given : url.query = some query) (more : String) :
    url.extended more = { url with query := some (withoutEndSlashes query ++ more) } := by
  rw [extended, noFragment, given]

theorem extended_of_path (noFragment : url.fragment = none) (noQuery : url.query = none)
    (more : String) :
    url.extended more = { url with path := withoutEndSlashes url.path ++ more } := by
  rw [extended, noFragment, noQuery]

end

/-- The text consists of settled segments and is plain in a query. -/
@[mk_iff]
structure Continues (more : String) : Prop where
  slashed : slashed (splitAt '/' (more.toList.drop 1)) = more.toList
  settled : ∀ segment ∈ splitAt '/' (more.toList.drop 1), Settled segment
  plain : ∀ c ∈ more.toList, Plain webQuerySet c

theorem continues_iff_all (more : String) :
    (Url.slashed (splitAt '/' (more.toList.drop 1)) = more.toList ∧
        ((splitAt '/' (more.toList.drop 1)).all fun segment => Settled segment) ∧
        more.toList.all fun c => Plain webQuerySet c) ↔ Continues more := by
  simp [continues_iff]

instance (more : String) : Decidable (Continues more) :=
  decidable_of_iff _ (continues_iff_all more)

/-- Every character of such a text is plain in a fragment. -/
theorem Continues.plain_fragment {more : String} (continues : Continues more) :
    ∀ c ∈ more.toList, Plain fragmentSet c := by
  intro c member
  rw [← continues.slashed] at member
  rcases mem_slashed member with rfl | ⟨segment, listed, inside⟩
  · decide
  · obtain ⟨always, notListed⟩ := (continues.settled segment listed).plain c inside
    exact ⟨always, fun inFragment => notListed (List.mem_append_left _ inFragment)⟩

theorem plain_append {set : EncodeSet} {text more : String}
    (front : ∀ c ∈ text.toList, Plain set c) (back : ∀ c ∈ more.toList, Plain set c) :
    ∀ c ∈ (withoutEndSlashes text ++ more).toList, Plain set c := by
  intro c member
  rcases List.mem_append.mp (String.toList_append ▸ member) with early | late
  · exact front c (mem_of_mem_withoutEndSlashes early)
  · exact back c late

namespace Normal

variable {url : Url} {more : String}

/-- The path without slashes at its end and with more segments. -/
theorem path_append (normal : url.Normal) (continues : Continues more) :
    ∃ segments ≠ [], (∀ segment ∈ segments, Settled segment) ∧
      withoutEndSlashes url.path ++ more = String.ofList (Url.slashed segments) := by
  obtain ⟨segments, _, settled, path⟩ := normal.path
  refine ⟨segments.rdropWhile List.isEmpty ++ splitAt '/' (more.toList.drop 1), ?_, ?_, ?_⟩
  · exact fun empty => splitAt_ne_nil _ _ (List.append_eq_nil_iff.mp empty).2
  · exact List.forall_mem_append.mpr
      ⟨fun segment member => settled segment ((List.rdropWhile_prefix _ _).subset member),
        continues.settled⟩
  · refine String.toList_injective ?_
    rw [String.toList_append, toList_withoutEndSlashes, path, String.toList_ofList,
      rdropWhile_slashed fun segment member => (settled segment member).slash_notMem,
      String.toList_ofList, slashed_append, continues.slashed]

theorem extended (normal : url.Normal) (continues : Continues more) :
    (url.extended more).Normal := by
  cases fragment : url.fragment with
  | some text =>
      rw [extended_of_fragment fragment]
      refine { normal with fragment := ?_ }
      rintro _ ⟨⟩
      exact plain_append (normal.fragment text fragment) continues.plain_fragment
  | none =>
      cases query : url.query with
      | some text =>
          rw [extended_of_query fragment query]
          refine { normal with query := ?_ }
          rintro _ ⟨⟩
          exact plain_append (normal.query text query) continues.plain
      | none =>
          rw [extended_of_path fragment query]
          exact { normal with path := normal.path_append continues }

/-- The authority does not end with a slash. -/
theorem exists_last_authority (normal : url.Normal) :
    ∃ front c, url.authority.toList = front ++ [c] ∧ c ≠ '/' := by
  obtain ⟨host, given, stands⟩ := normal.host
  have text : url.authority.toList =
      '/' :: '/' :: (url.credentials.toList ++ (host.text.toList ++ url.portPart)) := by
    rw [authority, given, portPart]
    cases url.port <;> simp [marked]
  have full : url.credentials.toList ++ (host.text.toList ++ url.portPart) ≠ [] := by
    simp [stands.full]
  have inside := normal.inAuthority stands
  rcases List.eq_nil_or_concat (url.credentials.toList ++ (host.text.toList ++ url.portPart)) with
    empty | ⟨front, c, written⟩
  · exact absurd empty full
  · rw [written, List.concat_eq_append] at text inside
    refine ⟨'/' :: '/' :: front, c, text, ?_⟩
    rintro rfl
    exact absurd (inside '/' (by simp)).2 (by decide)

/-- The text of the extended URL is the text with the addition. -/
theorem href_extended (normal : url.Normal) (more : String) :
    (url.extended more).href = withoutEndSlashes url.href ++ more := by
  cases fragment : url.fragment with
  | some text =>
      have whole : url.href =
          url.scheme ++ ":" ++ url.authority ++ url.target ++ "#" ++ text := by
        rw [href, fragment]
        simp [String.append_assoc]
      have ends : (url.scheme ++ ":" ++ url.authority ++ url.target ++ "#").toList =
          (url.scheme ++ ":" ++ url.authority ++ url.target).toList ++ ['#'] :=
        String.toList_append
      rw [whole, withoutEndSlashes_append ends (by decide), extended_of_fragment fragment, href]
      change url.scheme ++ ":" ++ url.authority ++ url.target ++
        ("#" ++ (withoutEndSlashes text ++ more)) = _
      simp [String.append_assoc]
  | none =>
      cases query : url.query with
      | some text =>
          have whole : url.href =
              url.scheme ++ ":" ++ url.authority ++ url.path ++ "?" ++ text := by
            rw [href, target, fragment, query]
            simp [String.append_assoc]
          have ends : (url.scheme ++ ":" ++ url.authority ++ url.path ++ "?").toList =
              (url.scheme ++ ":" ++ url.authority ++ url.path).toList ++ ['?'] :=
            String.toList_append
          rw [whole, withoutEndSlashes_append ends (by decide), extended_of_query fragment query,
            href, target, fragment]
          change url.scheme ++ ":" ++ url.authority ++
            (url.path ++ ("?" ++ (withoutEndSlashes text ++ more))) ++ "" = _
          simp [String.append_assoc]
      | none =>
          obtain ⟨front, c, last, other⟩ := normal.exists_last_authority
          have whole : url.href = url.scheme ++ ":" ++ url.authority ++ url.path := by
            rw [href, target, fragment, query]
            simp [String.append_assoc]
          have ends : (url.scheme ++ ":" ++ url.authority).toList =
              (url.scheme ++ ":").toList ++ front ++ [c] := by
            rw [String.toList_append, last, List.append_assoc]
          rw [whole, withoutEndSlashes_append ends other, extended_of_path fragment query, href,
            target, fragment, query]
          change url.scheme ++ ":" ++ url.authority ++
            (withoutEndSlashes url.path ++ more ++ "") ++ "" = _
          simp [String.append_assoc]

/-- Text at the end of a URL goes on with its last part. -/
theorem parse_append (normal : url.Normal) (continues : Continues more) :
    parse (withoutEndSlashes url.href ++ more) = .ok (url.extended more) := by
  rw [← normal.href_extended more]
  exact (normal.extended continues).parse_href

end Normal

end RouterTelemetry.Url

namespace RouterTelemetry.Client

open Url Endpoint

/-! ## Requests -/

theorem Step.mem_plan {bands : List Band} {step : Step} (planned : step ∈ plan bands) :
    step ∈ plan [] ∨ ∃ band, step = Step.ofBand band := by
  rw [plan, List.mem_cons, fetchPlan, List.mem_append, List.mem_append] at planned
  rcases planned with rfl | (early | listed) | late
  · exact .inl List.mem_cons_self
  · exact .inl (List.mem_cons_of_mem _ (List.mem_append_left _ (List.mem_append_left _ early)))
  · obtain ⟨band, _, rfl⟩ := List.mem_map.mp listed
    exact .inr ⟨band, rfl⟩
  · exact .inl (List.mem_cons_of_mem _ (List.mem_append_right _ late))

/-- The path of every step goes on with any part of a URL. -/
theorem Step.continues {bands : List Band} {step : Step} (planned : step ∈ plan bands) :
    Continues (interfaceRoot ++ step.path) := by
  rcases mem_plan planned with fixed | ⟨band, rfl⟩
  · have all : ∀ step ∈ plan [], Continues (interfaceRoot ++ step.path) := by decide
    exact all step fixed
  · cases band <;> decide

end RouterTelemetry.Client

namespace RouterTelemetry.Endpoint

open Url Client

theorem normal_of_parse {text : String} {endpoint : Endpoint}
    (accepted : Endpoint.parse text = .ok endpoint) : endpoint.url.Normal := by
  rw [Endpoint.parse] at accepted
  cases read : Url.parse text with
  | error fault =>
      rw [read] at accepted
      cases accepted
  | ok url =>
      rw [read] at accepted
      dsimp only at accepted
      split_ifs at accepted with secure
      cases Except.ok.inj accepted
      refine Url.normal_of_parse read ?_
      rw [secure]
      rfl

/-- The address of a step is a URL: that of the endpoint, whose last part goes on with the path of
the step. -/
theorem parse_addressOf {text : String} {endpoint : Endpoint}
    (accepted : Endpoint.parse text = .ok endpoint) {bands : List Band} {step : Step}
    (planned : step ∈ plan bands) :
    Url.parse (endpoint.addressOf step.path) =
      .ok (endpoint.url.extended (interfaceRoot ++ step.path)) := by
  rw [addressOf, String.append_assoc]
  exact (normal_of_parse accepted).parse_append (Step.continues planned)

/-- Every step is addressed to the scheme, the user, the host and the port of the endpoint.  It is
addressed to its own path below the root of the interface if and only if the endpoint has neither a
query nor a fragment. -/
theorem addressed_path_iff {text : String} {endpoint : Endpoint}
    (accepted : Endpoint.parse text = .ok endpoint) {bands : List Band} {step : Step}
    (planned : step ∈ plan bands) :
    ∃ url, Url.parse (endpoint.addressOf step.path) = .ok url ∧
      url.scheme = endpoint.url.scheme ∧ url.user = endpoint.url.user ∧
      url.password = endpoint.url.password ∧ url.host = endpoint.url.host ∧
      url.port = endpoint.url.port ∧
      ((url.path = withoutEndSlashes endpoint.url.path ++ interfaceRoot ++ step.path ∧
          url.query = none ∧ url.fragment = none) ↔
        endpoint.url.query = none ∧ endpoint.url.fragment = none) := by
  refine ⟨_, parse_addressOf accepted planned, ?_⟩
  cases fragment : endpoint.url.fragment with
  | some part =>
      rw [extended_of_fragment fragment]
      simp
  | none =>
      cases query : endpoint.url.query with
      | some part =>
          rw [extended_of_query fragment query]
          simp
      | none =>
          rw [extended_of_path fragment query]
          simp [String.append_assoc, fragment, query]

/-- A port, a base path and slashes at its end. -/
theorem login_addressed_below_base :
    ∃ endpoint, Endpoint.parse "https://h:8443/a//" = .ok endpoint ∧ Step.login ∈ plan [] ∧
      ∃ url, Url.parse (endpoint.addressOf Step.login.path) = .ok url ∧
        url.host = some (.named "h") ∧ url.port = some 8443 ∧
        url.path = "/a/api/v1/login" ∧ url.query = none ∧ url.fragment = none := by
  have accepted : Endpoint.parse "https://h:8443/a//" =
      .ok ⟨{ scheme := "https", host := some (.named "h"), port := some 8443, path := "/a//" }⟩ :=
    rfl
  have planned : Step.login ∈ plan [] := List.mem_cons_self
  obtain ⟨url, read, _, _, _, host, port, component⟩ := addressed_path_iff accepted planned
  obtain ⟨path, noQuery, noFragment⟩ := component.mpr ⟨rfl, rfl⟩
  exact ⟨_, accepted, planned, url, read, host, port, path, noQuery, noFragment⟩

/-- A query takes the place of the path: the login goes to the root of the host. -/
theorem login_addressed_to_query :
    ∃ endpoint, Endpoint.parse "https://h/?x" = .ok endpoint ∧ Step.login ∈ plan [] ∧
      ∃ url, Url.parse (endpoint.addressOf Step.login.path) = .ok url ∧
        url.path ≠ withoutEndSlashes endpoint.url.path ++ interfaceRoot ++ Step.login.path ∧
        url.path = "/" ∧ url.query = some "x/api/v1/login" :=
  ⟨⟨{ scheme := "https", host := some (.named "h"), path := "/", query := some "x" }⟩, rfl,
    List.mem_cons_self,
    { scheme := "https", host := some (.named "h"), path := "/", query := some "x/api/v1/login" },
    rfl, by decide, rfl, rfl⟩

end RouterTelemetry.Endpoint
