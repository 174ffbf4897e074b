import Tollgate.Proofs.Credential
import Tollgate.Proofs.Credential.Scheme
import Tollgate.Web.Message

/-!
Where a credential is looked for. The places are tried in a fixed order, and the first one in which
a token can be found decides; what cannot be used in the places before it is passed over, and what
stands in those behind it is not looked at.
-/

namespace Tollgate.Credential

open Text

/-- A place in a request where a credential may stand. -/
inductive Place where
  /-- A header, where the token may have to follow a scheme. -/
  | header (name : String) (scheme : Option String)
  /-- The query. -/
  | query
  deriving DecidableEq

/-- Where a credential from the place has been found. -/
def Place.source : Place → CredentialSource
  | .header _ _ => .header
  | .query => .query

/-- The places in which a credential is looked for, in their order. -/
def places (policy : Policy) : List Place :=
  .header policy.headerName policy.scheme ::
    (if policy.alternateHeaders then
      [.header "x-goog-api-key" none, .header "x-api-key" none] else []) ++
    [.query]

/-- What a request says in a place: the first value of a header, or the first value of the name that
is set aside in queries, under the path for which the policy allows that. -/
def Says (policy : Policy) (request : Web.Request) : Place → String → Prop
  | .header name _, value => request.headers.IsFirst name value
  | .query, value =>
    ∃ base form front back, policy.queryBase = some base ∧ Web.Under request.path base ∧
      request.query = some form ∧ Web.formPairs form = front ++ ("key", value) :: back ∧
        ∀ earlier ∈ front, earlier.1 ≠ "key"

/-- The token that stands in what is said in a place. -/
def Place.Means : Place → String → String → Prop
  | .header _ scheme, value, token => Web.IsReadable value ∧ Holds scheme value token
  | .query, value, token => Holds none value token

/-- A token can be found in a place. -/
def Offers (policy : Policy) (request : Web.Request) (place : Place) (token : String) : Prop :=
  ∃ value, Says policy request place value ∧ place.Means value token

/-- A token is not empty, and has no white space at its ends. -/
theorem Holds.neat {scheme : Option String} {value token : String}
    (holds : Holds scheme value token) : token ≠ "" ∧ IsTrimmed token.toList := by
  cases scheme with
  | none =>
    -- All of the value is the token, once the white space around it is gone.
    obtain ⟨rfl, present⟩ := holds
    refine ⟨present, ?_⟩
    rw [toList_trim]
    exact isTrimmed_trimmed value.toList
  | some scheme =>
    -- What a value carries behind a scheme is there, and has no white space at its ends.
    obtain ⟨spelled, gap, carries⟩ := holds
    refine ⟨?_, carries.neat⟩
    intro nothing
    exact carries.present (congrArg String.toList nothing)

variable {policy : Policy} {request : Web.Request} {place : Place}

/-- Whatever place a token is found in, it is not empty, and has no white space at its ends. -/
theorem Offers.neat {token : String} (offers : Offers policy request place token) :
    token ≠ "" ∧ IsTrimmed token.toList := by
  -- In either kind of place, the token is one that a value holds.
  obtain ⟨value, -, means⟩ := offers
  cases place with
  | header name scheme => exact means.2.neat
  | query =>
    have holds : Holds none value token := means
    exact holds.neat

/-- The credential found in a place. -/
def lookIn? (policy : Policy) (request : Web.Request) : Place → Option Credential
  | .header name scheme =>
    inHeader? { policy with headerName := name, scheme := scheme } request.headers
  | .query => inQuery? policy request.path request.query

/-- The credential in the query is the first value of the name that is set aside, under the path for
which the policy allows it. -/
theorem inQuery?_eq_some_iff {credential : Credential} :
    inQuery? policy request.path request.query = some credential ↔
      credential.source = .query ∧ ∃ value, Says policy request .query value ∧
        Holds none value credential.value := by
  -- The query is looked at only if there is one and the path allows for it.
  unfold inQuery?
  cases allowed : policy.queryBase with
  | none => simp [Says, allowed]
  | some base =>
    cases asked : request.query with
    | none => simp [Says, asked]
    | some form =>
      by_cases under : Web.Under request.path base
      · have lies := (Web.liesUnder_iff request.path base).mpr under
        simp only [lies, if_true, Option.bind_eq_some_iff, List.find?_eq_some_iff_append,
          of?_eq_some_iff, queryName, beq_iff_eq]
        constructor
        · -- The pair that is found is the first one of that name.
          intro found
          obtain ⟨pair, ⟨named, front, back, listed, others⟩, source, left⟩ := found
          refine ⟨source, pair.2, ⟨base, form, front, back, allowed, under, asked, ?_, ?_⟩, left⟩
          · rw [listed, ← named]
          · intro earlier member
            simpa using others earlier member
        · intro found
          obtain ⟨source, value,
            ⟨only, same, front, back, isBase, -, isForm, listed, others⟩, left⟩ := found
          obtain rfl := Option.some.inj (asked.symm.trans isForm)
          refine ⟨("key", value), ⟨rfl, front, back, listed, ?_⟩, source, left⟩
          intro earlier member
          simpa using others earlier member
      · -- Under any other path, the query says nothing.
        have apart : ¬ Web.liesUnder request.path base = true :=
          mt (Web.liesUnder_iff request.path base).mp under
        simp [Says, allowed, under, apart]

/-- What is found in a place is the token that can be found there. -/
theorem lookIn?_eq_some_iff {credential : Credential} :
    lookIn? policy request place = some credential ↔
      credential.source = place.source ∧ Offers policy request place credential.value := by
  cases place with
  | header name scheme => exact inHeader?_eq_some_iff
  | query => exact inQuery?_eq_some_iff

/-- Nothing is found in a place exactly if no token can be. -/
theorem lookIn?_eq_none_iff :
    lookIn? policy request place = none ↔ ∀ token, ¬ Offers policy request place token := by
  rw [Option.eq_none_iff_forall_ne_some]
  constructor
  · intro missing token offers
    exact missing ⟨token, place.source⟩ (lookIn?_eq_some_iff.mpr ⟨rfl, offers⟩)
  · intro unusable credential found
    exact unusable credential.value (lookIn?_eq_some_iff.mp found).2

/-- Requests that say the same in a place carry the same credential there. -/
theorem lookIn?_congr {other : Web.Request}
    (agree : ∀ value, Says policy other place value ↔ Says policy request place value) :
    lookIn? policy other place = lookIn? policy request place := by
  -- What is found depends on the request through what it says only.
  apply Option.ext
  intro credential
  simp only [lookIn?_eq_some_iff, Offers, agree]

/-- Nothing else is found in places in which requests say the same. -/
theorem findSome?_lookIn?_congr {other : Web.Request} {tried : List Place}
    (agree : ∀ seen ∈ tried, ∀ value,
      Says policy other seen value ↔ Says policy request seen value) :
    tried.findSome? (lookIn? policy other) = tried.findSome? (lookIn? policy request) := by
  -- By induction on the places, of which each one is looked at in the same way.
  induction tried with
  | nil => rfl
  | cons place rest ih =>
    have here := lookIn?_congr (agree place List.mem_cons_self)
    have later := ih fun seen member => agree seen (List.mem_cons_of_mem place member)
    rw [List.findSome?_cons, List.findSome?_cons, here, later]

/-- The whole value of an alternate header is looked at, as if it were configured without a
scheme. -/
theorem inAlternates?_eq (policy : Policy) (request : Web.Request) :
    inAlternates? policy request.headers =
      (if policy.alternateHeaders then
        [.header "x-goog-api-key" none, .header "x-api-key" none] else []).findSome?
          (lookIn? policy request) := by
  -- Without a scheme, the configured header is read as an alternate one is.
  have same (name : String) : (request.headers.text? name).bind (of? · .header) =
      lookIn? policy request (.header name none) := by
    simp only [lookIn?, inHeader?]
    cases request.headers.text? name <;> rfl
  unfold inAlternates?
  split
  · -- The names of the alternate headers are those of the places.
    simp only [alternateHeaders, List.findSome?_cons, same, List.findSome?_nil]
  · rfl

/-- The places are tried in their order. -/
theorem find?_eq_findSome? (policy : Policy) (request : Web.Request) :
    find? policy request.path request.query request.headers =
      (places policy).findSome? (lookIn? policy request) := by
  -- The configured header is the first place, whatever the policy allows for besides.
  have configured : inHeader? policy request.headers =
      lookIn? policy request (.header policy.headerName policy.scheme) := rfl
  have queried : inQuery? policy request.path request.query = lookIn? policy request .query := rfl
  rw [find?, inAlternates?_eq, configured, queried, places, List.cons_append, List.findSome?_cons,
    List.findSome?_append, List.findSome?_singleton]
  simp only [Option.orElse_eq_orElse, Option.orElse_eq_or]
  cases lookIn? policy request (.header policy.headerName policy.scheme) with
  | some credential => rw [Option.some_or]
  | none => rw [Option.none_or]

/-- The credential of a request is the token in the first place where one can be found: the
configured header, then the alternate headers, if the policy allows for them, then the query, under
the path for which the policy allows that. There is none if there is no such place. A token is not
empty, and has no white space at its ends. Whatever else a request carries, what it says up to the
first place where a token can be found decides. -/
theorem find?_first_usable (policy : Policy) (request : Web.Request) :
    (∀ credential, find? policy request.path request.query request.headers = some credential ↔
      ∃ before place after, places policy = before ++ place :: after ∧
        credential.source = place.source ∧ Offers policy request place credential.value ∧
          ∀ earlier ∈ before, ∀ token, ¬ Offers policy request earlier token) ∧
    (find? policy request.path request.query request.headers = none ↔
      ∀ place ∈ places policy, ∀ token, ¬ Offers policy request place token) ∧
    (∀ credential, find? policy request.path request.query request.headers = some credential →
      credential.value ≠ "" ∧ IsTrimmed credential.value.toList) ∧
    ∀ (other : Web.Request) (before after : List Place) (place : Place),
      places policy = before ++ place :: after →
      (∃ token, Offers policy request place token) →
      (∀ seen ∈ before ++ [place], ∀ value,
        Says policy other seen value ↔ Says policy request seen value) →
      find? policy other.path other.query other.headers =
        find? policy request.path request.query request.headers := by
  -- Of a search through a list, it is known what it finds and what it does not depend on.
  simp only [find?_eq_findSome?]
  refine ⟨?_, ?_, ?_, ?_⟩
  · intro credential
    simp only [List.findSome?_eq_some_iff, lookIn?_eq_some_iff, lookIn?_eq_none_iff, and_assoc]
  · simp only [List.findSome?_eq_none_iff, lookIn?_eq_none_iff]
  · intro credential found
    obtain ⟨before, place, after, -, here, -⟩ := List.findSome?_eq_some_iff.mp found
    exact (lookIn?_eq_some_iff.mp here).2.neat
  · intro other before after place listed usable agree
    obtain ⟨token, offers⟩ := usable
    have here : lookIn? policy request place = some ⟨token, place.source⟩ :=
      lookIn?_eq_some_iff.mpr ⟨rfl, offers⟩
    -- The search ends in that place at the latest.
    have found : (before ++ [place]).findSome? (lookIn? policy request) ≠ none := by
      intro missing
      rw [List.findSome?_eq_none_iff] at missing
      rw [missing place (by simp)] at here
      cases here
    have parted (look : Place → Option Credential) : (places policy).findSome? look =
        ((before ++ [place]).findSome? look).or (after.findSome? look) := by
      rw [listed, List.append_cons]
      exact List.findSome?_append
    -- Both searches end in the same place, and none of those behind it is tried.
    rw [parted, parted, findSome?_lookIn?_congr agree]
    cases ended : (before ++ [place]).findSome? (lookIn? policy request) with
    | none => exact absurd ended found
    | some credential => rfl

/-- The configured header is one of the alternates as well. Its value lacks the scheme, and the
other alternate is blank, so it is the same header that decides, with all of its first value;
neither the query nor the rest of the request makes a difference. -/
theorem find?_first_usable_alternate :
    let policy := { Policy.standard with headerName := "X-Api-Key" }
    let headers : Web.Headers :=
      [⟨"x-api-key", " sk-1"⟩, ⟨"X-Goog-Api-Key", " "⟩, ⟨"x-api-key", "Bearer sk-2"⟩]
    let request : Web.Request := ⟨.get, "/v1beta/models", some "key=sk-3", headers, ""⟩
    let other : Web.Request := ⟨.put, "/v1/models", none, ⟨"accept", "*/*"⟩ :: headers, "{}"⟩
    let asking : Web.Request := ⟨.get, "/v1beta/models", some "alt=1&key=%73k-3&key=sk-4",
      [⟨"X-Goog-Api-Key", " "⟩], ""⟩
    find? policy request.path request.query request.headers = some ⟨"sk-1", .header⟩ ∧
      find? policy other.path other.query other.headers = some ⟨"sk-1", .header⟩ ∧
      find? policy asking.path asking.query asking.headers = some ⟨"sk-3", .query⟩ := by
  intro policy headers request other asking
  have listed : places policy =
      [.header "X-Api-Key" (some "Bearer"), .header "x-goog-api-key" none] ++
        .header "x-api-key" none :: [.query] := rfl
  have readable : Web.IsReadable " sk-1" := by simp [Web.IsReadable]
  have plain : Offers policy request (.header "x-api-key" none) "sk-1" :=
    ⟨" sk-1", Web.Headers.first?_eq_some_iff.mp (by decide), readable, by decide, by decide⟩
  -- The request says something in both places before, of which neither makes a token.
  have passed : ∀ earlier ∈ [Place.header "X-Api-Key" (some "Bearer"),
      Place.header "x-goog-api-key" none], ∀ token, ¬ Offers policy request earlier token := by
    intro earlier member
    rw [← lookIn?_eq_none_iff]
    simp only [List.mem_cons, List.not_mem_nil, or_false] at member
    rcases member with rfl | rfl <;> decide
  have agree : ∀ seen ∈ [Place.header "X-Api-Key" (some "Bearer"),
      Place.header "x-goog-api-key" none] ++ [Place.header "x-api-key" none],
      ∀ value, Says policy other seen value ↔ Says policy request seen value := by
    have same : ∀ name ∈ ["X-Api-Key", "x-goog-api-key", "x-api-key"],
        other.headers.first? name = request.headers.first? name := by decide
    intro seen member value
    simp only [List.cons_append, List.nil_append, List.mem_cons, List.not_mem_nil,
      or_false] at member
    rcases member with rfl | rfl | rfl <;>
      simp only [Says, ← Web.Headers.first?_eq_some_iff] <;> rw [same _ (by simp)]
  obtain ⟨found, -, -, agrees⟩ := find?_first_usable policy request
  have here : find? policy request.path request.query request.headers = some ⟨"sk-1", .header⟩ :=
    (found _).mpr ⟨_, _, _, listed, rfl, plain, passed⟩
  -- In the last request there is no header that makes a token, so it is the turn of the query.
  have written : Says policy asking .query "sk-3" :=
    ⟨"/v1beta", "alt=1&key=%73k-3&key=sk-4", [("alt", "1")], [("key", "sk-4")], rfl,
      (Web.liesUnder_iff _ _).mp (by decide), rfl, by decide +kernel, by simp⟩
  have missed : ∀ earlier ∈ [Place.header "X-Api-Key" (some "Bearer"),
      Place.header "x-goog-api-key" none, Place.header "x-api-key" none],
      ∀ token, ¬ Offers policy asking earlier token := by
    intro earlier member
    rw [← lookIn?_eq_none_iff]
    simp only [List.mem_cons, List.not_mem_nil, or_false] at member
    rcases member with rfl | rfl | rfl <;> decide
  have last : find? policy asking.path asking.query asking.headers = some ⟨"sk-3", .query⟩ :=
    ((find?_first_usable policy asking).1 _).mpr
      ⟨_, .query, [], rfl, rfl, ⟨"sk-3", written, by decide, by decide⟩, missed⟩
  exact ⟨here, (agrees other _ _ _ listed ⟨"sk-1", plain⟩ agree).trans here, last⟩

end Tollgate.Credential
