import Mathlib.Data.List.Infix
import Mathlib.Data.List.TakeWhile
import Tollgate.Credential
import Tollgate.Proofs.Web.Form

/-!
Credentials in queries. However a form is written, the credential it carries is the first value of
the name that is set aside for it; and the query is of no account anywhere but under the path for
which the policy allows it.
-/

namespace Tollgate

namespace Text

/-- Nothing is left of a text exactly if all of it is white space. -/
theorem trim_eq_empty_iff (text : String) : trim text = "" ↔ text.toList.all isBlank = true := by
  have emptied : trim text = "" ↔ trimmed text.toList = [] := by
    rw [trim, ← String.toList_inj, String.toList_ofList]
    rfl
  rw [emptied, trimmed, stripped, List.reverse_eq_nil_iff, List.dropWhile_eq_nil_iff,
    List.all_eq_true]
  simp only [List.mem_reverse]
  constructor
  · -- If white space is all there is from the end on, then it is so from the front on as well.
    intro restBlank
    -- What follows the white space at the front would begin with something else.
    have nothing : text.toList.dropWhile isBlank = [] := by
      by_contra something
      have first := List.head_dropWhile_not isBlank something
      rw [restBlank _ (List.head_mem something)] at first
      cases first
    exact List.dropWhile_eq_nil_iff.mp nothing
  · -- Nothing but white space is dropped, from whichever end it is looked at.
    intro blank c member
    exact blank c ((List.dropWhile_sublist _).subset member)

end Text

namespace Web

/-- The path is the base, of which slashes at the end do not count, or goes on from it with a slash.
Every path goes on from a base of nothing but slashes. -/
def Under (path base : String) : Prop :=
  ∃ (stem : List Char) (slashes : Nat), base.toList = stem ++ List.replicate slashes '/' ∧
    stem.getLast? ≠ some '/' ∧
      (stem = [] ∨ path.toList = stem ∨ ∃ rest, path.toList = stem ++ '/' :: rest)

/-- What is left without the slashes at the end does not end with one. -/
theorem withoutTrailingSlashes_spec (path : List Char) :
    ∃ slashes, path = withoutTrailingSlashes path ++ List.replicate slashes '/' ∧
      (withoutTrailingSlashes path).getLast? ≠ some '/' := by
  refine ⟨(path.reverse.takeWhile (· == '/')).length, ?_, ?_⟩
  · -- The slashes that are counted are those at the front of the path turned round.
    have allSlashes : path.reverse.takeWhile (· == '/') =
        List.replicate (path.reverse.takeWhile (· == '/')).length '/' :=
      List.eq_replicate_iff.mpr ⟨rfl, fun c member => by simpa using List.mem_takeWhile_imp member⟩
    have parted := congrArg List.reverse
      (List.takeWhile_append_dropWhile (p := (· == '/')) (l := path.reverse))
    rw [List.reverse_append, List.reverse_reverse, allSlashes, List.reverse_replicate] at parted
    exact parted.symm
  · -- What is left begins, turned round, with something that does not pass for a slash.
    rw [withoutTrailingSlashes, List.getLast?_reverse]
    intro slash
    have first := List.head?_dropWhile_not (· == '/') path.reverse
    simp [slash] at first

/-- What does not end with a slash is all that is left of it without slashes behind it. -/
theorem withoutTrailingSlashes_append {stem : List Char} (ends : stem.getLast? ≠ some '/')
    (slashes : Nat) : withoutTrailingSlashes (stem ++ List.replicate slashes '/') = stem := by
  -- The slashes are dropped from the end, that is, from the front of the text turned round.
  have passed : ∀ c ∈ List.replicate slashes '/', (c == '/') = true := by simp
  rw [withoutTrailingSlashes, List.reverse_append, List.reverse_replicate,
    List.dropWhile_append_of_pos passed]
  rw [← List.head?_reverse] at ends
  cases turned : stem.reverse with
  | nil => rw [List.dropWhile_nil, List.reverse_nil, List.reverse_eq_nil_iff.mp turned]
  | cons last others =>
    have other : last ≠ '/' := by simpa [turned] using ends
    rw [List.dropWhile_cons_of_neg (by simpa using other), ← turned, List.reverse_reverse]

/-- A path is found to lie under a base exactly if it does. -/
theorem liesUnder_iff (path base : String) : liesUnder path base = true ↔ Under path base := by
  -- All that counts of the base is what is left of it without the slashes at its end.
  obtain ⟨slashes, parted, ends⟩ := withoutTrailingSlashes_spec base.toList
  have under : Under path base ↔ withoutTrailingSlashes base.toList = [] ∨
      path.toList = withoutTrailingSlashes base.toList ∨
        ∃ rest, path.toList = withoutTrailingSlashes base.toList ++ '/' :: rest := by
    -- There is only one way to take the slashes off, so the stem is what is left of the base.
    constructor
    · rintro ⟨stem, others, same, alsoEnds, goesOn⟩
      rwa [same, withoutTrailingSlashes_append alsoEnds]
    · exact fun goesOn => ⟨_, slashes, parted, ends, goesOn⟩
  rw [under, liesUnder]
  generalize withoutTrailingSlashes base.toList = stem
  simp only [Bool.or_eq_true, List.isEmpty_iff]
  refine or_congr_right ?_
  cases begun : stem.isPrefixOf? path.toList with
  | none =>
    -- The path does not even begin with what is left of the base.
    have apart (rest : List Char) : path.toList ≠ stem ++ rest := by
      intro same
      rw [List.isPrefixOf?_eq_some_iff_append_eq.mpr same.symm] at begun
      cases begun
    simp only [Bool.false_eq_true, false_iff, not_or, not_exists]
    exact ⟨fun same => apart [] (by rw [same, List.append_nil]), fun rest => apart ('/' :: rest)⟩
  | some rest =>
    rw [← List.isPrefixOf?_eq_some_iff_append_eq.mp begun]
    -- What follows the stem is nothing, or it begins with a slash or with something else.
    cases rest <;> simp

end Web

namespace Credential

variable {policy : Policy} {path : String} {headers : Web.Headers}

/-- A text is a credential without the white space around it, unless there is nothing else. -/
theorem of?_eq (text : String) (source : CredentialSource) :
    of? text source =
      if text.toList.all Text.isBlank then none else some ⟨Text.trim text, source⟩ := by
  -- The text is looked at with the white space taken off, of which nothing may be left.
  have emptied : (Text.trim text).isEmpty = true ↔ text.toList.all Text.isBlank = true := by
    rw [String.isEmpty_iff, Text.trim_eq_empty_iff]
  rw [of?, Text.trimToNonempty?]
  by_cases blank : text.toList.all Text.isBlank = true
  · rw [if_pos blank, if_pos (emptied.mpr blank), Option.map_none]
  · rw [if_neg blank, if_neg (mt emptied.mp blank), Option.map_some]

/-- Without a query there is a credential in the headers or none at all. -/
theorem find?_eq_orElse (policy : Policy) (path : String) (query : Option String)
    (headers : Web.Headers) :
    find? policy path query headers =
      (find? policy path none headers <|> inQuery? policy path query) := by
  have nothing : inQuery? policy path none = none := by
    cases allowed : policy.queryBase <;> simp only [inQuery?, allowed]
  simp only [find?, nothing]
  -- The headers are looked into first in either case.
  cases inHeader? policy headers <;> cases inAlternates? policy headers <;> rfl

/-- Where the policy allows for none, there is no credential in any query. -/
theorem inQuery?_of_not_under
    (elsewhere : ∀ base, policy.queryBase = some base → ¬ Web.Under path base)
    (query : Option String) : inQuery? policy path query = none := by
  unfold inQuery?
  split
  · rename_i base query allowed
    -- Under no such path is the query ever looked into.
    rw [if_neg fun lies => elsewhere base allowed ((Web.liesUnder_iff path base).mp lies)]
  · rfl

/-- A request with nothing usable in its headers has the credential that is carried by the form in
its query, if its path is under the one for which the policy allows that: the first value of the
name that is set aside for it, without the white space around it, unless there is nothing else.
There is a form for any names and values, and it makes no difference in which way it has been
written. Anywhere else the query makes no difference. -/
theorem credential_of_form (policy : Policy) (path : String) (headers : Web.Headers) :
    (∀ pairs, ∃ form : String, Web.WritesForm pairs form.toList) ∧
    (find? policy path none headers = none →
      ∀ base pairs form, policy.queryBase = some base → Web.Under path base →
        Web.WritesForm pairs form.toList →
          find? policy path (some form) headers =
            match pairs.find? fun pair => pair.1 == "key" with
            | none => none
            | some (_, value) =>
              if value.toList.all Text.isBlank then none else some ⟨Text.trim value, .query⟩) ∧
    ((∀ base, policy.queryBase = some base → ¬ Web.Under path base) →
      ∀ query other, find? policy path query headers = find? policy path other headers) := by
  refine ⟨Web.exists_writesForm, ?_, ?_⟩
  · intro unusable base pairs form allowed under writes
    have lies := (Web.liesUnder_iff path base).mpr under
    -- The headers have nothing to offer, so it all depends on the query.
    have searched : find? policy path (some form) headers = inQuery? policy path (some form) := by
      rw [find?_eq_orElse, unusable]
      rfl
    -- The first pair of the name is the same, however the pairs are taken apart.
    have first : inQuery? policy path (some form) =
        (pairs.find? fun pair => pair.1 == "key").bind fun pair => of? pair.2 .query := by
      simp only [inQuery?, allowed, lies, if_true, Web.formPairs_of_writes writes]
      rfl
    rw [searched, first]
    cases pairs.find? fun pair => pair.1 == "key" with
    | none => rfl
    | some pair =>
      rw [Option.bind_some, of?_eq]
  · intro elsewhere query other
    -- The query does not count, and what is left of both requests is the same.
    rw [find?_eq_orElse, find?_eq_orElse policy path other, inQuery?_of_not_under elsewhere,
      inQuery?_of_not_under elsewhere]

/-- A value begins with a space and has a letter outside the ASCII range, of which the octets are
escaped in different casing; a letter of the name is escaped that need not be. A second value of the
name comes after two signs, and is not tried. -/
theorem credential_of_form_escaped :
    let form := "k%65y=+%c3%A9&&key=b"
    let pairs := [("key", " é"), ("key", "b")]
    find? .standard "/v1beta/models" none [] = none ∧ Web.Under "/v1beta/models" "/v1beta" ∧
      Web.WritesForm pairs form.toList ∧
      find? .standard "/v1beta/models" (some form) [] = some ⟨"é", .query⟩ ∧
      find? .standard "/v1/models" (some form) [] = find? .standard "/v1/models" none [] := by
  intro form pairs
  have under : Web.Under "/v1beta/models" "/v1beta" :=
    ⟨"/v1beta".toList, 0, by decide, by decide, Or.inr (Or.inr ⟨"models".toList, by decide⟩)⟩
  -- The other path is tried by the decision itself, as it has no stem to show.
  have elsewhere : ¬ Web.Under "/v1/models" "/v1beta" := by
    rw [← Web.liesUnder_iff]
    decide
  have key : "key".toUTF8.toList = [0x6B, 0x65, 0x79] := by decide +kernel
  have named : Web.WritesText "key" (['k'] ++ (['%', '6', '5'] ++ (['y'] ++ []))) := by
    rw [Web.WritesText, key]
    exact .cons (.plain rfl rfl) (.cons (.escape (Or.inl rfl) (Or.inl rfl))
      (.cons (.plain rfl rfl) .nil))
  have valued : Web.WritesText " é" (['+'] ++ (['%', 'c', '3'] ++ (['%', 'A', '9'] ++ []))) := by
    rw [Web.WritesText, show " é".toUTF8.toList = [0x20, 0xC3, 0xA9] by decide +kernel]
    exact .cons (.plus rfl) (.cons (.escape (Or.inl rfl) (Or.inl rfl))
      (.cons (.escape (Or.inr rfl) (Or.inl rfl)) .nil))
  have namedAgain : Web.WritesText "key" (['k'] ++ (['e'] ++ (['y'] ++ []))) := by
    rw [Web.WritesText, key]
    exact .cons (.plain rfl rfl) (.cons (.plain rfl rfl) (.cons (.plain rfl rfl) .nil))
  have valuedAgain : Web.WritesText "b" (['b'] ++ []) := by
    rw [Web.WritesText, show "b".toUTF8.toList = [0x62] by decide +kernel]
    exact .cons (.plain rfl rfl) .nil
  have spelled : form.toList = ['k', '%', '6', '5', 'y', '=', '+', '%', 'c', '3', '%', 'A', '9', '&',
      '&', 'k', 'e', 'y', '=', 'b'] := by decide
  have writes : Web.WritesForm pairs form.toList := by
    rw [spelled]
    -- There are two signs between the pairs, which is one more than needed.
    exact .more named valued 1 (.one namedAgain valuedAgain)
  obtain ⟨-, carries, -⟩ := credential_of_form .standard "/v1beta/models" []
  obtain ⟨-, -, ignores⟩ := credential_of_form .standard "/v1/models" []
  have carried := carries (by decide) "/v1beta" pairs form rfl under writes
  refine ⟨by decide, under, writes, carried, ?_⟩
  exact ignores (fun base allowed => Option.some.inj allowed ▸ elsewhere) (some form) none

end Credential

end Tollgate
