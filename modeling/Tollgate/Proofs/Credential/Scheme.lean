import Tollgate.Credential
import Tollgate.Proofs.Text.Blank
import Tollgate.Proofs.Text.Slice
import Tollgate.Proofs.Web.Headers

/-!
The configured header. What stands in it is a scheme, white space and a token, and there is one way
only to take it apart like that. Where the scheme ends may be found by counting octets, since the
count never leads into the middle of a character.
-/

namespace Tollgate.Credential

open Text

/-- A value is made up of a scheme, the casing of ASCII letters set aside, of white space, and of a
token that neither begins nor ends with white space. -/
structure Carries (scheme : String) (value spelled gap token : List Char) : Prop where
  /-- The value falls into these parts. -/
  parted : value = spelled ++ gap ++ token
  /-- The first part is the scheme. -/
  spells : SameLetters spelled scheme.toList
  /-- The second part is there. -/
  apart : gap ≠ []
  /-- The second part is white space. -/
  blank : AllBlank gap
  /-- The third part is there. -/
  present : token ≠ []
  /-- The third part has no white space at its ends. -/
  neat : IsTrimmed token

/-- A value falls into a scheme, white space and a token in one way at most. -/
theorem Carries.unique {scheme : String} {value spelled gap token other space found : List Char}
    (carries : Carries scheme value spelled gap token)
    (also : Carries scheme value other space found) :
    spelled = other ∧ gap = space ∧ token = found := by
  -- The schemes have as many characters, and the white space ends where the token begins.
  have lengths : spelled.length = other.length :=
    carries.spells.length_eq.trans also.spells.length_eq.symm
  have whole := carries.parted.symm.trans also.parted
  rw [List.append_assoc, List.append_assoc] at whole
  obtain ⟨same, rest⟩ := List.append_inj whole lengths
  have token_eq := congrArg (List.dropWhile isBlank) rest
  rw [dropWhile_isBlank_append carries.blank carries.neat.first,
    dropWhile_isBlank_append also.blank also.neat.first] at token_eq
  -- With the tokens equal, so is what stands in front of them.
  rw [token_eq] at rest
  exact ⟨same, List.append_cancel_right rest, token_eq⟩

/-- What follows a scheme is what is left of the value behind as many characters, if these spell
it. -/
theorem afterScheme?_eq_some_iff {scheme value rest : List Char} :
    afterScheme? scheme value = some rest ↔
      ∃ spelled, value = spelled ++ rest ∧ SameLetters spelled scheme := by
  -- By induction on the comparison, which spells the scheme one character at a time.
  fun_induction afterScheme? scheme value with
  | case1 value =>
    constructor
    · intro same
      cases same
      exact ⟨[], rfl, rfl⟩
    · -- A scheme without characters is spelled by nothing.
      intro spells
      obtain ⟨spelled, rfl, same⟩ := spells
      rw [List.length_eq_zero_iff.mp same.length_eq, List.nil_append]
  | case2 wanted scheme =>
    -- The value ends within the scheme.
    constructor
    · intro impossible
      cases impossible
    · intro spells
      obtain ⟨spelled, parted, same⟩ := spells
      obtain ⟨rfl, -⟩ := List.append_eq_nil_iff.mp parted.symm
      cases same.length_eq
  | case3 wanted scheme c more matched ih =>
    rw [ih]
    constructor
    · intro spells
      -- The matched letter is put back in front.
      obtain ⟨spelled, rfl, same⟩ := spells
      exact ⟨c :: spelled, rfl, congrArg₂ List.cons matched same⟩
    · intro spells
      obtain ⟨spelled, parted, same⟩ := spells
      -- The first letter of what spells the scheme is the one that matched.
      cases spelled with
      | nil => cases same.length_eq
      | cons first others =>
        obtain ⟨-, rest⟩ := List.cons.inj parted
        exact ⟨others, rest, (List.cons.inj same).2⟩
  | case4 wanted scheme c more differ =>
    -- No front of the value spells the scheme, since its first character does not.
    constructor
    · intro impossible
      cases impossible
    · intro spells
      obtain ⟨spelled, parted, same⟩ := spells
      cases spelled with
      | nil => cases same.length_eq
      | cons first others =>
        obtain ⟨rfl, -⟩ := List.cons.inj parted
        exact absurd (List.cons.inj same).1 differ

/-- The scheme taken off by counting its octets: what is left behind them, if those in front spell
the scheme and white space follows. The outer option is empty if octets are taken away that are not
there or belong to a character of which others are left. -/
def cutScheme? (scheme : String) (value : List Char) : Option (Option (List Char)) :=
  match upTo? value scheme.utf8ByteSize with
  | none => some none
  | some spelled =>
    if spelled.map Char.toLower = scheme.toList.map Char.toLower then
      match behind? value scheme.utf8ByteSize with
      | none => none
      | some rest => some (if rest.head?.any isBlank then some rest else none)
    else some none

/-- Counting octets finds what comparing letters finds, and always finds the end of a character. -/
theorem cutScheme?_eq (scheme : String) (value : List Char) :
    cutScheme? scheme value = some (schemeToken? scheme value) := by
  rw [cutScheme?, schemeToken?, utf8ByteSize_eq]
  cases found : upTo? value (octetCount scheme.toList) with
  | none =>
    -- A value in front of which the scheme stands would have as many octets.
    have missing : afterScheme? scheme.toList value = none := by
      rw [Option.eq_none_iff_forall_ne_some]
      intro rest cut
      obtain ⟨spelled, rfl, same⟩ := afterScheme?_eq_some_iff.mp cut
      rw [← same.octetCount_eq, upTo?_append] at found
      cases found
    rw [missing]
  | some spelled =>
    -- The octets of the scheme end a character, so that those behind it can be cut off.
    obtain ⟨counted, rest, rfl⟩ := eq_append_of_upTo? found
    by_cases same : spelled.map Char.toLower = scheme.toList.map Char.toLower
    · rw [afterScheme?_eq_some_iff.mpr ⟨spelled, rfl, same⟩, ← counted, behind?_append]
      simp only [if_pos same]
    · -- Any other front that spells the scheme would have as many octets, and be the same one.
      have missing : afterScheme? scheme.toList (spelled ++ rest) = none := by
        rw [Option.eq_none_iff_forall_ne_some]
        intro other cut
        obtain ⟨front, parted, matched⟩ := afterScheme?_eq_some_iff.mp cut
        rw [parted, ← SameLetters.octetCount_eq matched, upTo?_append] at found
        exact same (Option.some.inj found ▸ matched)
      simp only [missing, if_neg same]

/-- What follows a scheme counts only behind white space. -/
theorem schemeToken?_eq_some_iff {scheme : String} {value rest : List Char} :
    schemeToken? scheme value = some rest ↔
      (∃ spelled, value = spelled ++ rest ∧ SameLetters spelled scheme.toList) ∧
        ∃ c, rest.head? = some c ∧ isBlank c = true := by
  -- The scheme is taken off first, and what follows it is tested.
  rw [← afterScheme?_eq_some_iff, schemeToken?]
  cases cut : afterScheme? scheme.toList value with
  | none => simp
  -- There is something behind the scheme, and its first character decides.
  | some behind =>
    simp only [Option.some.injEq]
    by_cases spaced : behind.head?.any isBlank = true
    · rw [if_pos spaced, Option.some.injEq]
      rw [Option.any_eq_true] at spaced
      constructor
      · intro same
        exact ⟨same, same ▸ spaced⟩
      · exact fun found => found.1
    · rw [if_neg spaced]
      rw [Option.any_eq_true] at spaced
      simp only [reduceCtorEq, false_iff, not_and]
      intro same
      exact same ▸ spaced

/-- Of a value without white space at its ends, a token is left behind a scheme exactly if the value
falls into the scheme, white space and the token. -/
theorem exists_schemeToken?_iff {scheme : String} {value token : List Char}
    (neat : IsTrimmed value) :
    (∃ rest, schemeToken? scheme value = some rest ∧ trimmed rest = token ∧ token ≠ []) ↔
      ∃ spelled gap, Carries scheme value spelled gap token := by
  constructor
  · intro found
    obtain ⟨rest, cut, left, present⟩ := found
    obtain ⟨⟨spelled, rfl, same⟩, c, first, spaced⟩ := schemeToken?_eq_some_iff.mp cut
    obtain ⟨front, back, blank, alsoBlank, parted, neatToken⟩ := trimmed_spec rest
    rw [left] at parted neatToken
    -- The value ends with the token, for it does not end with white space.
    have ended : back = [] := by
      cases located : back.getLast? with
      | none => exact List.getLast?_eq_none_iff.mp located
      | some d =>
        have last : (spelled ++ rest).getLast? = some d := by
          rw [parted, List.getLast?_append, List.getLast?_append, located]
          rfl
        have dropped := alsoBlank d (List.mem_of_getLast? located)
        rw [neat.last d last] at dropped
        cases dropped
    rw [ended, List.append_nil] at parted
    -- What follows the scheme begins with white space, which the token does not.
    have apart : front ≠ [] := by
      intro nothing
      -- The first character behind the scheme would be that of the token.
      rw [parted, nothing, List.nil_append] at first
      rw [neatToken.first c first] at spaced
      cases spaced
    refine ⟨spelled, front, ?_, same, apart, blank, present, neatToken⟩
    rw [parted, List.append_assoc]
  · intro found
    obtain ⟨spelled, gap, carries⟩ := found
    -- The white space behind the scheme is the only one around the token.
    have left : trimmed (gap ++ token ++ []) = token :=
      trimmed_append carries.blank (by simp [AllBlank]) carries.neat
    rw [List.append_nil] at left
    refine ⟨gap ++ token, ?_, left, carries.present⟩
    rw [schemeToken?_eq_some_iff]
    refine ⟨⟨spelled, ?_, carries.spells⟩, ?_⟩
    · rw [carries.parted, List.append_assoc]
    · -- The gap in front of the token is there and is white.
      obtain ⟨c, more, parted⟩ := List.exists_cons_of_ne_nil carries.apart
      refine ⟨c, by rw [parted]; rfl, carries.blank c ?_⟩
      rw [parted]
      exact List.mem_cons_self

/-- A text is a credential without the white space around it, unless nothing is left. -/
theorem of?_eq_some_iff {text : String} {source : CredentialSource} {credential : Credential} :
    of? text source = some credential ↔
      credential.source = source ∧ credential.value = trim text ∧ credential.value ≠ "" := by
  -- Trimming leaves the value, and the source is the one given.
  rw [of?, Option.map_eq_some_iff]
  constructor
  · intro found
    obtain ⟨value, kept, rfl⟩ := found
    exact ⟨rfl, trimToNonempty?_eq_some_iff.mp kept⟩
  · intro found
    obtain ⟨rfl, kept⟩ := found
    exact ⟨credential.value, trimToNonempty?_eq_some_iff.mpr kept, rfl⟩

/-- A token that is left of a list of characters. -/
theorem of?_ofList_eq_some_iff {rest : List Char} {source : CredentialSource}
    {credential : Credential} :
    of? (String.ofList rest) source = some credential ↔
      credential.source = source ∧ trimmed rest = credential.value.toList ∧
        credential.value.toList ≠ [] := by
  -- Texts are equal if their characters are.
  rw [of?_eq_some_iff, ← String.toList_inj, toList_trim, String.toList_ofList, ne_eq,
    ← String.toList_inj, eq_comm (a := credential.value.toList)]
  exact Iff.rfl

/-- The token that stands in a header: behind the scheme, if there is to be one, and otherwise all
of the value without the white space around it. -/
def Holds (scheme : Option String) (value token : String) : Prop :=
  match scheme with
  | none => token = trim value ∧ token ≠ ""
  | some scheme =>
    ∃ spelled gap, Carries scheme (trimmed value.toList) spelled gap token.toList

/-- Behind a scheme, a token is what is left of that without the white space around it. -/
theorem holds_some_iff {scheme value token : String} :
    Holds (some scheme) value token ↔
      ∃ rest, schemeToken? scheme (trimmed value.toList) = some rest ∧
        trimmed rest = token.toList ∧ token.toList ≠ [] :=
  (exists_schemeToken?_iff (isTrimmed_trimmed value.toList)).symm

/-- The credential in the configured header is the token that stands in its first value, if that can
be read. -/
theorem inHeader?_eq_some_iff {policy : Policy} {headers : Web.Headers} {credential : Credential} :
    inHeader? policy headers = some credential ↔
      credential.source = .header ∧ ∃ value, headers.IsFirst policy.headerName value ∧
        Web.IsReadable value ∧ Holds policy.scheme value credential.value := by
  -- The first value and whether it can be read are asked about together.
  simp only [← and_assoc (b := Web.IsReadable _), ← Web.Headers.text?_eq_some_iff]
  unfold inHeader?
  -- Without a readable value there is nothing to look at.
  cases found : headers.text? policy.headerName with
  | none => simp
  | some value =>
    simp only [Option.some.injEq, exists_eq_left']
    cases configured : policy.scheme with
    | none => exact of?_eq_some_iff
    | some scheme =>
      -- Behind the scheme, the token is found as above; the two sides match case by case.
      simp only [holds_some_iff]
      cases cut : schemeToken? scheme (trimmed value.toList) with
      | none => simp
      | some rest =>
        simp only [of?_ofList_eq_some_iff, Option.some.injEq, exists_eq_left']

/-- The configured header holds a token exactly if its value, without the white space around it, is
the scheme, the casing of ASCII letters set aside, white space, and the token with none at its ends.
There is one way only to take it apart like that, and where the scheme ends is found by counting
octets, which never fails. Where no scheme is configured, the token is all of the value without the
white space around it, if anything is left. -/
theorem inHeader?_grammar (policy : Policy) {headers : Web.Headers} {value : String}
    (first : headers.IsFirst policy.headerName value)
    (readable : ∀ c ∈ value.toList, c = '\t' ∨ 0x20 ≤ c.toNat ∧ c.toNat ≤ 0x7E) :
    (∀ scheme, policy.scheme = some scheme →
      (∀ token : String, inHeader? policy headers = some ⟨token, .header⟩ ↔
        ∃ spelled gap, Carries scheme (trimmed value.toList) spelled gap token.toList) ∧
      (∀ spelled gap token other space found,
        Carries scheme (trimmed value.toList) spelled gap token →
          Carries scheme (trimmed value.toList) other space found →
            spelled = other ∧ gap = space ∧ token = found) ∧
      cutScheme? scheme (trimmed value.toList) =
        some (schemeToken? scheme (trimmed value.toList))) ∧
    (policy.scheme = none → ∀ token, inHeader? policy headers = some ⟨token, .header⟩ ↔
      token = trim value ∧ token ≠ "") := by
  -- Whatever is configured, the token is looked for in this value.
  have held (token : String) : inHeader? policy headers = some ⟨token, .header⟩ ↔
      Holds policy.scheme value token := by
    rw [inHeader?_eq_some_iff]
    constructor
    · intro found
      obtain ⟨-, other, alsoFirst, -, holds⟩ := found
      rwa [alsoFirst.unique first] at holds
    · intro holds
      exact ⟨rfl, value, first, readable, holds⟩
  refine ⟨?_, ?_⟩
  · intro scheme configured
    rw [configured] at held
    refine ⟨held, ?_, cutScheme?_eq scheme _⟩
    intro spelled gap token other space found carries also
    exact carries.unique also
  · intro unconfigured token
    rw [held, unconfigured]
    exact Iff.rfl

/-- A scheme in other casing, a space and a tab behind it, and a space within the token. A second
value of the header is not looked at; without a scheme, all of the first value is the token. -/
theorem inHeader?_grammar_recased :
    let value := "\tbEARER \t sk 1 "
    let headers : Web.Headers := [⟨"AUTHORIZATION", value⟩, ⟨"authorization", "Bearer sk2"⟩]
    headers.IsFirst "Authorization" value ∧
      (∀ c ∈ value.toList, c = '\t' ∨ 0x20 ≤ c.toNat ∧ c.toNat ≤ 0x7E) ∧
      inHeader? .standard headers = some ⟨"sk 1", .header⟩ ∧
      inHeader? { Policy.standard with scheme := none } headers =
        some ⟨"bEARER \t sk 1", .header⟩ := by
  intro value headers
  have first : headers.IsFirst "Authorization" value :=
    Web.Headers.first?_eq_some_iff.mp (by decide)
  have readable : ∀ c ∈ value.toList, c = '\t' ∨ 0x20 ≤ c.toNat ∧ c.toNat ≤ 0x7E := by
    -- Character by character: deciding this at once would run through all characters there are.
    simp [value]
  have carries : Carries "Bearer" (trimmed value.toList) "bEARER".toList " \t ".toList
      "sk 1".toList :=
    { parted := by decide
      spells := by
        unfold SameLetters
        decide
      apart := by decide
      blank := by decide
      present := by decide
      neat := (trimmed_eq_iff.mp (show trimmed "sk 1".toList = "sk 1".toList by decide)).1 }
  obtain ⟨schemed, -⟩ := inHeader?_grammar .standard first readable
  obtain ⟨-, plain⟩ := inHeader?_grammar { Policy.standard with scheme := none } first readable
  refine ⟨first, readable, ?_, ?_⟩
  · exact ((schemed "Bearer" rfl).1 "sk 1").mpr ⟨_, _, carries⟩
  · exact (plain rfl "bEARER \t sk 1").mpr ⟨by decide, by decide⟩

end Tollgate.Credential
