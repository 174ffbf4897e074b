import Tollgate.Policy.Configuration
import Tollgate.Proofs.Text.Blank
import Tollgate.Proofs.Web.Path

/-!
Rules of authentication as configurations write them. The rules that a configuration asks for have
no white space left around anything, and every configuration that writes such rules down, with
whatever white space and empty items around them, asks for just these rules.
-/

namespace Tollgate

namespace Text

variable {text kept : String} {cell : List Char} {items : List String}

/-- A text that says something and has no white space around it. -/
structure IsNeat (text : String) : Prop where
  /-- It says something. -/
  nonempty : text ≠ ""
  /-- It has no white space around it. -/
  trimmed : IsTrimmed text.toList

/-- The text is what is kept of it with white space on either side. -/
def Pads (kept text : List Char) : Prop :=
  ∃ front back, AllBlank front ∧ AllBlank back ∧ text = front ++ kept ++ back

/-- Every text has no white space at all on either side of it. -/
theorem pads_self (text : List Char) : Pads text text :=
  ⟨[], [], allBlank_nil, allBlank_nil, by simp⟩

/-- White space alone has nothing in between. -/
theorem pads_nil_iff : Pads [] cell ↔ AllBlank cell := by
  -- All of such a text is in front of what is kept, or behind it, which is nothing.
  constructor
  · rintro ⟨front, back, blank, alsoBlank, rfl⟩
    rw [List.append_nil, allBlank_append]
    exact ⟨blank, alsoBlank⟩
  · exact fun blank => ⟨cell, [], blank, allBlank_nil, by simp⟩

/-- White space around a text brings in no other mark. -/
theorem Pads.unmarked {kept : List Char} {mark : Char} (pads : Pads kept cell)
    (unmarked : mark ∉ kept) (visible : isBlank mark = false) : mark ∉ cell := by
  obtain ⟨front, back, blank, alsoBlank, rfl⟩ := pads
  simp only [List.mem_append, not_or]
  -- A mark in the white space would be white space itself.
  refine ⟨⟨fun before => ?_, unmarked⟩, fun behind => ?_⟩
  · exact absurd (blank mark before) (by simp [visible])
  · exact absurd (alsoBlank mark behind) (by simp [visible])

/-- What is left of a text is what it has white space around. -/
theorem trim_eq_iff : trim text = kept ↔ IsTrimmed kept.toList ∧ Pads kept.toList text.toList := by
  rw [← String.toList_inj, toList_trim]
  exact trimmed_eq_iff

/-- Nothing is left of a text that is white space alone. -/
theorem trimToNonempty?_eq_none_iff : trimToNonempty? text = none ↔ AllBlank text.toList := by
  -- The text is trimmed first, and then it is looked at whether something is left.
  have nothing : trim text = "" ↔ AllBlank text.toList := by
    rw [trim_eq_empty_iff, List.all_eq_true]
    rfl
  rw [← nothing, trimToNonempty?]
  simp only [String.isEmpty_iff]
  split <;> simp_all

/-- What is left of a text is the neat one that it has white space around. -/
theorem trimToNonempty?_eq_some_iff_pads :
    trimToNonempty? text = some kept ↔ IsNeat kept ∧ Pads kept.toList text.toList := by
  rw [trimToNonempty?_eq_some_iff]
  constructor
  · -- Nothing else has the same text between the same white space.
    rintro ⟨same, nonempty⟩
    obtain ⟨neat, pads⟩ := trim_eq_iff.mp same.symm
    exact ⟨⟨nonempty, neat⟩, pads⟩
  · rintro ⟨⟨nonempty, neat⟩, pads⟩
    exact ⟨(trim_eq_iff.mpr ⟨neat, pads⟩).symm, nonempty⟩

/-- A neat text or nothing is what is left of a text exactly if that has white space around it. -/
theorem trimToNonempty?_eq_iff {found : Option String} :
    trimToNonempty? text = found ↔
      (∀ kept, found = some kept → IsNeat kept) ∧ Pads (found.getD "").toList text.toList := by
  -- To have nothing is the same as to have the empty text between white space.
  cases found with
  | none =>
    rw [trimToNonempty?_eq_none_iff]
    simpa using pads_nil_iff.symm
  | some kept => simpa using trimToNonempty?_eq_some_iff_pads

/-- No piece has the mark in it. -/
theorem unmarked_of_mem_pieces {mark : Char} {text piece : List Char}
    (member : piece ∈ pieces mark text) : mark ∉ piece := by
  -- The pieces are cut from the end of the text on, so the first character comes last.
  induction text generalizing piece with
  | nil => simp_all [pieces]
  | cons c rest ih =>
    rw [pieces] at member
    by_cases same : c = mark
    · -- The mark ends an empty piece, and the others are those of the rest.
      rw [if_pos same] at member
      rcases List.mem_cons.mp member with rfl | later
      · exact List.not_mem_nil
      · exact ih later
    · rw [if_neg same] at member
      obtain ⟨first, others, parted⟩ := List.exists_cons_of_ne_nil (pieces_ne_nil mark rest)
      simp only [parted] at member ih
      rcases List.mem_cons.mp member with rfl | later
      · -- Any other character joins the first piece of the rest.
        have inRest := ih List.mem_cons_self
        simp [Ne.symm same, inRest]
      · exact ih (List.mem_cons_of_mem first later)

/-- The ways to write a list: its items in their order with commas between, any white space around
them, and any number of cells among them that hold nothing but white space. -/
inductive WritesItems : List String → List Char → Prop
  | nothing {cell : List Char} (blank : AllBlank cell) : WritesItems [] cell
  | last {item : String} {cell : List Char} (pads : Pads item.toList cell) :
    WritesItems [item] cell
  | skip {items : List String} {cell rest : List Char} (blank : AllBlank cell)
      (more : WritesItems items rest) : WritesItems items (cell ++ ',' :: rest)
  | next {item : String} {items : List String} {cell rest : List Char}
      (pads : Pads item.toList cell) (more : WritesItems items rest) :
      WritesItems (item :: items) (cell ++ ',' :: rest)

/-- The item that a cell of a list holds, if it holds one. -/
def itemOf? (cell : List Char) : Option String :=
  trimToNonempty? (String.ofList cell)

/-- A cell of white space holds nothing. -/
theorem itemOf?_eq_none_iff : itemOf? cell = none ↔ AllBlank cell := by
  -- The cell is turned into a text before it is looked at.
  rw [itemOf?, trimToNonempty?_eq_none_iff, String.toList_ofList]

/-- A cell holds the neat text that it has white space around. -/
theorem itemOf?_eq_some_iff :
    itemOf? cell = some kept ↔ IsNeat kept ∧ Pads kept.toList cell := by
  rw [itemOf?, trimToNonempty?_eq_some_iff_pads, String.toList_ofList]

/-- Cells with commas between them write the items that they hold. -/
theorem writesItems_intercalate {cells : List (List Char)} (present : cells ≠ []) :
    WritesItems (cells.filterMap itemOf?) ([','].intercalate cells) := by
  -- The induction follows the cells, of which only the last has no comma behind it.
  induction cells with
  | nil => exact absurd rfl present
  | cons cell others ih =>
    -- What a cell adds to the list depends on whether there is a comma behind it.
    cases others with
    | nil =>
      rw [List.intercalate_singleton]
      cases held : itemOf? cell with
      | none =>
        rw [List.filterMap_cons_none held]
        exact .nothing (itemOf?_eq_none_iff.mp held)
      | some item =>
        rw [List.filterMap_cons_some held]
        exact .last (itemOf?_eq_some_iff.mp held).2
    | cons second later =>
      have rest := ih (List.cons_ne_nil second later)
      rw [List.intercalate_cons_cons, List.append_assoc, List.singleton_append]
      cases held : itemOf? cell with
      | none =>
        rw [List.filterMap_cons_none held]
        exact .skip (itemOf?_eq_none_iff.mp held) rest
      | some item =>
        rw [List.filterMap_cons_some held]
        exact .next (itemOf?_eq_some_iff.mp held).2 rest

/-- Neat items without commas are read back in whichever way they have been written. -/
theorem WritesItems.read (neat : ∀ item ∈ items, IsNeat item ∧ ',' ∉ item.toList)
    (writes : WritesItems items cell) : (pieces ',' cell).filterMap itemOf? = items := by
  -- The comma is not white space, so none is brought in by the white space around an item.
  have visible : isBlank ',' = false := by decide
  -- The cell up to the first comma is the first piece, and what follows writes the other items.
  induction writes with
  -- The only cell holds nothing.
  | nothing blank =>
    have unmarked := (pads_nil_iff.mpr blank).unmarked List.not_mem_nil visible
    rw [pieces_of_unmarked unmarked, List.filterMap_cons_none (itemOf?_eq_none_iff.mpr blank),
      List.filterMap_nil]
  -- The only cell holds the last item.
  | last pads =>
    obtain ⟨alone, plain⟩ := neat _ List.mem_cons_self
    rw [pieces_of_unmarked (pads.unmarked plain visible),
      List.filterMap_cons_some (itemOf?_eq_some_iff.mpr ⟨alone, pads⟩), List.filterMap_nil]
  -- The first cell holds nothing, and the items are those of the rest.
  | skip blank more ih =>
    have unmarked := (pads_nil_iff.mpr blank).unmarked List.not_mem_nil visible
    rw [pieces_append unmarked, List.filterMap_cons_none (itemOf?_eq_none_iff.mpr blank), ih neat]
  -- The first cell holds the first item, and the others are those of the rest.
  | next pads more ih =>
    obtain ⟨alone, plain⟩ := neat _ List.mem_cons_self
    rw [pieces_append (pads.unmarked plain visible),
      List.filterMap_cons_some (itemOf?_eq_some_iff.mpr ⟨alone, pads⟩),
      ih fun item member => neat item (List.mem_cons_of_mem _ member)]

end Text

/-- The form of the rules that a configuration can ask for. -/
structure Policy.IsNeat (policy : Policy) : Prop where
  /-- There is no white space around the name of the header. -/
  headerName : Text.IsTrimmed policy.headerName.toList
  /-- A scheme says something. -/
  scheme : ∀ scheme, policy.scheme = some scheme → Text.IsNeat scheme
  /-- So does a path for credentials in queries. -/
  queryBase : ∀ base, policy.queryBase = some base → Text.IsNeat base
  /-- So do all open paths, and they have no commas. -/
  openBases : ∀ base ∈ policy.openBases, Text.IsNeat base ∧ ',' ∉ base.toList

namespace Configuration

variable {configuration : Configuration} {policy : Policy}

/-- The configuration writes rules down, with white space around them; what is absent is written as
white space alone. -/
structure Spells (configuration : Configuration) (policy : Policy) : Prop where
  /-- The header is that of the rules. -/
  headerName : Text.Pads policy.headerName.toList configuration.authHeader.toList
  /-- The scheme is that of the rules. -/
  scheme : Text.Pads (policy.scheme.getD "").toList configuration.authScheme.toList
  /-- Alternate headers count as they do in the rules. -/
  alternateHeaders : configuration.alternateHeaders = policy.alternateHeaders
  /-- The path for credentials in queries is that of the rules. -/
  queryBase : Text.Pads (policy.queryBase.getD "").toList configuration.queryBase.toList
  /-- The open paths are those of the rules, in the same order. -/
  openBases : Text.WritesItems policy.openBases configuration.openBases.toList
  /-- Open paths are compared as they are in the rules. -/
  rawMatching : configuration.rawMatching = policy.rawMatching

/-- The configuration with rules written into it without anything around them. -/
def asking (configuration : Configuration) (policy : Policy) : Configuration :=
  { configuration with
    authHeader := policy.headerName
    authScheme := policy.scheme.getD ""
    alternateHeaders := policy.alternateHeaders
    queryBase := policy.queryBase.getD ""
    openBases := ",".intercalate policy.openBases
    rawMatching := policy.rawMatching }

/-- What is read between commas is neat, has no commas, and is just what the text writes. -/
theorem commaSeparated_eq_iff {text : String} {items : List String} :
    commaSeparated text = items ↔
      (∀ item ∈ items, Text.IsNeat item ∧ ',' ∉ item.toList) ∧
        Text.WritesItems items text.toList := by
  have cut : commaSeparated text = (Text.pieces ',' text.toList).filterMap Text.itemOf? := rfl
  rw [cut]
  constructor
  · rintro rfl
    constructor
    · -- An item comes from a piece, and the pieces have no commas.
      intro item member
      obtain ⟨piece, among, held⟩ := List.mem_filterMap.mp member
      obtain ⟨neat, front, back, -, -, parted⟩ := Text.itemOf?_eq_some_iff.mp held
      have unmarked := Text.unmarked_of_mem_pieces among
      rw [parted] at unmarked
      exact ⟨neat, fun inside => unmarked (by simp [inside])⟩
    · -- The text is the pieces with the commas between them, and they write what they hold.
      have written := Text.writesItems_intercalate (Text.pieces_ne_nil ',' text.toList)
      rwa [Text.intercalate_pieces] at written
  · rintro ⟨neat, writes⟩
    exact writes.read neat

/-- A configuration asks for rules exactly if they are in the form it can ask for and it writes them
down. -/
theorem policy_eq_iff :
    configuration.policy = policy ↔ policy.IsNeat ∧ configuration.Spells policy := by
  -- The rules are taken apart, since each field is read by itself.
  obtain ⟨headerName, scheme, alternateHeaders, queryBase, openBases, rawMatching⟩ := policy
  simp only [Configuration.policy, Policy.mk.injEq, Text.trim_eq_iff, Text.trimToNonempty?_eq_iff,
    commaSeparated_eq_iff]
  -- Each field is in its form and is written down, one independently of the others.
  constructor
  · rintro ⟨⟨header, named⟩, ⟨scheme, schemed⟩, counts, ⟨base, based⟩, ⟨bases, listed⟩, compared⟩
    exact ⟨⟨header, scheme, base, bases⟩, ⟨named, schemed, counts, based, listed, compared⟩⟩
  · rintro ⟨⟨header, scheme, base, bases⟩, ⟨named, schemed, counts, based, listed, compared⟩⟩
    exact ⟨⟨header, named⟩, ⟨scheme, schemed⟩, counts, ⟨base, based⟩, ⟨bases, listed⟩, compared⟩

/-- Items with nothing but commas between them are written down. -/
theorem writesItems_joined (items : List String) :
    Text.WritesItems items (",".intercalate items).toList := by
  rw [String.toList_intercalate]
  induction items with
  | nil => exact .nothing Text.allBlank_nil
  | cons item others ih =>
    -- There is a comma behind each item but the last.
    cases others with
    | nil => exact .last (by simpa using Text.pads_self item.toList)
    | cons second later =>
      rw [List.map_cons, List.map_cons, List.intercalate_cons_cons, List.append_assoc]
      exact .next (Text.pads_self item.toList) ih

/-- Rules that are written into a configuration are written down in it. -/
theorem spells_asking (configuration : Configuration) (policy : Policy) :
    (configuration.asking policy).Spells policy :=
  ⟨Text.pads_self _, Text.pads_self _, rfl, Text.pads_self _, writesItems_joined _, rfl⟩

/-- The rules that a configuration asks for have no white space around anything. All rules of that
form can be asked for by writing them into a configuration, and the configurations that ask for them
are those that write them down, whatever white space and blank items are around them. So writing the
rules of a configuration back into it changes nothing about them. -/
theorem policy_reads_back (configuration : Configuration) :
    configuration.policy.IsNeat ∧
    (∀ policy : Policy, policy.IsNeat →
      (configuration.asking policy).policy = policy ∧
        ∀ other : Configuration, other.policy = policy ↔ other.Spells policy) ∧
    (configuration.asking configuration.policy).policy = configuration.policy := by
  -- The form is what every configuration has that asks for rules, this one among others.
  have neat : configuration.policy.IsNeat := (policy_eq_iff.mp rfl).1
  refine ⟨neat, ?_, policy_eq_iff.mpr ⟨neat, spells_asking _ _⟩⟩
  intro policy alsoNeat
  refine ⟨policy_eq_iff.mpr ⟨alsoNeat, spells_asking _ _⟩, fun other => ?_⟩
  -- The form is given, so all that is left to ask is whether the rules are written down.
  rw [policy_eq_iff]
  exact and_iff_right alsoNeat

/-- Rules without a scheme, written down with white space from several scripts around them, and with
a blank item among the open paths and behind them. -/
theorem policy_reads_back_padded :
    let policy : Policy := ⟨"X-Key", none, false, some "/v1 beta", ["/health", "/a b"], true⟩
    let other : Configuration :=
      ⟨"db", 80, "\u3000X-Key ", "\t", false, "/v1 beta\n", " /health\u00a0,\u2003,/a b,", true, 1,
        1⟩
    policy.IsNeat ∧ other.Spells policy ∧ other.policy = policy ∧
      (other.asking policy).openBases = "/health,/a b" ∧ (other.asking policy).policy = policy ∧
      other.policy.IsNeat := by
  intro policy other
  -- A text that is left as it was by trimming has nothing around it.
  have alone {text : String} (whole : Text.trimToNonempty? text = some text) : Text.IsNeat text :=
    (Text.trimToNonempty?_eq_some_iff_pads.mp whole).1
  have neat : policy.IsNeat :=
    { headerName := (Text.trim_eq_iff.mp (show Text.trim "X-Key" = "X-Key" by decide)).1
      scheme := by
        rintro scheme ⟨⟩
      queryBase := by
        rintro base ⟨⟩
        exact alone (by decide)
      openBases := by
        simp only [policy, List.mem_cons, List.not_mem_nil, or_false, forall_eq_or_imp, forall_eq]
        exact ⟨⟨alone (by decide), by decide⟩, alone (by decide), by decide⟩ }
  -- The cells hold an item, nothing, an item, and nothing again.
  have listed : Text.WritesItems policy.openBases other.openBases.toList := by
    have spelled : other.openBases.toList = " /health\u00a0".toList ++ ',' ::
        ("\u2003".toList ++ ',' :: ("/a b".toList ++ ',' :: [])) := by decide
    rw [spelled]
    exact .next ⟨[' '], ['\u00a0'], by decide, by decide, by decide⟩
      (.skip (by decide) (.next (Text.pads_self _) (.nothing (by decide))))
  have spells : other.Spells policy :=
    { headerName := ⟨['\u3000'], [' '], by decide, by decide, by decide⟩
      scheme := Text.pads_nil_iff.mpr (by decide)
      alternateHeaders := rfl
      queryBase := ⟨[], ['\n'], by decide, by decide, by decide⟩
      openBases := listed
      rawMatching := rfl }
  obtain ⟨form, reads, -⟩ := policy_reads_back other
  obtain ⟨plainly, however⟩ := reads policy neat
  exact ⟨neat, spells, (however other).mpr spells, by decide, plainly, form⟩

end Configuration

end Tollgate
