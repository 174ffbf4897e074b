import Tollgate.Descriptor.Reader
import Tollgate.Proofs.Json.Reader

/-!
Descriptions of models are read back from what is written for them. A field that is left out when
it is written is one that may be missing when it is read, and is then taken to be what it was.
-/

namespace Tollgate.Descriptor

open Json

/-- Reading fields one after another leads from one draft to another. -/
inductive Draft.Gathers : Draft → List (String × Json) → Draft → Prop
  | nil {draft : Draft} : Gathers draft [] draft
  | cons {draft next last : Draft} {name : String} {value : Json} {fields : List (String × Json)}
      (read : ∀ rest, EndsNumber rest →
        draft.read name (':' :: (written value ++ rest)) = .ok (next, rest))
      (later : Gathers next fields last) : Gathers draft ((name, value) :: fields) last

namespace Draft.Gathers

variable {draft middle last : Draft} {fields more : List (String × Json)}

/-- Fields that follow lead on from where others have led. -/
theorem append (first : Gathers draft fields middle) (second : Gathers middle more last) :
    Gathers draft (fields ++ more) last := by
  -- The fields that were led through come first, and where they end the others begin.
  induction first with
  | nil => exact second
  | cons read _ ih => exact .cons read (ih second)

/-- A single field. -/
theorem one {name : String} {value : Json}
    (read : ∀ rest, EndsNumber rest →
      draft.read name (':' :: (written value ++ rest)) = .ok (last, rest)) :
    Gathers draft [(name, value)] last :=
  .cons read .nil

end Draft.Gathers

/-- A field that has not been met is read if its value is recovered. -/
theorem readField_written {Value : Type} {reader : Reader Value} {value : Value}
    {keep : Value → Draft} {text : List Char} (recovers : Recovers reader value text)
    {rest : List Char} (ends : EndsNumber rest) :
    readField reader none keep (':' :: (text ++ rest)) = .ok (keep value, rest) := by
  -- The colon comes first, and the value that follows it ends where the rest begins.
  have colon : readColon (':' :: (text ++ rest)) = .ok (text ++ rest) := rfl
  simp [readField, colon, recovers.read rest ends, Bind.bind, Except.bind, Pure.pure, Except.pure]

/-- What stands in front of a field: nothing if it is the first, and a comma otherwise. -/
def separator (isFirst : Bool) : List Char :=
  if isFirst then [] else [',']

/-- The next field is found at the quote that opens its name. -/
theorem nextField_separator (isFirst : Bool) (text : List Char) :
    nextField isFirst (separator isFirst ++ '"' :: text) = .ok (.member text) := by
  cases isFirst <;> rfl

/-- The fields of a record go on behind one that is written. -/
theorem readFields_of_field (isFirst : Bool) {draft next : Draft} {name : String}
    {behind after : List Char} (read : draft.read name (':' :: behind) = .ok (next, after)) :
    readFields draft isFirst (separator isFirst ++ (quoted name ++ ':' :: behind)) =
      readFields next false after := by
  -- The separator, the name and the value are each read up to where the next one begins.
  have shape : quoted name ++ ':' :: behind =
      '"' :: (name.toList.flatMap escaped ++ '"' :: ':' :: behind) := by
    simp [quoted]
  have found := nextField_separator isFirst (name.toList.flatMap escaped ++ '"' :: ':' :: behind)
  have named := readQuoted_flatMap name.toList (':' :: behind)
  rw [shape, readFields]
  -- The fields may have ended, or have gone wrong, and neither is what has been found.
  split <;> rename_i turn
  · simp [found] at turn
  · simp [found] at turn
  · obtain rfl := Turn.member.inj (Except.ok.inj (found.symm.trans turn))
    -- Neither does the reading of the name go wrong.
    split <;> rename_i quoted
    · simp [named] at quoted
    · obtain ⟨rfl, rfl⟩ := Prod.mk.inj (Except.ok.inj (named.symm.trans quoted))
      -- Nor does the reading of the value, which is what is given.
      split <;> rename_i field
      · simp [read] at field
      · rw [String.ofList_toList] at field
        obtain ⟨rfl, rfl⟩ := Prod.mk.inj (Except.ok.inj (read.symm.trans field))
        rfl

/-- The fields of a record end with its closing bracket. -/
theorem readFields_of_closed {draft : Draft} {descriptor : Descriptor}
    (finished : draft.finish = .ok descriptor) (rest : List Char) :
    readFields draft false ('\x7d' :: rest) = .ok (descriptor, rest) := by
  -- The bracket that closes the record stands where the next field would.
  have closed : nextField false ('\x7d' :: rest) = .ok (.closed rest) := rfl
  rw [readFields]
  split <;> rename_i turn
  · simp [closed] at turn
  · obtain rfl : rest = _ := by simpa [closed] using turn
    rw [finished]
    rfl
  · simp [closed] at turn

namespace Draft.Gathers

variable {draft last : Draft} {fields : List (String × Json)} {descriptor : Descriptor}

/-- Further fields of a record are read one after another. -/
theorem readFields_later (gathers : Gathers draft fields last)
    (finished : last.finish = .ok descriptor) (rest : List Char) :
    readFields draft false ((writtenFields fields).flatMap (',' :: ·) ++ '\x7d' :: rest) =
      .ok (descriptor, rest) := by
  -- Each field is read into the draft to which the fields before it have led.
  induction gathers with
  | nil => exact readFields_of_closed finished rest
  | @cons _ _ _ name value fields read later ih =>
    -- Behind the field stands a comma or the bracket, so its value ends there.
    have field := read _ (endsNumber_flatMap (writtenFields fields) (Or.inr rfl) rest)
    rw [← ih finished, ← readFields_of_field false field]
    simp [writtenFields, separator]

/-- A record is read from its first field on. -/
theorem readFields_first {name : String} {value : Json}
    (gathers : Gathers draft ((name, value) :: fields) last)
    (finished : last.finish = .ok descriptor) (rest : List Char) :
    readFields draft true
        (commaJoined (writtenFields ((name, value) :: fields)) ++ '\x7d' :: rest) =
      .ok (descriptor, rest) := by
  cases gathers with
  | cons read later =>
    -- Behind the first field stand the others, each with its comma, and then the bracket.
    have field := read _ (endsNumber_flatMap (writtenFields fields) (Or.inr rfl) rest)
    rw [← later.readFields_later finished rest, ← readFields_of_field true field]
    simp [writtenFields, commaJoined_cons, separator]

/-- A field that is written only if it has a value, and may be null when it is read, leaves the
draft as it is otherwise. -/
theorem optionalField {Value : Type} {reader : Reader Value} {write : Value → Json}
    (recovers : ∀ value, Recovers reader value (written (write value))) {name : String}
    (keep : Option (Option Value) → Draft) {draft : Draft} (absent : keep none = draft)
    (reads : ∀ text, draft.read name text =
      readField reader.optional none (fun value => keep (some value)) text)
    (value : Option Value) :
    Gathers draft (Json.optionalField name (value.map write)) (keep (value.map some)) := by
  -- Without a value there is nothing to read, and the draft is what it was.
  cases value with
  | none => exact absent ▸ .nil
  | some value =>
    refine .one fun rest ends => ?_
    rw [reads]
    exact readField_written (recovers value).optional ends

end Draft.Gathers

/-- The draft to which the fields of a description lead. -/
def gathered (descriptor : Descriptor) : Draft :=
  ⟨some descriptor.id, descriptor.displayName.map some, descriptor.ownedBy.map some,
    descriptor.contextLength.map some,
    if descriptor.capabilities.isEmpty then none else some descriptor.capabilities⟩

/-- It is the draft of that description. -/
theorem finish_gathered (descriptor : Descriptor) :
    descriptor.gathered.finish = .ok descriptor := by
  -- A field that was given no value counts like one that was left out.
  have join {Value : Type} (value : Option Value) : (value.map some).join = value := by
    cases value <;> rfl
  obtain ⟨id, displayName, ownedBy, contextLength, capabilities⟩ := descriptor
  -- An empty list is left out as well, and it is what a list left out is taken for.
  cases capabilities <;> simp [gathered, Draft.finish, join]

/-- The texts of a list are recovered from their quoted forms. -/
theorem recovers_texts (values : List String) :
    Recovers Reader.text.list values (written (.list (values.map .string))) := by
  -- Each text is written with its quotes, and the items are those of the list.
  have forms : (values.map Json.string).map written = values.map quoted := by
    simp [Function.comp_def, written]
  rw [written, writtenItems_eq, forms]
  exact .list fun value _ => recovers_text value

/-- The fields that are written of a description lead to its draft. -/
theorem gathers_fields (descriptor : Descriptor) :
    ∃ others, descriptor.toJson = .record (("id", .string descriptor.id) :: others) ∧
      Draft.Gathers .blank (("id", .string descriptor.id) :: others) descriptor.gathered := by
  obtain ⟨id, displayName, ownedBy, contextLength, capabilities⟩ := descriptor
  -- The fields are taken in their order, and each is kept beside those before it.
  have named : Draft.Gathers .blank [("id", .string id)] ⟨some id, none, none, none, none⟩ := by
    refine .one fun rest ends => ?_
    rw [Draft.read, written]
    exact readField_written (recovers_text id) ends
  -- Three fields follow that may be left out, and may be null where they are not.
  have shown : Draft.Gathers ⟨some id, none, none, none, none⟩
      (Json.optionalField "display_name" (displayName.map .string))
      ⟨some id, displayName.map some, none, none, none⟩ :=
    .optionalField recovers_text (fun met => ⟨some id, met, none, none, none⟩) rfl
      (fun _ => by rw [Draft.read]) _
  have owned : Draft.Gathers ⟨some id, displayName.map some, none, none, none⟩
      (Json.optionalField "owned_by" (ownedBy.map .string))
      ⟨some id, displayName.map some, ownedBy.map some, none, none⟩ :=
    .optionalField recovers_text (fun met => ⟨some id, displayName.map some, met, none, none⟩) rfl
      (fun _ => by rw [Draft.read]) _
  have bounded : Draft.Gathers ⟨some id, displayName.map some, ownedBy.map some, none, none⟩
      (Json.optionalField "context_length"
        (contextLength.map fun length => .number length.toNat))
      ⟨some id, displayName.map some, ownedBy.map some, contextLength.map some, none⟩ :=
    .optionalField recovers_count
      (fun met => ⟨some id, displayName.map some, ownedBy.map some, met, none⟩) rfl
      (fun _ => by rw [Draft.read]) _
  -- The last one is left out when the list is empty, and is never null.
  have capable : Draft.Gathers
      ⟨some id, displayName.map some, ownedBy.map some, contextLength.map some, none⟩
      (if capabilities.isEmpty then []
        else [("capabilities", .list (capabilities.map .string))])
      (gathered ⟨id, displayName, ownedBy, contextLength, capabilities⟩) := by
    cases capabilities with
    | nil => exact .nil
    | cons first others =>
      refine .one fun rest ends => ?_
      rw [Draft.read]
      exact readField_written (recovers_texts (first :: others)) ends
  exact ⟨_, rfl, (((named.append shown).append owned).append bounded).append capable⟩

/-- A description is recovered from its text. -/
theorem recovers_toJson (descriptor : Descriptor) :
    Recovers reader descriptor (written descriptor.toJson) := by
  -- A record opens with a bracket, behind which its fields are gathered.
  obtain ⟨others, fields, gathers⟩ := gathers_fields descriptor
  rw [fields, written]
  refine ⟨⟨'\x7b', _, rfl, rfl⟩, fun rest _ => ?_⟩
  rw [List.append_assoc, List.singleton_append]
  exact gathers.readFields_first (finish_gathered descriptor) rest

/-- A description is read back from what is written for it, and so is a list of descriptions. Hence
one that has been read from any text is the same when it has been written and read again, and two
that have been read are written in the same way only if they are the same. -/
theorem ofText_render_toJson :
    (∀ descriptor : Descriptor, ofText descriptor.toJson.render = .ok descriptor) ∧
      (∀ models : List Descriptor,
        listOfText (Json.list (models.map toJson)).render = .ok models) ∧
      ∀ (text other : String) (first second : Descriptor),
        ofText text = .ok first → ofText other = .ok second →
          ofText first.toJson.render = .ok first ∧
            (first.toJson.render = second.toJson.render ↔ first = second) := by
  -- The whole text is the record, and nothing is left behind it.
  have survives (descriptor : Descriptor) : ofText descriptor.toJson.render = .ok descriptor :=
    (recovers_toJson descriptor).whole
  refine ⟨survives, ?_, ?_⟩
  · intro models
    -- A list of records is written by writing each of them.
    have forms : (models.map toJson).map written = models.map (written ·.toJson) := by
      simp
    have whole := (Recovers.list fun model (_ : model ∈ models) => recovers_toJson model).whole
    rwa [← forms, ← writtenItems_eq, ← written] at whole
  · intro text other first second _ _
    refine ⟨survives first, fun same => ?_, fun same => by rw [same]⟩
    -- Both are what is read from the one text.
    have read := survives first
    rw [same, survives second] at read
    exact (Except.ok.inj read).symm

/-- A list of values with an escape and a null, and a record with spaces, an unknown field and its
fields in another order. They differ only in that the owner is missing in one and empty in the
other, and so do the texts that are written for them. -/
theorem ofText_render_toJson_missing_owner :
    let missing : Descriptor := ⟨"g\"PT", none, none, some 8, []⟩
    let empty : Descriptor := ⟨"g\"PT", none, some "", some 8, []⟩
    let asList := "[\"g\\u0022\\u0050T\",null,null,8]"
    let asRecord := " \x7b\"owned_by\": \"\", \"x\": [1e999, \x7b\x7d],\n" ++
      "\"context_length\":8,\"id\": \"g\\\"PT\"\x7d"
    ofText asList = .ok missing ∧ ofText asRecord = .ok empty ∧
      ofText missing.toJson.render = .ok missing ∧
        missing.toJson.render ≠ empty.toJson.render := by
  intro missing empty asList asRecord
  -- Whether something was read can be decided, though not which flaw was met otherwise.
  have read {text : String} {model : Descriptor} (found : (ofText text).toOption = some model) :
      ofText text = .ok model := by
    cases outcome : ofText text with
    | error flaw => simp [outcome, Except.toOption] at found
    | ok described => simpa [outcome, Except.toOption] using found
  have first : ofText asList = .ok missing := read (by decide +kernel)
  have second : ofText asRecord = .ok empty := read (by decide +kernel)
  obtain ⟨again, alike⟩ := ofText_render_toJson.2.2 asList asRecord missing empty first second
  -- One has an owner, if an empty one, and the other has none.
  have differ : missing ≠ empty := by decide
  exact ⟨first, second, again, fun same => differ (alike.mp same)⟩

end Tollgate.Descriptor
