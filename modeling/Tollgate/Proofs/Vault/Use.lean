import Tollgate.Proofs.Vault.Identity

/-!
Records of the use of keys. Only the call that is there for it makes such a record, of one key that
is stored, and no change ever takes one away.
-/

namespace Tollgate

/-- The call records the use of a key. -/
def Call.isTouch : Call → Bool
  | .touchKey _ _ => true
  | _ => false

namespace Vault

namespace Tables

section

variable {Entry : Type} (wanted : Entry → Bool) (sought : Entry → Bool) (change : Entry → Entry)

/-- The entry that is changed is found where it was, changed. -/
theorem find?_changeFirst_self (kept : ∀ entry, wanted (change entry) = wanted entry)
    (entries : List Entry) :
    (changeFirst wanted change entries).find? wanted = (entries.find? wanted).map change := by
  -- The change leaves alone what is looked for, so the first entry is wanted before and after.
  induction entries with
  | nil => rfl
  | cons first rest ih =>
    by_cases here : wanted first = true
    · simp [changeFirst, here, kept]
    · simp [changeFirst, here, ih]

/-- What is looked for among the entries that are not changed is found as before. -/
theorem find?_changeFirst_of_apart (apart : ∀ entry, wanted entry = true → sought entry = false)
    (blind : ∀ entry, sought (change entry) = sought entry) (entries : List Entry) :
    (changeFirst wanted change entries).find? sought = entries.find? sought := by
  -- Where the changed entry stands, neither it nor what it becomes is what is looked for.
  induction entries with
  | nil => rfl
  | cons first rest ih =>
    by_cases here : wanted first = true
    · simp [changeFirst, here, blind, apart first here]
    · simp [changeFirst, here, List.find?_cons, ih]

end

/-- What a row says of the use of its key. -/
def useOf (row : KeyRow) : KeyId × Option Instant := (row.key.id, row.lastUsed)

variable {tables : Tables} {key : KeyId} {change : Write}

/-- Whether a key was ever used depends on nothing but what the rows say of the use of keys. -/
theorem everUsed_eq (tables : Tables) (key : KeyId) :
    tables.everUsed key = (((tables.keys.map useOf).find? (·.1 == key)).bind (·.2)).isSome := by
  -- The row is looked up by its key, which is part of what is compared.
  rw [everUsed, List.find?_map, Option.bind_map]
  rfl

/-- Whether a key was ever used does not change with the key itself. -/
theorem everUsed_changeKey {id : KeyId} {alter : AccessKey → AccessKey}
    (named : ∀ found, (alter found).id = found.id) :
    (tables.changeKey id alter).everUsed key = tables.everUsed key := by
  -- The only row that is altered keeps its key and what it says of its use.
  have kept : (tables.changeKey id alter).keys.map useOf = tables.keys.map useOf :=
    map_changeFirst useOf fun row => by simp only [useOf, named]
  rw [everUsed_eq, kept, everUsed_eq]

/-- A stored key is on record as used once a use of it is recorded. -/
theorem everUsed_touch (stored : key ∈ tables.keys.map (·.key.id)) (instant : Instant) :
    (tables.touch key instant).everUsed key = true := by
  -- The row that is found under the key is the one in which the use is recorded.
  obtain ⟨row, member, named⟩ := List.mem_map.mp stored
  have found : (tables.keys.find? (·.key.id == key)).isSome = true :=
    List.find?_isSome.mpr ⟨row, member, by simpa using named⟩
  obtain ⟨first, located⟩ := Option.isSome_iff_exists.mp found
  -- The record is made in the first row under the key, and that row is found first again.
  have touched := find?_changeFirst_self (fun row : KeyRow => row.key.id == key)
    (fun row => { row with lastUsed := some instant }) (fun _ => rfl) tables.keys
  rw [everUsed, touch, touched, located]
  rfl

/-- The record of a use of another key makes no difference to a key. -/
theorem everUsed_touch_of_ne {other : KeyId} (apart : other ≠ key) (instant : Instant) :
    (tables.touch other instant).everUsed key = tables.everUsed key := by
  -- The row of another key is altered, which is not the one that is looked up.
  have found := find?_changeFirst_of_apart (fun row : KeyRow => row.key.id == other)
    (fun row => row.key.id == key) (fun row => { row with lastUsed := some instant })
    (fun row named => by simpa [eq_of_beq named] using apart) (fun _ => rfl) tables.keys
  rw [everUsed, touch, found, everUsed]

/-- Only the record of a use of the key itself changes whether it was ever used. -/
theorem everUsed_write_of_ne (other : ∀ instant, change ≠ .touch key instant) :
    (tables.write change).everUsed key = tables.everUsed key := by
  -- Most changes do not touch the keys at all, or alter a key and not the use of it.
  cases change with
  | touch touched instant =>
    have apart : touched ≠ key := fun same => other instant (by rw [same])
    exact everUsed_touch_of_ne apart instant
  | revoke id | deactivate id => exact everUsed_changeKey fun _ => rfl
  | issueKey token issued =>
    simp only [write, addKey]
    split
    · rfl
    · -- A new key has not been used, and comes behind all others.
      simp only [everUsed, List.find?_append]
      cases found : tables.keys.find? (·.key.id == key) with
      | some row => rfl
      | none => by_cases same : issued.id = key <;> simp [same]
  | openAccount account =>
    simp only [write, addAccount]
    split <;> rfl
  | setDisabled account disabled => rfl
  | addBill account bill | addCard account card | addUse use | addMapping mapping => rfl

/-- A key that has been used is stored. -/
theorem stored_of_everUsed (used : tables.everUsed key = true) :
    key ∈ tables.keys.map (·.key.id) := by
  -- The row that says so is one of those that are stored, under this key.
  obtain ⟨last, found⟩ := Option.isSome_iff_exists.mp used
  obtain ⟨row, located, -⟩ := Option.bind_eq_some_iff.mp found
  have named : row.key.id = key := by simpa using List.find?_some located
  exact List.mem_map.mpr ⟨row, List.mem_of_find?_eq_some located, named⟩

/-- No change takes the record of a use away. -/
theorem everUsed_write (used : tables.everUsed key = true) (change : Write) :
    (tables.write change).everUsed key = true := by
  -- Either this is one more record of a use of the key, or the record that is there stays.
  by_cases touched : ∃ instant, change = .touch key instant
  · obtain ⟨instant, rfl⟩ := touched
    exact everUsed_touch (stored_of_everUsed used) instant
  · rw [everUsed_write_of_ne fun instant same => touched ⟨instant, same⟩, used]

/-- No change takes a key away. -/
theorem stored_write (stored : key ∈ tables.keys.map (·.key.id)) (change : Write) :
    key ∈ (tables.write change).keys.map (·.key.id) := by
  -- Rows are altered in place and added at the end, and never does one lose its key.
  cases change with
  | touch id instant =>
    have kept : (tables.touch id instant).keys.map (·.key.id) = tables.keys.map (·.key.id) :=
      map_changeFirst _ fun _ => rfl
    exact kept ▸ stored
  | revoke id =>
    have kept : (tables.revoke id).keys.map (·.key.id) = tables.keys.map (·.key.id) :=
      map_changeFirst _ fun _ => rfl
    exact kept ▸ stored
  | deactivate id =>
    have kept : (tables.deactivate id).keys.map (·.key.id) = tables.keys.map (·.key.id) :=
      map_changeFirst _ fun _ => rfl
    exact kept ▸ stored
  | issueKey token issued =>
    simp only [write, addKey]
    split
    · exact stored
    · rw [List.map_append]
      exact List.mem_append_left _ stored
  | openAccount account =>
    simp only [write, addAccount]
    split <;> exact stored
  | _ => exact stored

end Tables

variable {call : Call} {key : KeyId}

/-- A call that is not there for it records no use. -/
theorem everUsed_respond (quiet : call.isTouch = false) (tables : Tables) (staleMappings : Bool) :
    (respond tables staleMappings call).2.everUsed key = tables.everUsed key := by
  -- Only this one call writes into the column of the rows that is read here.
  cases call with
  | touchKey key instant => cases quiet
  | insertMapping mapping =>
    simp only [respond, Tables.insertMapping]
    split <;> rfl
  | _ => rfl

/-- A call that is not there for it records no use, whether or not it is refused. -/
theorem everUsed_answer (quiet : call.isTouch = false) (vault : Vault) :
    (Vault.answer call vault).2.tables.everUsed key = vault.tables.everUsed key := by
  simp only [Vault.answer]
  -- A store that refuses the call is left as it was.
  split
  · rfl
  · exact everUsed_respond quiet vault.tables vault.staleMappings

/-- A call that is not there for it records no use, whether or not it is let through. -/
theorem everUsed_watched_answer (quiet : call.isTouch = false) (watched : Watched) :
    (watched.answer call).2.vault.tables.everUsed key = watched.vault.tables.everUsed key := by
  -- A call that is not let through does not reach the store.
  simp only [Watched.answer]
  split
  · rfl
  · exact everUsed_answer quiet watched.vault

/-- A dialogue without such calls records no use. -/
theorem everUsed_run {Result : Type} {dialogue : Dialogue Result}
    (quiet : dialogue.AsksOnly (·.isTouch = false)) (watched : Watched) :
    (dialogue.run Watched.answer watched).2.vault.tables.everUsed key =
      watched.vault.tables.everUsed key :=
  Dialogue.run_keeps (·.vault.tables.everUsed key) quiet
    (fun _ quiet => everUsed_watched_answer quiet) watched

/-- A use is recorded by a store that answers, and by no other. -/
theorem answer_touchKey (key : KeyId) (instant : Instant) (vault : Vault) :
    Vault.answer (.touchKey key instant) vault = (.error unresponsive, vault) ∨
      Vault.answer (.touchKey key instant) vault =
        (.ok (), { vault with tables := vault.tables.touch key instant }) := by
  simp only [Vault.answer]
  -- Whether the store refuses the call does not depend on what is recorded in it.
  split
  · exact Or.inl rfl
  · exact Or.inr rfl

/-- A use is recorded by a watched store that answers, and by no other. -/
theorem watched_answer_touchKey (key : KeyId) (instant : Instant) (watched : Watched) :
    ((watched.answer (.touchKey key instant)).1 = .error unresponsive ∧
        (watched.answer (.touchKey key instant)).2.vault = watched.vault) ∨
      ((watched.answer (.touchKey key instant)).1 = .ok () ∧
        (watched.answer (.touchKey key instant)).2.vault.tables =
          watched.vault.tables.touch key instant) := by
  simp only [Watched.answer]
  -- A call that is not let through is refused for the same reason as one the store refuses.
  split
  · exact Or.inl ⟨rfl, rfl⟩
  · rcases answer_touchKey key instant watched.vault with refused | recorded
    · exact Or.inl (by rw [refused]; exact ⟨rfl, rfl⟩)
    · exact Or.inr (by rw [recorded]; exact ⟨rfl, rfl⟩)

end Vault

end Tollgate
