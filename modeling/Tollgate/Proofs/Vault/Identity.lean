import Tollgate.Proofs.Vault.Writing

/-!
Identities in the store. No change makes two accounts or two keys share one, and a key that has
ceased to be usable never becomes usable again, whatever else is written.
-/

namespace Tollgate.Vault.Tables

section

variable {Entry Name : Type} {wanted : Entry → Bool} {change : Entry → Entry}
  {entries : List Entry}

/-- A change of an entry that leaves a reading of it as it is leaves the readings of all entries as
they are. -/
theorem map_changeFirst (name : Entry → Name) (keeps : ∀ entry, name (change entry) = name entry) :
    (changeFirst wanted change entries).map name = entries.map name := by
  -- Walk to the entry that is changed, which reads the same as before.
  induction entries with
  | nil => rfl
  | cons entry rest ih =>
    simp only [changeFirst]
    -- The entry that is changed has its name kept, and the walk ends here.
    split
    · simp only [List.map_cons, keeps]
    · simp only [List.map_cons, ih]

/-- An entry after the change is one that was there before, or what one has been changed to. -/
theorem mem_changeFirst {entry : Entry} (member : entry ∈ changeFirst wanted change entries) :
    entry ∈ entries ∨ ∃ former ∈ entries, entry = change former := by
  induction entries with
  -- No entry has been there, and none comes in.
  | nil => simp [changeFirst] at member
  | cons first rest ih =>
    simp only [changeFirst] at member
    split at member
    · -- The change is made here, and the rest is as it was.
      rcases List.mem_cons.mp member with same | inside
      · exact Or.inr ⟨first, by simp, same⟩
      · exact Or.inl (by simp [inside])
    · -- This entry stays, and the change is made further on.
      rcases List.mem_cons.mp member with same | inside
      · exact Or.inl (by simp [same])
      · rcases ih inside with before | ⟨former, member, same⟩
        · exact Or.inl (by simp [before])
        · exact Or.inr ⟨former, by simp [member], same⟩

variable [DecidableEq Name]

/-- Where no two entries share a name, an entry that has the name after the change is the one that
has been changed. -/
theorem eq_change_of_mem_changeFirst {name : Entry → Name} {wantedName : Name}
    (distinct : (entries.map name).Nodup) {entry : Entry}
    (member : entry ∈ changeFirst (name · == wantedName) change entries)
    (named : name entry = wantedName) : ∃ former ∈ entries, entry = change former := by
  induction entries with
  -- Among no entries nothing has the name.
  | nil => simp [changeFirst] at member
  | cons first rest ih =>
    obtain ⟨fresh, tail⟩ := List.nodup_cons.mp distinct
    simp only [changeFirst] at member
    split at member
    · rename_i here
      have here : name first = wantedName := by simpa using here
      rcases List.mem_cons.mp member with same | inside
      · exact ⟨first, by simp, same⟩
      · -- A second entry of the name further on is ruled out.
        exact absurd (List.mem_map.mpr ⟨entry, inside, named.trans here.symm⟩) fresh
    · rename_i elsewhere
      rcases List.mem_cons.mp member with same | inside
      · -- The first entry does not have the name.
        subst same
        simp [named] at elsewhere
      · -- The entry that is changed is found further on.
        obtain ⟨former, member, same⟩ := ih tail inside
        exact ⟨former, by simp [member], same⟩

/-- Where no two entries share a name, every entry is found by its own. -/
theorem find?_name_eq {name : Entry → Name} (distinct : (entries.map name).Nodup) {entry : Entry}
    (member : entry ∈ entries) : entries.find? (name · == name entry) = some entry := by
  induction entries with
  | nil => simp at member
  | cons first rest ih =>
    obtain ⟨fresh, tail⟩ := List.nodup_cons.mp distinct
    rcases List.mem_cons.mp member with rfl | inside
    · -- The first entry is the one itself.
      simp
    · -- An entry further on is not passed over for one of the same name.
      have different : name first ≠ name entry := fun same =>
        fresh (List.mem_map.mpr ⟨entry, inside, same.symm⟩)
      rw [List.find?_cons_of_neg (by simpa using different)]
      exact ih tail inside

/-- Where no two entries share a name, an entry that is found otherwise than by what is changed is
the one that would have been found, changed if it has the name. -/
theorem find?_changeFirst {name : Entry → Name} {wantedName : Name} {sought : Entry → Bool}
    (distinct : (entries.map name).Nodup) (blind : ∀ entry, sought (change entry) = sought entry) :
    (changeFirst (name · == wantedName) change entries).find? sought =
      (entries.find? sought).map fun entry =>
        if name entry = wantedName then change entry else entry := by
  induction entries with
  | nil => rfl
  | cons first rest ih =>
    obtain ⟨fresh, tail⟩ := List.nodup_cons.mp distinct
    by_cases here : name first = wantedName
    · -- The change is made to the first entry, and the one sought is that or another one.
      rw [changeFirst, if_pos (by simpa using here), List.find?_cons, List.find?_cons, blind]
      cases sought first with
      | true => simp [here]
      | false =>
        -- No entry behind the first one has the name.
        have others : ∀ entry ∈ rest, name entry ≠ wantedName := by
          intro entry member same
          exact fresh (List.mem_map.mpr ⟨entry, member, same.trans here.symm⟩)
        cases found : rest.find? sought with
        | none => rfl
        | some entry => simp [others entry (List.mem_of_find?_eq_some found)]
    · rw [changeFirst, if_neg (by simpa using here), List.find?_cons, List.find?_cons]
      -- The first entry stays as it is, whether or not it is the one sought.
      cases sought first with
      | true => simp [here]
      | false => exact ih tail

/-- A name that no entry has may be added. -/
theorem nodup_concat {name : Entry → Name} {last : Entry} (distinct : (entries.map name).Nodup)
    (free : ¬ entries.any (name · == name last) = true) :
    ((entries ++ [last]).map name).Nodup := by
  -- Only the new name could occur twice.
  rw [List.map_append, List.map_singleton]
  refine List.nodup_append.mpr ⟨distinct, by simp, ?_⟩
  intro taken member added new same
  -- The name that was taken before would be that of the new entry.
  obtain ⟨entry, inside, rfl⟩ := List.mem_map.mp member
  rw [List.mem_singleton.mp new] at same
  exact free (List.any_eq_true.mpr ⟨entry, inside, by simp [same]⟩)

end

/-- No two accounts share an identity, and no two keys do. -/
structure Distinct (tables : Tables) : Prop where
  accounts : (tables.accounts.map (·.id)).Nodup
  keys : (tables.keys.map (·.key.id)).Nodup

/-- A store that keeps nothing yet has no identity twice. -/
theorem distinct_empty : empty.Distinct := ⟨List.nodup_nil, List.nodup_nil⟩

/-- A change of the first row of some key that leaves its identity to it brings none in twice. -/
theorem Distinct.changeFirst {tables : Tables} (distinct : tables.Distinct)
    {wanted : KeyRow → Bool} {change : KeyRow → KeyRow}
    (named : ∀ row, (change row).key.id = row.key.id) :
    { tables with keys := changeFirst wanted change tables.keys }.Distinct where
  accounts := distinct.accounts
  keys := by
    rw [map_changeFirst _ named]
    exact distinct.keys

/-- No change brings an identity in twice. -/
theorem Distinct.write {tables : Tables} (distinct : tables.Distinct) (change : Write) :
    -- The cases are those of the changes, and most touch neither accounts nor keys.
    (tables.write change).Distinct := by
  cases change with
  | openAccount account =>
    -- The account is opened only if its identity is free.
    simp only [Tables.write, addAccount]
    split
    · exact distinct
    · rename_i free
      exact ⟨nodup_concat distinct.accounts free, distinct.keys⟩
  | issueKey token key =>
    simp only [Tables.write, addKey]
    split
    · exact distinct
    · rename_i free
      exact ⟨distinct.accounts, nodup_concat distinct.keys free⟩
  | setDisabled account disabled =>
    -- Disabling an account leaves its identity to it.
    have names : (tables.write (.setDisabled account disabled)).accounts.map (·.id) =
        tables.accounts.map (·.id) := map_changeFirst Account.id fun _ => rfl
    exact ⟨names ▸ distinct.accounts, distinct.keys⟩
  | revoke key | deactivate key | touch key instant => exact distinct.changeFirst fun _ => rfl
  | _ => exact ⟨distinct.accounts, distinct.keys⟩

/-- The key is stored, and does not let its bearer in. -/
structure Barred (tables : Tables) (key : KeyId) : Prop where
  stored : key ∈ tables.keys.map (·.key.id)
  unusable : ∀ row ∈ tables.keys, row.key.id = key → row.key.isUsable = false

/-- A change of the first row of some key that gives no key its use back leaves a key barred. -/
theorem Barred.changeFirst {tables : Tables} {key : KeyId} (barred : tables.Barred key)
    {wanted : KeyRow → Bool} {change : KeyRow → KeyRow}
    (named : ∀ row, (change row).key.id = row.key.id)
    (weaker : ∀ row, row.key.isUsable = false → (change row).key.isUsable = false) :
    { tables with keys := changeFirst wanted change tables.keys }.Barred key where
  stored := by
    rw [map_changeFirst _ named]
    exact barred.stored
  unusable row member same := by
    -- A key in the tables is as it was, or has been changed into what it is.
    rcases mem_changeFirst member with before | ⟨former, inside, rfl⟩
    · exact barred.unusable row before same
    · have unusable := barred.unusable former inside ((named former).symm.trans same)
      exact weaker former unusable

/-- No change gives a key its use back. -/
theorem Barred.write {tables : Tables} {key : KeyId} (barred : tables.Barred key)
    (change : Write) : (tables.write change).Barred key := by
  cases change with
  | issueKey token issued =>
    simp only [Tables.write, addKey]
    split
    · exact barred
    · -- The new key has an identity of its own, for the barred one is taken.
      rename_i free
      constructor
      · simp only [List.map_append]
        exact List.mem_append_left _ barred.stored
      intro row member same
      rcases List.mem_append.mp member with before | new
      · exact barred.unusable row before same
      · obtain ⟨taken, inside, named⟩ := List.mem_map.mp barred.stored
        rw [List.mem_singleton.mp new] at same
        exact absurd (List.any_eq_true.mpr ⟨taken, inside, by simp [named, ← same]⟩) free
  -- Both of these take the use of a key away, which can only bar more.
  | revoke other | deactivate other =>
    exact barred.changeFirst (fun _ => rfl) fun row _ => by simp [AccessKey.isUsable]
  | touch other instant => exact barred.changeFirst (fun _ => rfl) fun _ => id
  | openAccount account =>
    -- Accounts do not touch the keys, whether or not the identity is taken.
    simp only [Tables.write, addAccount]
    split <;> exact ⟨barred.stored, barred.unusable⟩
  | _ => exact ⟨barred.stored, barred.unusable⟩

/-- A stored key is barred by a change that takes its use away. -/
theorem barred_changeKey {tables : Tables} {key : KeyId} (distinct : tables.Distinct)
    (stored : key ∈ tables.keys.map (·.key.id)) (change : AccessKey → AccessKey)
    (named : ∀ found, (change found).id = found.id)
    (useless : ∀ found, (change found).isUsable = false) :
    (tables.changeKey key change).Barred key where
  stored := by
    rw [changeKey, map_changeFirst (fun row : KeyRow => row.key.id) fun row => named row.key]
    exact stored
  unusable row member same := by
    -- The key has one row only, which is the one that has been changed.
    obtain ⟨former, -, rfl⟩ := eq_change_of_mem_changeFirst distinct.keys member same
    exact useless former.key

/-- Withdrawing a stored key bars it. -/
theorem barred_revoke {tables : Tables} {key : KeyId} (distinct : tables.Distinct)
    (stored : key ∈ tables.keys.map (·.key.id)) : (tables.revoke key).Barred key :=
  barred_changeKey distinct stored (fun found => { found with revoked := true }) (fun _ => rfl)
    fun _ => by simp [AccessKey.isUsable]

/-- Switching a stored key off bars it. -/
theorem barred_deactivate {tables : Tables} {key : KeyId} (distinct : tables.Distinct)
    (stored : key ∈ tables.keys.map (·.key.id)) : (tables.deactivate key).Barred key :=
  barred_changeKey distinct stored (fun found => { found with active := false }) (fun _ => rfl)
    fun _ => by simp [AccessKey.isUsable]

/-- A key that is found under a digest is one of those stored. -/
theorem mem_of_keyOf? {tables : Tables} {digest : String} {key : AccessKey}
    (found : tables.keyOf? digest = some key) : ∃ row ∈ tables.keys, row.key = key := by
  -- The row found under the digest is one of those stored.
  obtain ⟨row, located, same⟩ := Option.map_eq_some_iff.mp found
  exact ⟨row, List.mem_of_find?_eq_some located, same⟩

/-- Where no two accounts share an identity, every account is found by its own. -/
theorem account?_eq_of_mem {tables : Tables} (distinct : tables.Distinct) {account : Account}
    (member : account ∈ tables.accounts) : tables.account? account.id = some account :=
  find?_name_eq distinct.accounts member

end Tollgate.Vault.Tables
