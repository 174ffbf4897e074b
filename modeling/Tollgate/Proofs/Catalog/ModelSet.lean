import Mathlib.Data.List.Induction
import Tollgate.Catalog.Basic
import Tollgate.Proofs.Index
import Tollgate.Proofs.Latest

/-!
Sets of models by their folded names: the set of a list holds the last model of every name, and
several sets seen as one show under every name what one of them holds.
-/

namespace Tollgate.ModelSet

/-- The model is the last one listed that has a name at all and this folded name. -/
def Offers (models : List Descriptor) (key : String) (model : Descriptor) : Prop :=
  IsLatest (fun listed => listed.id ≠ "" ∧ listed.key = key) models model

/-- A model listed behind all others replaces one of its name, unless it has no name. -/
theorem ofList_concat (models : List Descriptor) (last : Descriptor) :
    ofList (models ++ [last]) =
      if last.id = "" then ofList models else Index.put (ofList models) last.key last := by
  by_cases unnamed : last.id = ""
  · simp [ofList, unnamed]
  · simp [ofList, unnamed]

/-- The set of a list holds the last model of every name. -/
theorem get?_ofList_iff {models : List Descriptor} {key : String} {model : Descriptor} :
    Index.get? (ofList models) key = some model ↔ Offers models key model := by
  -- Models are added in the order of the list, so the last one is looked at first.
  induction models using List.reverseRecOn with
  | nil => simp [ofList, Offers, not_isLatest_nil]
  | append_singleton models last ih =>
    rw [ofList_concat, Offers, isLatest_concat, ← Offers, ← ih]
    by_cases unnamed : last.id = ""
    · simp [unnamed]
    · -- A model with a name replaces what was held under it.
      rw [if_neg unnamed, Index.get?_put]
      by_cases same : last.key = key
      · simp [same, unnamed, eq_comm]
      · simp [same]

/-- A model is offered under its own folded name. -/
theorem Offers.key {models : List Descriptor} {key : String} {model : Descriptor}
    (offers : Offers models key model) : model.key = key := by
  obtain ⟨before, after, -, met, -⟩ := offers
  exact met.2

/-- No name occurs twice in the set of a list. -/
theorem distinct_ofList (models : List Descriptor) : Index.Distinct (ofList models) := by
  -- Every model is entered on its own, which never leads to a second entry of its name.
  induction models using List.reverseRecOn with
  | nil => simp [ofList, Index.Distinct]
  | append_singleton models last ih =>
    rw [ofList_concat]
    split
    · exact ih
    · exact Index.distinct_put ih last.key last

/-- Sets put behind one another hold under every name what the first of them to hold it holds. -/
theorem get?_flatMap (sets : Index ModelSet) (key : String) :
    Index.get? (sets.flatMap (·.2)) key = sets.findSome? fun set => Index.get? set.2 key := by
  -- The entries of the first set come before those of the others.
  induction sets with
  | nil => rfl
  | cons set rest ih =>
    rw [List.flatMap_cons, Index.get?_append, ih, List.findSome?_cons]
    cases Index.get? set.2 key <;> rfl

/-- Under every name, sets seen as one show what the first of them to hold the name holds. -/
theorem get?_union (sets : Index ModelSet) (key : String) :
    Index.get? (union sets) key = sets.findSome? fun set => Index.get? set.2 key := by
  calc Index.get? (union sets) key
      = (Index.get? [] key).or (Index.get? (sets.flatMap (·.2)) key) :=
        Index.get?_foldl_putNew _ [] key
    _ = sets.findSome? fun set => Index.get? set.2 key := get?_flatMap sets key

/-- Sets seen as one have no name twice. -/
theorem distinct_union (sets : Index ModelSet) : Index.Distinct (union sets) :=
  Index.distinct_foldl_putNew _ (by simp [Index.Distinct])

end Tollgate.ModelSet
