import RunConditions.Types

/-!
# Names and what they stand for

A name of the configuration is looked up among the known types. It stands for
what is wanted, or there is one error that says why it does not.
-/

set_option autoImplicit false

namespace RunConditions

inductive Types.Misnamed (types : Types) (name : String) (wanted : Role) : Error → Prop
  | unknown (h : types.find? name = none) :
      Misnamed types name wanted (.configuration (.unknownType name))
  | otherRole {what : Registered} (h : types.find? name = some what)
      (hrole : what.role ≠ wanted) :
      Misnamed types name wanted (.configuration (.wrongRole name what.role wanted))

namespace Types

variable {types : Types} {name : String} {e : Error}

theorem find?_register (types : Types) (name name' : String) (what : Registered) :
    (types.register name what).find? name' =
      if name' = name then some what else types.find? name' := by
  simp only [find?, register, List.lookup_cons]
  by_cases h : name' = name
  · simp [h]
  · simp [h, beq_eq_false_iff_ne.mpr h]

theorem object_of_find? {r : RowType} (h : types.find? name = some (.object r)) :
    types.object name = .ok r := by
  simp only [object, find, h]
  rfl

theorem collection_of_find? {c : CollectionType} (h : types.find? name = some (.collection c)) :
    types.collection name = .ok c := by
  simp only [collection, find, h]
  rfl

theorem converter_of_find? {c : Converter} (h : types.find? name = some (.converter c)) :
    types.converter name = .ok c := by
  simp only [converter, find, h]
  rfl

theorem Misnamed.object (h : types.Misnamed name .object e) : types.object name = .error e := by
  cases h with
  | unknown h =>
    simp only [Types.object, find, h]
    rfl
  | @otherRole what h hrole =>
    simp only [Types.object, find, h]
    cases what with
    | object r => exact absurd rfl hrole
    | collection c => rfl
    | converter c => rfl

theorem Misnamed.collection (h : types.Misnamed name .collection e) :
    types.collection name = .error e := by
  cases h with
  | unknown h =>
    simp only [Types.collection, find, h]
    rfl
  | @otherRole what h hrole =>
    simp only [Types.collection, find, h]
    cases what with
    | object r => rfl
    | collection c => exact absurd rfl hrole
    | converter c => rfl

theorem Misnamed.converter (h : types.Misnamed name .converter e) :
    types.converter name = .error e := by
  cases h with
  | unknown h =>
    simp only [Types.converter, find, h]
    rfl
  | @otherRole what h hrole =>
    simp only [Types.converter, find, h]
    cases what with
    | object r => rfl
    | collection c => rfl
    | converter c => exact absurd rfl hrole

theorem exists_or_misnamed (types : Types) (name : String) (wanted : Role) :
    (∃ what, types.find? name = some what ∧ what.role = wanted) ∨
      ∃ e, types.Misnamed name wanted e := by
  cases h : types.find? name with
  | none => exact Or.inr ⟨_, .unknown h⟩
  | some what =>
    by_cases hrole : what.role = wanted
    · exact Or.inl ⟨what, rfl, hrole⟩
    · exact Or.inr ⟨_, .otherRole h hrole⟩

theorem object_or_misnamed (types : Types) (name : String) :
    (∃ r, types.find? name = some (.object r)) ∨ ∃ e, types.Misnamed name .object e := by
  rcases types.exists_or_misnamed name .object with ⟨_ | _ | _, h, hrole⟩ | h
  · exact Or.inl ⟨_, h⟩
  · cases hrole
  · cases hrole
  · exact Or.inr h

theorem collection_or_misnamed (types : Types) (name : String) :
    (∃ c, types.find? name = some (.collection c)) ∨ ∃ e, types.Misnamed name .collection e := by
  rcases types.exists_or_misnamed name .collection with ⟨_ | _ | _, h, hrole⟩ | h
  · cases hrole
  · exact Or.inl ⟨_, h⟩
  · cases hrole
  · exact Or.inr h

theorem converter_or_misnamed (types : Types) (name : String) :
    (∃ c, types.find? name = some (.converter c)) ∨ ∃ e, types.Misnamed name .converter e := by
  rcases types.exists_or_misnamed name .converter with ⟨_ | _ | _, h, hrole⟩ | h
  · cases hrole
  · cases hrole
  · exact Or.inl ⟨_, h⟩
  · exact Or.inr h

end Types

end RunConditions
