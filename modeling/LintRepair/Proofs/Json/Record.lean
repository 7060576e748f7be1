import LintRepair.Json.Value

/-!
Records read out of objects. What is read of a record depends on the fields that it asks for and on
nothing else in the object.
-/
namespace LintRepair.Json.Value

variable {fields : List (String × Option Value)} {ms : List (String × Value)} {v : Value}
variable {name : String}

/-- The value is an object that has a field of each of these names once if it comes with a value,
and none if it does not. Members of other names may stand anywhere, as often as they like. -/
def HasFields (fields : List (String × Option Value)) (v : Value) : Prop :=
  ∃ ms, v = .ofMembers ms ∧
    ∀ f ∈ fields, (ms.filter (·.1 = f.1)).map Prod.snd = f.2.toList

theorem members?_ofMembers (ms : List (String × Value)) :
    members? (ms.map fun m => (some m.1, m.2)) = some ms := by
  induction ms with
  | nil => rfl
  | cons m ms ih => rw [List.map_cons, members?, ih, Option.map_some]

theorem lookup_eq_head?_filter (name : String) (ms : List (String × Value)) :
    ms.lookup name = ((ms.filter (·.1 = name)).map Prod.snd).head? := by
  induction ms with
  | nil => rfl
  | cons m ms ih =>
    obtain ⟨k, v⟩ := m
    rw [List.lookup_cons, List.filter_cons]
    by_cases here : k = name
    · simp [here]
    · rw [beq_eq_false_iff_ne.mpr (Ne.symm here), if_neg (by simp [here])]
      exact ih

/-- A record is read field by field, wherever its fields stand. -/
theorem record?_of_hasFields (h : v.HasFields fields) :
    v.record? (fields.map Prod.fst) = some (fields.map Prod.snd) := by
  obtain ⟨ms, rfl, found⟩ := h
  have single : isSingle (fields.map Prod.fst) ms = true := by
    refine List.all_eq_true.mpr fun name mem => ?_
    obtain ⟨f, hf, rfl⟩ := List.mem_map.mp mem
    have count := congrArg List.length (found f hf)
    rw [List.length_map] at count
    rw [decide_eq_true_eq, count]
    cases f.2 <;> simp
  have values : (fields.map Prod.fst).map (fun name => ms.lookup name) = fields.map Prod.snd := by
    rw [List.map_map]
    refine List.map_congr_left fun f hf => ?_
    show ms.lookup f.1 = f.2
    rw [lookup_eq_head?_filter, found f hf]
    cases f.2 <;> rfl
  rw [ofMembers, record?, members?_ofMembers, Option.bind_some, if_pos single, values]

end LintRepair.Json.Value
