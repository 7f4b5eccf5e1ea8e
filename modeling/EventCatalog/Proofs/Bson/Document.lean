import EventCatalog.Bson.Basic

/-!
# Members of documents

Setting a member of a document makes it the member of that name and leaves all other ones alone,
whether there was one of that name before or not.
-/

namespace EventCatalog.Document

@[simp]
theorem get?_nil (name : String) : get? [] name = none := rfl

theorem get?_cons (name key : String) (v : Bson) (d : Document) :
    get? ((key, v) :: d) name = if key = name then some v else get? d name := by
  by_cases h : key = name <;> simp [get?, h]

theorem get?_append (d e : Document) (name : String) :
    get? (d ++ e) name = (get? d name).or (get? e name) := by
  simp [get?, List.find?_append, Option.map_or]

/-- Where no name stands twice, each member is the one of its name. -/
theorem get?_of_mem {d : Document} (hnames : (d.map Prod.fst).Nodup) {name : String} {v : Bson}
    (h : (name, v) ∈ d) : d.get? name = some v := by
  induction d with
  | nil => cases h
  | cons m d ih =>
    obtain ⟨key, w⟩ := m
    rw [List.map_cons, List.nodup_cons] at hnames
    rw [get?_cons]
    rcases List.mem_cons.1 h with heq | hlater
    · obtain ⟨rfl, rfl⟩ := Prod.mk.inj heq
      rw [if_pos rfl]
    · have hne : key ≠ name := fun hkey ↦ hnames.1 (List.mem_map.2 ⟨_, hlater, hkey.symm⟩)
      rw [if_neg hne, ih hnames.2 hlater]

/-- Writing over all members of a name leaves the other ones as they are. -/
theorem get?_map_ne {name other : String} (h : other ≠ name) (d : Document) (v : Bson) :
    get? (d.map fun m ↦ if m.1 = name then (name, v) else m) other = d.get? other := by
  induction d with
  | nil => rfl
  | cons m d ih =>
    obtain ⟨key, w⟩ := m
    rw [List.map_cons, get?_cons]
    by_cases hkey : key = name
    · have hne : key ≠ other := fun hother ↦ h (hother.symm.trans hkey)
      rw [if_pos hkey, get?_cons, if_neg h.symm, ih, if_neg hne]
    · rw [if_neg hkey, get?_cons, ih]

theorem get?_map_self {name : String} {d : Document} (h : d.any (·.1 = name)) (v : Bson) :
    get? (d.map fun m ↦ if m.1 = name then (name, v) else m) name = some v := by
  induction d with
  | nil => simp at h
  | cons m d ih =>
    obtain ⟨key, w⟩ := m
    rw [List.map_cons]
    by_cases hkey : key = name
    · rw [if_pos hkey, get?_cons, if_pos rfl]
    · rw [if_neg hkey, get?_cons, if_neg hkey, ih (by simpa [hkey] using h)]

theorem get?_eq_none {name : String} {d : Document} (h : ¬d.any (·.1 = name)) :
    d.get? name = none := by
  rw [get?, Option.map_eq_none_iff, List.find?_eq_none]
  intro m hm hname
  exact h (List.any_eq_true.2 ⟨m, hm, hname⟩)

theorem get?_set_ne {name other : String} (h : other ≠ name) (d : Document) (v : Bson) :
    (d.set name v).get? other = d.get? other := by
  unfold set
  split
  · exact get?_map_ne h d v
  · rw [get?_append, get?_cons, if_neg h.symm, get?_nil, Option.or_none]

@[simp]
theorem get?_set_self (d : Document) (name : String) (v : Bson) :
    (d.set name v).get? name = some v := by
  unfold set
  split
  next hany => exact get?_map_self hany v
  next hany => rw [get?_append, get?_eq_none hany, Option.none_or, get?_cons, if_pos rfl]

end EventCatalog.Document
