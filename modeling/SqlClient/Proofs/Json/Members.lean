import Mathlib.Data.List.Induction
import SqlClient.Json

namespace SqlClient.Json

/-!
# Members of an object

What an object keeps of members of which some may share a name.

* `map_fst_collect` — every name once, in the order in which they came first.
* `forall_mem_collect` — no value that was not there.
* `field?_objectOf` — under each name the value that came last.
* `collect_of_nodup` — members with names of their own are all kept.
-/

/-! ### One member more -/

section Put

variable {α : Type}

/-- A member with a new name comes behind those that are there. -/
theorem put_of_not_mem {name : String} (value : α) {members : List (String × α)}
    (h : name ∉ members.map (·.1)) : put name value members = members ++ [(name, value)] := by
  induction members with
  | nil => rfl
  | cons m rest ih =>
    obtain ⟨hm, hrest⟩ := not_or.mp (mt List.mem_cons.mpr h)
    simp only [put, List.cons_append]
    rw [if_neg (Ne.symm hm), ih hrest]

/-- A member with a name that is there already adds no name. -/
theorem map_fst_put_of_mem {name : String} (value : α) {members : List (String × α)}
    (h : name ∈ members.map (·.1)) : (put name value members).map (·.1) = members.map (·.1) := by
  induction members with
  | nil => exact absurd h List.not_mem_nil
  | cons m rest ih =>
    simp only [put]
    split
    · rfl
    · rename_i hm
      have hrest : name ∈ rest.map (·.1) := (List.mem_cons.mp h).resolve_left (Ne.symm hm)
      rw [List.map_cons, ih hrest, List.map_cons]

theorem collect_append_singleton (members : List (String × α)) (m : String × α) :
    collect (members ++ [m]) = put m.1 m.2 (collect members) := by
  simp [collect]

/-- The names of what is kept: each once, where it came first. -/
theorem map_fst_collect (members : List (String × α)) :
    (collect members).map (·.1) = (members.map (·.1)).eraseDups := by
  induction members using List.reverseRecOn with
  | nil => rfl
  | append_singleton members m ih =>
    rw [collect_append_singleton, List.map_append, List.eraseDups_append, ← ih]
    -- a name that came before keeps its place, and a new one goes to the end
    by_cases hm : m.1 ∈ members.map (·.1)
    · have hkept : m.1 ∈ (collect members).map (·.1) := by
        rw [ih]
        exact List.mem_eraseDups.mpr hm
      rw [map_fst_put_of_mem m.2 hkept]
      simp [List.removeAll, hm]
    · have hnew : m.1 ∉ (collect members).map (·.1) := by
        rw [ih]
        exact mt List.mem_eraseDups.mp hm
      rw [put_of_not_mem m.2 hnew]
      simp [List.removeAll, List.eraseDups_cons, hm]

/-- No two of the members that are kept have one name, as a later one takes the place of an
    earlier. -/
theorem nodup_map_fst_collect (members : List (String × α)) :
    ((collect members).map (·.1)).Nodup := by
  induction members using List.reverseRecOn with
  | nil => exact List.nodup_nil
  | append_singleton members m ih =>
    rw [collect_append_singleton]
    by_cases hm : m.1 ∈ (collect members).map (·.1)
    · rw [map_fst_put_of_mem m.2 hm]
      exact ih
    · rw [put_of_not_mem m.2 hm, List.map_append, List.nodup_append]
      refine ⟨ih, by simp, ?_⟩
      rintro name hname _ hlast rfl
      obtain rfl := List.mem_singleton.mp hlast
      exact hm hname

private theorem forall_mem_put {P : α → Prop} {name : String} {value : α}
    {members : List (String × α)}
    (hvalue : P value) (h : ∀ m ∈ members, P m.2) : ∀ m ∈ put name value members, P m.2 := by
  induction members with
  | nil => simpa [put] using hvalue
  | cons m rest ih =>
    obtain ⟨hm, hrest⟩ := List.forall_mem_cons.mp h
    simp only [put]
    split
    · exact List.forall_mem_cons.mpr ⟨hvalue, hrest⟩
    · exact List.forall_mem_cons.mpr ⟨hm, ih hrest⟩

/-- What is true of the values of all members is true of those that are kept. -/
theorem forall_mem_collect {P : α → Prop} {members : List (String × α)}
    (h : ∀ m ∈ members, P m.2) : ∀ m ∈ collect members, P m.2 := by
  induction members using List.reverseRecOn with
  | nil => exact fun m hm => absurd hm List.not_mem_nil
  | append_singleton members m ih =>
    obtain ⟨hmembers, hm⟩ := List.forall_mem_append.mp h
    rw [collect_append_singleton]
    exact forall_mem_put (hm m (List.mem_singleton_self m)) (ih hmembers)

/-- Members with names of their own are all kept, in their order. -/
theorem collect_of_nodup {members : List (String × α)} (h : (members.map (·.1)).Nodup) :
    collect members = members := by
  induction members using List.reverseRecOn with
  | nil => rfl
  | append_singleton members m ih =>
    rw [List.map_append, List.nodup_append] at h
    obtain ⟨hmembers, _, hapart⟩ := h
    have hnew : m.1 ∉ members.map (·.1) := by
      intro hm
      exact hapart m.1 hm m.1 (List.mem_singleton_self _) rfl
    rw [collect_append_singleton, ih hmembers, put_of_not_mem m.2 hnew]

end Put

/-! ### Values by name -/

private theorem field?_put (name n : String) (value : Json) (members : List (String × Json)) :
    (object (put name value members)).field? n =
      if n = name then some value else (object members).field? n := by
  induction members with
  | nil =>
    by_cases hn : n = name
    · simp [field?, put, hn]
    · simp [field?, put, hn, Ne.symm hn]
  | cons m rest ih =>
    simp only [field?] at ih
    by_cases hm : m.1 = name
    · by_cases hn : n = name
      · simp [field?, put, hm, hn]
      · simp [field?, put, hm, hn, Ne.symm hn]
    · by_cases hmn : m.1 = n
      · subst hmn
        simp [field?, put, hm]
      · simp [field?, put, hm, hmn, ih]

/-- Under each name stands the value that came last. -/
theorem field?_objectOf (members : List (String × Json)) (n : String) :
    (objectOf members).field? n = (members.reverse.find? (·.1 = n)).map (·.2) := by
  unfold objectOf
  induction members using List.reverseRecOn with
  | nil => rfl
  | append_singleton members m ih =>
    rw [collect_append_singleton, field?_put, ih, List.reverse_append, List.reverse_singleton,
      List.singleton_append, List.find?_cons]
    by_cases hn : n = m.1
    · simp [hn]
    · simp [hn, Ne.symm hn]

end SqlClient.Json
