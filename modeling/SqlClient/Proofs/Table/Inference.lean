import SqlClient.Table.Materialize

namespace SqlClient

/-!
# The narrowest type of a column

Where no declared type settles it, the type of a column is the narrowest that holds all
its values.  The rows are read from top to bottom, but only the types that occur count.

* `naturalTypes` — the types that the values ask for.
* `Narrowest` — the narrowest type for some types that occur.
* `Narrowest.join_iff` — two types are as good as the one that holds both.
* `inferType_eq_ok` — a type is inferred exactly if it is the narrowest.
-/

/-- The types that the values of a column ask for, from top to bottom. -/
def naturalTypes (values : List Value) : List ColumnType :=
  values.filterMap Value.naturalType?

/-- A null in front adds no type to those of a column. -/
theorem naturalTypes_cons_of_none {v : Value} (h : v.naturalType? = none)
    (values : List Value) : naturalTypes (v :: values) = naturalTypes values :=
  List.filterMap_cons_none h

/-- Any other value in front adds its own type to those of a column. -/
theorem naturalTypes_cons_of_some {v : Value} {t : ColumnType} (h : v.naturalType? = some t)
    (values : List Value) : naturalTypes (v :: values) = t :: naturalTypes values :=
  List.filterMap_cons_some h

/-- The narrowest type where these types occur: there is none, they are all the same, or
    those of integers and of doubles stand side by side. -/
inductive Narrowest : List ColumnType → ColumnType → Prop where
  | nothing : Narrowest [] .null
  | uniform (types : List ColumnType) (T : ColumnType) (h : types ≠ [])
      (hall : ∀ t ∈ types, t = T) : Narrowest types T
  | mixed (types : List ColumnType) (hint : .int64 ∈ types) (hfloat : .float64 ∈ types)
      (hall : ∀ t ∈ types, t = .int64 ∨ t = .float64) : Narrowest types .float64

namespace Narrowest

/-- Where there are only nulls, the narrowest type is that of nulls. -/
theorem nil_iff {T : ColumnType} : Narrowest [] T ↔ T = .null := by
  constructor
  · intro h
    cases h with
    | nothing => rfl
    | uniform _ _ hne _ => exact absurd rfl hne
    | mixed _ hint _ _ => exact absurd hint List.not_mem_nil
  · rintro rfl
    exact .nothing

/-- Where there is only one type, it is the narrowest itself. -/
theorem singleton_iff {t T : ColumnType} : Narrowest [t] T ↔ T = t := by
  constructor
  · intro h
    cases h with
    | uniform _ _ _ hall => exact (hall t List.mem_cons_self).symm
    | mixed _ hint hfloat _ =>
      rw [List.mem_singleton] at hint hfloat
      exact absurd (hint.trans hfloat.symm) (by decide)
  · rintro rfl
    exact .uniform _ _ (List.cons_ne_nil _ _) fun _ => List.mem_singleton.mp

/-- Where doubles occur, so do numbers only, and the type is theirs. -/
theorem float64_iff {types : List ColumnType} {T : ColumnType} (hfloat : .float64 ∈ types) :
    Narrowest types T ↔ T = .float64 ∧ ∀ t ∈ types, t = .int64 ∨ t = .float64 := by
  constructor
  · intro h
    cases h with
    | nothing => exact absurd hfloat List.not_mem_nil
    | uniform _ _ _ hall =>
      obtain rfl := hall _ hfloat
      exact ⟨rfl, fun t ht => .inr (hall t ht)⟩
    | mixed _ _ _ hall => exact ⟨rfl, hall⟩
  · rintro ⟨rfl, hall⟩
    by_cases hint : .int64 ∈ types
    · exact .mixed types hint hfloat hall
    · refine .uniform types _ (List.ne_nil_of_mem hfloat) fun t ht => ?_
      exact (hall t ht).resolve_left fun heq => hint (heq ▸ ht)

/-- Only which types occur counts, not where or how often. -/
theorem of_mem_iff {types types' : List ColumnType} {T : ColumnType}
    (hmem : ∀ u, u ∈ types' ↔ u ∈ types) (h : Narrowest types T) : Narrowest types' T := by
  cases h with
  | nothing =>
    have hnil : types' = [] := List.eq_nil_iff_forall_not_mem.mpr fun u hu =>
      List.not_mem_nil ((hmem u).mp hu)
    rw [hnil]
    exact .nothing
  | uniform _ _ hne hall =>
    obtain ⟨t, ht⟩ := List.exists_mem_of_ne_nil _ hne
    have hne' : types' ≠ [] := List.ne_nil_of_mem ((hmem t).mpr ht)
    exact .uniform types' T hne' fun u hu => hall u ((hmem u).mp hu)
  | mixed _ hint hfloat hall =>
    exact .mixed types' ((hmem _).mpr hint) ((hmem _).mpr hfloat) fun u hu =>
      hall u ((hmem u).mp hu)

/-- The narrowest type depends on which types there are, and not on their order or how often they
    occur. -/
theorem congr_mem {types types' : List ColumnType} {T : ColumnType}
    (hmem : ∀ u, u ∈ types' ↔ u ∈ types) : Narrowest types' T ↔ Narrowest types T :=
  ⟨of_mem_iff fun u => (hmem u).symm, of_mem_iff hmem⟩

/-- A type that occurs again makes no difference to the narrowest. -/
private theorem again_iff {t T : ColumnType} {rest : List ColumnType} :
    Narrowest (t :: t :: rest) T ↔ Narrowest (t :: rest) T :=
  congr_mem (by simp)

/-- Two types are as good as the one that holds both, and without one there is no type. -/
theorem join_iff {t u T : ColumnType} {rest : List ColumnType} :
    Narrowest (t :: u :: rest) T ↔ ∃ joined, t.join? u = some joined ∧
      Narrowest (joined :: rest) T := by
  by_cases heq : t = u
  · subst heq
    simp [ColumnType.join?, again_iff]
  · by_cases hnumeric : (t.isNumeric && u.isNumeric) = true
    · -- one of them is the type of integers, the other that of doubles
      have hjoin : t.join? u = some .float64 := by simp [ColumnType.join?, heq, hnumeric]
      have hfloat : .float64 ∈ t :: u :: rest := by
        cases t <;> cases u <;> simp_all [ColumnType.isNumeric]
      have hnumbers : ∀ w ∈ [t, u], w = .int64 ∨ w = .float64 := by
        cases t <;> cases u <;> simp_all [ColumnType.isNumeric]
      rw [hjoin]
      simp only [Option.some.injEq, exists_eq_left', float64_iff hfloat,
        float64_iff (List.mem_cons_self : .float64 ∈ .float64 :: rest)]
      simp only [List.forall_mem_cons] at hnumbers ⊢
      simp [hnumbers]
    · have hnone : t.join? u = none := by simp [ColumnType.join?, heq, hnumeric]
      rw [hnone]
      refine iff_of_false (fun h => ?_) (by simp)
      cases h with
      | uniform _ _ _ hall =>
        simp only [List.forall_mem_cons] at hall
        exact heq (hall.1.trans hall.2.1.symm)
      | mixed _ _ _ hall =>
        simp only [List.forall_mem_cons] at hall
        -- types that stand side by side are those of numbers
        apply hnumeric
        rcases hall.1 with rfl | rfl <;> rcases hall.2.1 with rfl | rfl <;> rfl

/-- Values that are integers and doubles have a narrowest type, be they mixed or not. -/
theorem exists_of_numeric {types : List ColumnType}
    (h : ∀ t ∈ types, t = .int64 ∨ t = .float64) : ∃ T, Narrowest types T := by
  by_cases hfloat : .float64 ∈ types
  · exact ⟨.float64, (float64_iff hfloat).mpr ⟨rfl, h⟩⟩
  · by_cases hnil : types = []
    · exact ⟨.null, hnil ▸ .nothing⟩
    · refine ⟨.int64, .uniform types _ hnil fun t ht => ?_⟩
      exact (h t ht).resolve_right fun heq => hfloat (heq ▸ ht)

/-- Where fewer types occur, there is a type if there was one. -/
theorem exists_of_subset {types types' : List ColumnType} {T : ColumnType}
    (hsub : types' ⊆ types) (h : Narrowest types T) : ∃ T', Narrowest types' T' := by
  cases h with
  | nothing => exact ⟨.null, List.subset_nil.mp hsub ▸ .nothing⟩
  | uniform _ _ _ hall =>
    by_cases hnil : types' = []
    · exact ⟨.null, hnil ▸ .nothing⟩
    · exact ⟨T, .uniform types' T hnil fun t ht => hall t (hsub ht)⟩
  | mixed _ _ _ hall => exact exists_of_numeric fun t ht => hall t (hsub ht)

/-- Of types that occur, only the narrowest for them counts where more types follow. -/
theorem append_iff {types : List ColumnType} {T : ColumnType} (h : Narrowest types T)
    (hne : types ≠ []) (rest : List ColumnType) (U : ColumnType) :
    Narrowest (types ++ rest) U ↔ Narrowest (T :: rest) U := by
  cases h with
  | nothing => exact absurd rfl hne
  | uniform _ _ _ hall =>
    obtain ⟨t, ht⟩ := List.exists_mem_of_ne_nil _ hne
    obtain rfl := hall t ht
    -- the one type of the first values occurs in both lists
    apply congr_mem
    intro u
    simp only [List.mem_append, List.mem_cons]
    exact or_congr_left ⟨hall u, fun hu => hu ▸ ht⟩
  | mixed _ hint hfloat hall =>
    -- one integer and one double stand for the first values, as both kinds occur there
    have hboth : ∀ u, u ∈ types ++ rest ↔ u ∈ .int64 :: .float64 :: rest := by
      intro u
      simp only [List.mem_append, List.mem_cons, ← or_assoc]
      refine or_congr_left ⟨hall u, ?_⟩
      rintro (rfl | rfl)
      · exact hint
      · exact hfloat
    rw [congr_mem hboth, join_iff]
    simp [ColumnType.join?, ColumnType.isNumeric]

end Narrowest

/-! ### Reading the rows -/

/-- Reading on below a type, the narrowest type for it and for all that follow is found. -/
private theorem inferFrom_some (column : String) (row : Nat) (seen T : ColumnType)
    (values : List Value) :
    inferFrom column row (some seen) values = .ok T ↔
      Narrowest (seen :: naturalTypes values) T := by
  induction values generalizing row seen with
  | nil =>
    rw [naturalTypes, List.filterMap_nil, Narrowest.singleton_iff]
    simp [inferFrom, eq_comm]
  | cons v rest ih =>
    cases hv : v.naturalType? with
    | none =>
      rw [naturalTypes_cons_of_none hv, ← ih (row + 1) seen]
      simp only [inferFrom, hv]
    | some t =>
      rw [naturalTypes_cons_of_some hv, Narrowest.join_iff]
      simp only [inferFrom, hv]
      -- reading goes on below the type that both have in common, if there is one
      cases hjoin : seen.join? t with
      | none => simp
      | some joined => simp [ih]

/-- Before any value but null, no type has been settled on. -/
private theorem inferFrom_none (column : String) (row : Nat) (T : ColumnType)
    (values : List Value) :
    inferFrom column row none values = .ok T ↔ Narrowest (naturalTypes values) T := by
  induction values generalizing row with
  | nil =>
    rw [naturalTypes, List.filterMap_nil, Narrowest.nil_iff]
    simp [inferFrom, eq_comm]
  | cons v rest ih =>
    cases hv : v.naturalType? with
    | none =>
      rw [naturalTypes_cons_of_none hv, ← ih (row + 1)]
      simp only [inferFrom, hv]
    | some t =>
      rw [naturalTypes_cons_of_some hv, ← inferFrom_some column (row + 1)]
      simp only [inferFrom, hv]

/-- **Inference.** A type is inferred for a column exactly if it is the narrowest. -/
theorem inferType_eq_ok {column : String} {values : List Value} {T : ColumnType} :
    inferType column values = .ok T ↔ Narrowest (naturalTypes values) T :=
  inferFrom_none column 0 T values

end SqlClient
