import Mathlib.Data.List.Infix
import Mathlib.Tactic.Common
import SqlClient.Embedded.Affinity

namespace SqlClient

/-!
# Declared types and affinities

The database takes the affinity of a column from the words in its declared type, by the first
of five rules.  The type of a column of a table follows the same words, but it looks for those
of floats before those of blobs.  So the two part on declared types that name both, and on no
others.

* `Names` — a declared type names a word, whatever the case of its letters.
* `Affinity.Ruled` — the affinity by the rules of the database.
* `Affinity.ruled_ofDeclared`, `Affinity.Ruled.eq` — the rules settle it.
* `ColumnType.ofDeclared?_of_ruled` — the type of a column, from the affinity.
* `affinity_of_declared_type` — where the two agree, and where they part.
-/

/-! ### Words in a declared type -/

/-- The declared type has the word in it, which is in capital letters. -/
def Names (declared word : String) : Prop := word.toList <:+: declared.toUpper.toList

/-- It has one of the words in it. -/
def NamesAny (declared : String) (words : List String) : Prop :=
  ∃ word ∈ words, Names declared word

theorem ColumnType.occurs_iff {word text : List Char} :
    occurs word text = true ↔ word <:+: text := by
  induction text with
  | nil => simp [occurs]
  | cons c text ih => simp [occurs, ih, List.infix_cons_iff]

/-- A rule applies if the declared type names one of its words. -/
theorem any_occurs_iff {declared : String} {words : List String} :
    (words.any fun word => ColumnType.occurs word.toList (declared.toList.map Char.toUpper)) =
      true ↔ NamesAny declared words := by
  have hupper : declared.toUpper.toList = declared.toList.map Char.toUpper := String.toList_map
  simp only [List.any_eq_true, ColumnType.occurs_iff, NamesAny, Names, hupper]

instance (declared : String) (words : List String) : Decidable (NamesAny declared words) :=
  decidable_of_iff _ any_occurs_iff

/-- Rules are tried one after the other, and the first that applies is the last that is looked
    at. -/
theorem find?_cons_rule {α : Type} (declared : String) (words : List String) (a : α)
    (rules : List (List String × α)) :
    (((words, a) :: rules).find? fun rule => rule.1.any fun word =>
        ColumnType.occurs word.toList (declared.toList.map Char.toUpper)) =
      if NamesAny declared words then some (words, a)
      else rules.find? fun rule => rule.1.any fun word =>
        ColumnType.occurs word.toList (declared.toList.map Char.toUpper) := by
  by_cases h : NamesAny declared words
  · rw [if_pos h]
    exact List.find?_cons_of_pos (any_occurs_iff.mpr h)
  · rw [if_neg h]
    exact List.find?_cons_of_neg (mt any_occurs_iff.mp h)

/-- The first rule of all is for the words without an affinity. -/
private theorem ColumnType.ofDeclared?_eq (declared : String) :
    ofDeclared? declared =
      if NamesAny declared ["BOOL"] then some .boolean
      else if NamesAny declared ["DATE", "TIME"] then some .timestamp
      else if NamesAny declared ["INT"] then some .int64
      else if NamesAny declared ["CHAR", "CLOB", "TEXT"] then some .utf8
      else if NamesAny declared ["REAL", "FLOA", "DOUB"] then some .float64
      else if NamesAny declared ["BLOB"] then some .binary
      else none := by
  simp only [ofDeclared?, affinityRules, find?_cons_rule, List.find?_nil]
  split_ifs <;> rfl

/-- A letter is made a capital in the same way whether it was one before or not. -/
private theorem toUpper_toLower (c : Char) : c.toLower.toUpper = c.toUpper := by
  refine Char.ext ?_
  delta Char.toLower Char.toUpper
  split
  · -- a capital letter is moved by 32 and back
    rename_i hcapital
    have hlow := UInt32.le_iff_toNat_le.mp hcapital.1
    have hhigh := UInt32.le_iff_toNat_le.mp hcapital.2
    split
    · split
      · grind
      · grind
    · grind
  · rfl

/-- The type of a column does not depend on the case of the letters in its declared type. -/
private theorem ColumnType.ofDeclared?_congr {declared other : String}
    (h : other.toLower = declared.toLower) : ofDeclared? other = ofDeclared? declared := by
  have hlower : other.toList.map Char.toLower = declared.toList.map Char.toLower := by
    rw [← String.toList_map, ← String.toList_map]
    exact congrArg String.toList h
  have hupper : other.toList.map Char.toUpper = declared.toList.map Char.toUpper := by
    have hagain := congrArg (List.map Char.toUpper) hlower
    simpa only [List.map_map, Function.comp_def, toUpper_toLower] using hagain
  simp only [ofDeclared?, hupper]

/-! ### The rules of the database -/

namespace Embedded

/-- The affinity of a declared type by the first of the rules that applies.  Where nothing is
    declared, nothing is preferred. -/
inductive Affinity.Ruled (declared : String) : Affinity → Prop where
  | integer (h : NamesAny declared ["INT"]) : Ruled declared .integer
  | text (hint : ¬ NamesAny declared ["INT"])
      (h : NamesAny declared ["CHAR", "CLOB", "TEXT"]) : Ruled declared .text
  | none (hint : ¬ NamesAny declared ["INT"])
      (htext : ¬ NamesAny declared ["CHAR", "CLOB", "TEXT"])
      (h : declared = "" ∨ NamesAny declared ["BLOB"]) : Ruled declared .none
  | real (hint : ¬ NamesAny declared ["INT"])
      (htext : ¬ NamesAny declared ["CHAR", "CLOB", "TEXT"])
      (hblob : ¬ NamesAny declared ["BLOB"])
      (h : NamesAny declared ["REAL", "FLOA", "DOUB"]) : Ruled declared .real
  | numeric (hint : ¬ NamesAny declared ["INT"])
      (htext : ¬ NamesAny declared ["CHAR", "CLOB", "TEXT"])
      (hblob : ¬ NamesAny declared ["BLOB"])
      (hreal : ¬ NamesAny declared ["REAL", "FLOA", "DOUB"])
      (hne : declared ≠ "") : Ruled declared .numeric

namespace Affinity

theorem ofDeclared_eq (declared : String) :
    ofDeclared (some declared) =
      if NamesAny declared ["INT"] then .integer
      else if NamesAny declared ["CHAR", "CLOB", "TEXT"] then .text
      else if NamesAny declared ["BLOB"] then .none
      else if NamesAny declared ["REAL", "FLOA", "DOUB"] then .real
      else .numeric := by
  simp only [ofDeclared, rules, find?_cons_rule, List.find?_nil]
  split_ifs <;> rfl

/-- Some rule applies to every declared type, as the last one applies to all that is left. -/
theorem ruled_ofDeclared {declared : String} (hne : declared ≠ "") :
    Ruled declared (ofDeclared (some declared)) := by
  rw [ofDeclared_eq]
  split_ifs with hint htext hblob hreal
  · exact .integer hint
  · exact .text hint htext
  · exact .none hint htext (.inr hblob)
  · exact .real hint htext hblob hreal
  · exact .numeric hint htext hblob hreal hne

/-- Only one rule applies to a declared type, as each of them leaves out what the rules before it
    take. -/
theorem Ruled.eq {declared : String} {a : Affinity} (h : Ruled declared a)
    (hne : declared ≠ "") : a = ofDeclared (some declared) := by
  rw [ofDeclared_eq]
  cases h with
  | integer h => rw [if_pos h]
  | text hint h => rw [if_neg hint, if_pos h]
  | none hint htext h => rw [if_neg hint, if_neg htext, if_pos (h.resolve_left hne)]
  | real hint htext hblob h => rw [if_neg hint, if_neg htext, if_neg hblob, if_pos h]
  | numeric hint htext hblob hreal _ =>
    rw [if_neg hint, if_neg htext, if_neg hblob, if_neg hreal]

/-- The type of a column that holds what the affinity prefers; none where that may be numbers
    of either kind. -/
def columnType? : Affinity → Option ColumnType
  | integer => some .int64
  | text => some .utf8
  | none => some .binary
  | real => some .float64
  | numeric => .none

end Affinity

/-! ### Where they part -/

/-- The type of a column, by the affinity of what is declared. -/
theorem ofDeclared?_of_ruled {declared : String} {a : Affinity} (h : a.Ruled declared)
    (hne : declared ≠ "") (hbool : ¬ NamesAny declared ["BOOL"])
    (htime : ¬ NamesAny declared ["DATE", "TIME"]) :
    ColumnType.ofDeclared? declared =
      if a = .none ∧ NamesAny declared ["REAL", "FLOA", "DOUB"] then some .float64
      else a.columnType? := by
  rw [ColumnType.ofDeclared?_eq, if_neg hbool, if_neg htime]
  cases h with
  | integer h => simp [h, Affinity.columnType?]
  | text hint h => simp [hint, h, Affinity.columnType?]
  | none hint htext h =>
    -- the words for floats are looked for first, though the affinity is that of blobs
    simp [hint, htext, h.resolve_left hne, Affinity.columnType?]
  | real hint htext hblob h => simp [hint, htext, h, Affinity.columnType?]
  | numeric hint htext hblob hreal _ => simp [hint, htext, hblob, hreal, Affinity.columnType?]

/-- **Declared types follow affinities.** Where a declared type names neither truth values nor
    dates and times, the type of the column is the one for its affinity by the rules of the
    database, unless the affinity is that of blobs and words for floats are named too; then it
    is that of floats.  The case of the letters never matters. -/
theorem affinity_of_declared_type {declared : String} (hne : declared ≠ "")
    (hplain : ¬ NamesAny declared ["BOOL", "DATE", "TIME"]) :
    ∃ a : Affinity, (∀ b : Affinity, b.Ruled declared ↔ b = a) ∧
      Affinity.ofDeclared (some declared) = a ∧
      (ColumnType.ofDeclared? declared = a.columnType? ↔
        ¬ (a = .none ∧ NamesAny declared ["REAL", "FLOA", "DOUB"])) ∧
      (a = .none → NamesAny declared ["REAL", "FLOA", "DOUB"] →
        ColumnType.ofDeclared? declared = some .float64) ∧
      ∀ other : String, other.toLower = declared.toLower →
        ColumnType.ofDeclared? other = ColumnType.ofDeclared? declared := by
  have hruled := Affinity.ruled_ofDeclared hne
  -- none of the words that the affinity rules do not know
  have hbool : ¬ NamesAny declared ["BOOL"] := by
    rintro ⟨word, hword, hnames⟩
    exact hplain ⟨word, by simp_all, hnames⟩
  have htime : ¬ NamesAny declared ["DATE", "TIME"] := by
    rintro ⟨word, hword, hnames⟩
    exact hplain ⟨word, List.mem_cons_of_mem _ hword, hnames⟩
  have htype := ofDeclared?_of_ruled hruled hne hbool htime
  refine ⟨Affinity.ofDeclared (some declared), fun b => ⟨fun h => h.eq hne, ?_⟩, rfl, ?_, ?_,
    fun other => ColumnType.ofDeclared?_congr⟩
  · rintro rfl
    exact hruled
  · rw [htype]
    split_ifs with hboth
    · simp [hboth.1, hboth.2, Affinity.columnType?]
    · simp [hboth]
  · intro hnone hreal
    rw [htype, if_pos ⟨hnone, hreal⟩]

/-- Words for integers win over words for texts, and these over words for blobs. -/
theorem affinity_of_declared_type_of_overlap :
    Affinity.Ruled "PointText" .integer ∧
    ColumnType.ofDeclared? "PointText" = some .int64 ∧
    Affinity.Ruled "Blob Text" .text ∧
    ColumnType.ofDeclared? "bLOB tEXT" = some .utf8 := by
  have hpoint : "PointText" ≠ "" := by decide
  have hblob : "Blob Text" ≠ "" := by decide
  obtain ⟨a, hruled, ha, hagree, _, _⟩ :=
    affinity_of_declared_type hpoint (by decide +kernel)
  obtain ⟨b, hruled', hb, hagree', _, hcase⟩ :=
    affinity_of_declared_type hblob (by decide +kernel)
  have hinteger : Affinity.ofDeclared (some "PointText") = .integer := by decide +kernel
  have htext : Affinity.ofDeclared (some "Blob Text") = .text := by decide +kernel
  obtain rfl : .integer = a := hinteger.symm.trans ha
  obtain rfl : .text = b := htext.symm.trans hb
  have hletters : "bLOB tEXT".toList.map Char.toLower = "Blob Text".toList.map Char.toLower := by
    decide +kernel
  have hlower : "bLOB tEXT".toLower = "Blob Text".toLower := by
    have hlist (s : String) : s.toLower.toList = s.toList.map Char.toLower := String.toList_map
    rw [← String.toList_inj, hlist, hlist, hletters]
  exact ⟨(hruled .integer).mpr rfl, hagree.mpr fun hboth => absurd hboth.1 (by decide),
    (hruled' .text).mpr rfl,
    (hcase _ hlower).trans (hagree'.mpr fun hboth => absurd hboth.1 (by decide))⟩

/-- A column of reals or blobs has the affinity of blobs, and yet the type of floats. -/
theorem float_type_of_blob_affinity :
    "REAL BLOB" ≠ "" ∧ ¬ NamesAny "REAL BLOB" ["BOOL", "DATE", "TIME"] ∧
    Affinity.Ruled "REAL BLOB" .none ∧ Affinity.none.columnType? = some .binary ∧
    ColumnType.ofDeclared? "REAL BLOB" = some .float64 := by
  refine ⟨by decide, by decide +kernel, ?_, rfl, by decide +kernel⟩
  exact .none (by decide +kernel) (by decide +kernel) (.inr (by decide +kernel))

end Embedded

end SqlClient
