import SqlClient.Options.Json
import SqlClient.Proofs.Json.Reader
import SqlClient.Proofs.Timestamp.Iso

namespace SqlClient

/-!
# Values and options read back from JSON

A value is written with its kind and options with the names of their parts, so that each is
read as what it was, or as what the text of a timestamp tells.  Doubles are left out, as those
that are not finite are written as null.

* `Document.toMembers?_document` — the members of an object, found again under their names.
* `Value.ofDocument?_document`, `Options.ofDocument?_document` — what the documents stand for.
* `stored_json_reads_back` — the whole way there and back.
-/

/-! ### Parts of documents -/

namespace Document

open Json

/-- The members of an object are found again, under their names. -/
theorem toMembers?_document (members : List (String × Json)) :
    (Json.object members).document.toMembers? =
      some (members.map fun m => (m.1, m.2.document)) := by
  simp only [document, toMembers?]
  induction members with
  | nil => rfl
  | cons m rest ih =>
    rw [memberDocuments, List.mapM_cons, textOf?_units, Option.map_some, ih]
    rfl

private theorem toMember?_document (name : String) (j : Json) :
    (Json.object [(name, j)]).document.toMember? = some (name, j.document) := by
  rw [toMember?, toMembers?_document]
  rfl

theorem toText?_document (s : String) : (Json.text s).document.toText? = some s :=
  textOf?_units s

theorem toInt?_document {i : Int} (hlow : -(2 ^ 63) ≤ i) (hhigh : i < 2 ^ 64) :
    (Json.int i).document.toInt? = some i :=
  Numeral.toInt?_ofInt hlow hhigh

/-- An integer of 64 bits with a sign is read back from its document. -/
private theorem toInt64?_document (i : Int64) : (Json.int i.toInt).document.toInt64? = some i := by
  have hlow : -2 ^ 63 ≤ i.toInt := i.le_toInt
  have hhigh : i.toInt < 2 ^ 63 := i.toInt_lt
  have hint : (Json.int i.toInt).document.toInt? = some i.toInt :=
    toInt?_document (by omega) (by omega)
  rw [toInt64?, hint, Option.bind_eq_bind, Option.bind_some, if_pos ⟨hlow, hhigh⟩,
    Int64.ofInt_toInt]

/-- A natural number below a bound is read back from its document, if the bound is `2 ^ 64` at
    most. -/
theorem toNatBelow?_document {n bound : Nat} (hn : n < bound) (hbound : bound ≤ 2 ^ 64) :
    (Json.int n).document.toNatBelow? bound = some n := by
  have hint : (Json.int n).document.toInt? = some (n : Int) :=
    toInt?_document (by omega) (by omega)
  have hrange : (0 : Int) ≤ n ∧ (n : Int) < bound := by omega
  rw [toNatBelow?, hint, Option.bind_eq_bind, Option.bind_some, if_pos hrange, Int.toNat_natCast]

/-- Bytes are read back from the array of their numbers. -/
private theorem toBytes?_document (bytes : List UInt8) :
    (Json.ofBytes bytes).document.toBytes? = some bytes := by
  simp only [Json.ofBytes, document, toBytes?, toItems?, Option.bind_eq_bind, Option.bind_some]
  induction bytes with
  | nil => rfl
  | cons b rest ih =>
    have hb : (Json.int b.toNat).document.toNatBelow? 256 = some b.toNat :=
      toNatBelow?_document b.toNat_lt (by decide)
    rw [List.map_cons, documents, List.mapM_cons, hb, Option.map_some, UInt8.ofNat_toNat, ih]
    rfl

end Document

/-! ### Values -/

namespace Value

/-- A value is read by the kind it is written with, null being no such value. -/
theorem ofDocument?_member (name : String) {j : Json} (h : j.document ≠ .null) :
    ofDocument? (Json.object [(name, j)]).document = ofMember? name j.document := by
  have hmember := Document.toMember?_document name j
  have hname : (Json.object [(name, j)]).document.toName? = none := by
    simp only [Json.document] at hmember ⊢
    simp only [Document.toName?, hmember]
    split
    · rename_i heq
      exact absurd (Prod.mk.inj (Option.some.inj heq)).2 h
    · rfl
  rw [ofDocument?, hname, if_neg nofun, hmember]

/-- The document of a value stands for the value as it is written. -/
theorem ofDocument?_document {v : Value} (h : v.kind ≠ .float) :
    ofDocument? v.toJson.document = some v.asWritten := by
  cases v with
  | null => rfl
  | int i =>
    rw [toJson, ofDocument?_member "Int" (by simp [Json.document])]
    exact congrArg (Option.map int) (Document.toInt64?_document i)
  | float x => exact absurd rfl h
  | text s =>
    rw [toJson, ofDocument?_member "Text" (by simp [Json.document])]
    exact congrArg (Option.map text) (Document.toText?_document s)
  | bool b =>
    rw [toJson, ofDocument?_member "Bool" (by simp [Json.document])]
    rfl
  | timestamp t =>
    rw [toJson, ofDocument?_member "Timestamp" (by simp [Json.document])]
    have htext := Document.toText?_document t.writeIso
    simp only [ofMember?, htext, Option.bind_some, Timestamp.ofIso?_writeIso, Option.map_some,
      asWritten]
  | blob bytes =>
    rw [toJson, ofDocument?_member "Blob" (by simp [Json.ofBytes, Json.document])]
    exact congrArg (Option.map blob) (Document.toBytes?_document bytes)

/-- JSON text can hold every value but doubles. -/
theorem exact_toJson {v : Value} (h : v.kind ≠ .float) : v.toJson.Exact := by
  have hmember : ∀ {name : String} {j : Json}, j.Exact → (Json.object [(name, j)]).Exact :=
    fun hj => ⟨by simp, hj, trivial⟩
  cases v with
  | null => trivial
  | int i => exact hmember (Json.exact_int64 i)
  | float x => exact absurd rfl h
  | text s => exact hmember trivial
  | bool b => exact hmember trivial
  | timestamp t => exact hmember trivial
  | blob bytes => exact hmember (Json.exact_ofBytes bytes)

/-- The text of a value is read as the value as it is written. -/
theorem ofJsonText?_print {v : Value} (h : v.kind ≠ .float) :
    ofJsonText? v.toJson.print = some v.asWritten := by
  rw [ofJsonText?, Document.ofText?_print (exact_toJson h), Option.bind_some,
    ofDocument?_document h]

end Value

/-! ### Options -/

/-- What may be null is read back, if it is not written as null where it is there. -/
theorem Document.optional?_document {α : Type} {read? : Document → Option α} {write : α → Json}
    (hread : ∀ a, read? (write a).document = some a) (hnull : ∀ a, (write a).document ≠ .null)
    (o : Option α) : optional? read? (o.elim .null write).document = some o := by
  cases o with
  | none => rfl
  | some a =>
    have hne := hnull a
    simp only [Option.elim_some]
    unfold optional?
    split
    · rename_i heq
      exact absurd heq hne
    · rw [hread, Option.map_some]

namespace Duration

/-- Seconds, and nanoseconds below a second, are put together without a carry. -/
theorem of?_parts (d : Duration) : of? d.seconds.toNat d.nanos.val = some d := by
  obtain ⟨seconds, nanos, hnanos⟩ := d
  have hcarry : nanos / 1000000000 = 0 := Nat.div_eq_of_lt hnanos
  have hrest : nanos % 1000000000 = nanos := Nat.mod_eq_of_lt hnanos
  have hbound : seconds.toNat < 2 ^ 64 := seconds.toNat_lt
  simp [of?, hcarry, hrest, hbound]

/-- The document of a span of time stands for the span. -/
theorem ofDocument?_document (d : Duration) : ofDocument? d.toJson.document = some d := by
  have hmembers := Document.toMembers?_document
    [("secs", .int d.seconds.toNat), ("nanos", .int d.nanos.val)]
  have hseconds : (Json.int d.seconds.toNat).document.toNatBelow? (2 ^ 64) =
      some d.seconds.toNat := Document.toNatBelow?_document d.seconds.toNat_lt (Nat.le_refl _)
  have hnanos : (Json.int d.nanos.val).document.toNatBelow? (2 ^ 32) = some d.nanos.val :=
    Document.toNatBelow?_document (Nat.lt_trans d.nanos.isLt (by decide)) (by decide)
  have hparts : ofParts? (Json.int d.seconds.toNat).document (Json.int d.nanos.val).document =
      some d := by
    rw [ofParts?, hseconds, hnanos]
    exact d.of?_parts
  simp only [Json.document] at hmembers
  simp only [toJson, Json.document, ofDocument?, hmembers]
  simpa [Document.require?, Document.lookup?] using hparts

end Duration

namespace Options

/-- The document of options stands for the options. -/
theorem ofDocument?_document (o : Options) : ofDocument? o.toJson.document = some o := by
  have hmembers := Document.toMembers?_document [("db_path", o.dbPath.elim .null .text),
    ("read_only", .bool o.readOnly), ("busy_timeout", o.busyTimeout.elim .null Duration.toJson),
    ("wal", .bool o.wal)]
  have hparts : ofParts? (o.dbPath.elim Json.null .text).document (Json.bool o.readOnly).document
      (o.busyTimeout.elim Json.null Duration.toJson).document (Json.bool o.wal).document =
      some o := by
    have hpath : Document.optional? Document.toText? (o.dbPath.elim Json.null .text).document =
        some o.dbPath :=
      Document.optional?_document Document.toText?_document (by simp [Json.document]) o.dbPath
    have htimeout : Document.optional? Duration.ofDocument?
        (o.busyTimeout.elim Json.null Duration.toJson).document = some o.busyTimeout :=
      Document.optional?_document Duration.ofDocument?_document
        (by simp [Duration.toJson, Json.document]) o.busyTimeout
    rw [ofParts?, hpath, htimeout]
    rfl
  simp only [Json.document] at hmembers
  simp only [toJson, Json.document, ofDocument?, hmembers]
  simpa [Document.require?, Document.lookup?] using hparts

/-- JSON text can hold all options. -/
theorem exact_toJson (o : Options) : o.toJson.Exact := by
  refine ⟨by simp, ?_, trivial, ?_, trivial, trivial⟩
  · cases o.dbPath <;> trivial
  · cases o.busyTimeout with
    | none => trivial
    | some d =>
      refine ⟨by simp, Json.exact_nat d.seconds.toNat_lt, Json.exact_nat ?_, trivial⟩
      exact Nat.lt_trans d.nanos.isLt (by decide)

/-- The text of options is read as the options. -/
theorem ofJsonText?_print (o : Options) : ofJsonText? o.toJson.print = some o := by
  rw [ofJsonText?, Document.ofText?_print o.exact_toJson, Option.bind_some, o.ofDocument?_document]

end Options

/-- **There and back.** The compact JSON text of a value that is no double is read as the value,
    and that of options as the options.  Only a timestamp in which a second runs on out of place
    is read as another value, namely as the next second, which its text tells.  So values that
    are no doubles and have the same text are the same or written as the same. -/
theorem stored_json_reads_back :
    (∀ v : Value, v.kind ≠ .float → Value.ofJsonText? v.toJson.print = some v.asWritten) ∧
    (∀ v : Value, v.asWritten = v ↔ ¬ v.Strays) ∧
    (∀ o : Options, Options.ofJsonText? o.toJson.print = some o) ∧
    ∀ v w : Value, v.kind ≠ .float → w.kind ≠ .float → v.toJson.print = w.toJson.print →
      v.asWritten = w.asWritten := by
  refine ⟨?_, fun _ => Value.asWritten_eq_self, ?_, ?_⟩
  · intro v hv
    exact Value.ofJsonText?_print hv
  · intro o
    exact o.ofJsonText?_print
  · intro v w hv hw hsame
    have hread := Value.ofJsonText?_print hv
    rw [hsame, Value.ofJsonText?_print hw] at hread
    exact (Option.some.inj hread).symm

namespace StoredTest

/-- The leap second at the end of the last year. -/
def leap : Timestamp where
  date := ⟨262142, 12, 31, by decide⟩
  time := ⟨23, 59, 59, 1500000000, by decide⟩

/-- Options with the longest span of time, and a path to be escaped. -/
def longest : Options := ⟨some "\\a\t\"b", true, some ⟨18446744073709551615, 999999999⟩, false⟩

end StoredTest

open StoredTest in
/-- A leap second and a text that looks like it, and the longest of timeouts. -/
theorem stored_json_reads_back_of_leap :
    leap.writeIso = "+262142-12-31T23:59:60.500" ∧
    Value.ofJsonText? (Value.timestamp leap).toJson.print = some (.timestamp leap) ∧
    Options.ofJsonText? longest.toJson.print = some longest ∧
    (Value.timestamp leap).toJson.print ≠ (Value.text leap.writeIso).toJson.print := by
  obtain ⟨hvalues, hsame, hoptions, hdistinct⟩ := stored_json_reads_back
  have htimestamp : (Value.timestamp leap).kind ≠ .float := by decide
  have htext : (Value.text leap.writeIso).kind ≠ .float := by decide
  have hplace : leap.asWritten = leap := by decide
  refine ⟨by decide +kernel, ?_, hoptions longest, fun hprinted => ?_⟩
  · rw [hvalues _ htimestamp, Value.asWritten, hplace]
  · simpa [Value.asWritten] using hdistinct _ _ htimestamp htext hprinted

open LayoutTest in
/-- **What does not come back.** A second that runs on and is not the last of its minute has the
    text of the second after it, which is another value. -/
theorem stored_stray_reads_back_as_next :
    (Value.timestamp stray).toJson.print = (Value.timestamp next).toJson.print ∧
    Value.ofJsonText? (Value.timestamp stray).toJson.print = some (.timestamp next) ∧
    stray ≠ next := by
  have hwritten : stray.writeIso = next.writeIso := by decide +kernel
  have hprinted : (Value.timestamp stray).toJson.print = (Value.timestamp next).toJson.print := by
    simp only [Value.toJson, hwritten]
  refine ⟨hprinted, ?_, by decide⟩
  rw [Value.ofJsonText?_print (by decide), Value.asWritten, asWritten_stray]

end SqlClient
