import SqlClient.Proofs.Json.Integers
import SqlClient.Proofs.Json.Members
import SqlClient.Proofs.Json.Quoted

namespace SqlClient

/-!
# Compact JSON text read back

The text of a value is read as one document and stands for the value again, with the members
of its objects in the same order.  Doubles are left out: the digits a double is written with
need not be read as the same double again.

* `Json.Exact` — values without doubles, whose objects and integers JSON text can hold.
* `Json.document` — the document that the text of a value holds.
* `Document.readValue?_chars` — it is read off the front of a text.
* `Document.toJson?_document` — it stands for the value.
* `Json.ofText?_print` — the whole way there and back.
-/

namespace Json

/-! ### Documents of values -/

mutual

/-- The document that the text of a value holds; for a double, what its text is read as. -/
def document : Json → Document
  | null => .null
  | bool b => .bool b
  | int i => .number (.ofInt i)
  | float x => (Numeral.read? (floatChars x)).elim .null fun p => .number p.1
  | text s => .text (s.toList.map TextUnit.of)
  | array items => .array (documents items)
  | object members => .object (memberDocuments members)

def documents : List Json → List Document
  | [] => []
  | item :: rest => item.document :: documents rest

def memberDocuments : List (String × Json) → List (List TextUnit × Document)
  | [] => []
  | (name, value) :: rest =>
    (name.toList.map TextUnit.of, value.document) :: memberDocuments rest

end

mutual

/-- There is no double in the value, its integers are of 64 bits, with or without a sign, and
    in its objects every member has a name of its own. -/
def Exact : Json → Prop
  | int i => -(2 ^ 63) ≤ i ∧ i < 2 ^ 64
  | float _ => False
  | array items => AllExact items
  | object members => (members.map (·.1)).Nodup ∧ MembersExact members
  | _ => True

def AllExact : List Json → Prop
  | [] => True
  | item :: rest => item.Exact ∧ AllExact rest

def MembersExact : List (String × Json) → Prop
  | [] => True
  | (_, value) :: rest => value.Exact ∧ MembersExact rest

end

/-- An array is exact if all of its items are. -/
private theorem allExact_iff {items : List Json} : AllExact items ↔ ∀ item ∈ items, item.Exact := by
  induction items with
  | nil => simp [AllExact]
  | cons item rest ih => simp [AllExact, ih]

/-- An object is exact if all of its values are; its names are exact in any case. -/
theorem membersExact_iff {members : List (String × Json)} :
    MembersExact members ↔ ∀ m ∈ members, m.2.Exact := by
  induction members with
  | nil => simp [MembersExact]
  | cons m rest ih => simp [MembersExact, ih]

/-- An integer of 64 bits with a sign can be held by a document exactly. -/
theorem exact_int64 (i : Int64) : (int i.toInt).Exact := by
  have hlow : -2 ^ 63 ≤ i.toInt := i.le_toInt
  have hhigh : i.toInt < 2 ^ 63 := i.toInt_lt
  simp only [Exact]
  omega

/-- So can a natural number of 64 bits, beyond the integers with a sign. -/
theorem exact_nat {n : Nat} (h : n < 2 ^ 64) : (int n).Exact := by
  simp only [Exact]
  omega

/-- An array of bytes is exact, as there is no double in it. -/
theorem exact_ofBytes (bytes : List UInt8) : (ofBytes bytes).Exact := by
  refine allExact_iff.mpr fun item hitem => ?_
  obtain ⟨b, _, rfl⟩ := List.mem_map.mp hitem
  exact exact_nat (Nat.lt_trans b.toNat_lt (by decide))

/-! ### Beginnings -/

/-- A character with which a value without doubles begins. -/
def Begins (c : Char) : Prop := c ∈ ['n', 't', 'f', '"', '[', '\x7b', '-'] ∨ c.isDigit = true

/-- What begins a document is none of the marks that end one or stand between two of them. -/
theorem Begins.ne {c d : Char} (h : Begins c)
    (hd : d ∉ ['n', 't', 'f', '"', '[', '\x7b', '-'] ∧ d.isDigit = false) : c ≠ d := by
  rintro rfl
  rcases h with hc | hc
  · exact hd.1 hc
  · exact absurd (hd.2.symm.trans hc) (by simp)

/-- A number begins with its sign or with a digit. -/
theorem begins_of_number {c : Char} (h : c = '-' ∨ c.isDigit = true) : Begins c := by
  rcases h with rfl | h
  · exact .inl (by decide)
  · exact .inr h

/-- What begins a document is no white space, so nothing is skipped before it. -/
theorem Begins.skipSpace {c : Char} (h : Begins c) (cs : List Char) :
    Document.skipSpace (c :: cs) = c :: cs := by
  have hblank : c ≠ ' ' ∧ c ≠ '\n' ∧ c ≠ '\r' ∧ c ≠ '\t' :=
    ⟨h.ne (by decide), h.ne (by decide), h.ne (by decide), h.ne (by decide)⟩
  exact List.dropWhile_cons_of_neg (by simp [hblank])

/-- No document is empty, and its first character tells it from the end of what it may stand
    in. -/
theorem exists_begins (j : Json) (hj : j.Exact) : ∃ c cs, j.chars = c :: cs ∧ Begins c := by
  cases j with
  | null => exact ⟨'n', _, rfl, .inl (by decide)⟩
  | bool b =>
    cases b with
    | false => exact ⟨'f', _, rfl, .inl (by decide)⟩
    | true => exact ⟨'t', _, rfl, .inl (by decide)⟩
  | int i =>
    obtain ⟨c, cs, hchars, hc⟩ := Text.exists_cons_toString_int i
    exact ⟨c, cs, hchars, begins_of_number hc⟩
  | float x => exact absurd hj (by simp [Exact])
  | text s => exact ⟨'"', _, rfl, .inl (by decide)⟩
  | array items => exact ⟨'[', _, rfl, .inl (by decide)⟩
  | object members => exact ⟨'\x7b', _, rfl, .inl (by decide)⟩

/-- A comma stands between an item and the next. -/
theorem itemsChars_cons_cons (item next : Json) (others : List Json) :
    itemsChars (item :: next :: others) = item.chars ++ ',' :: itemsChars (next :: others) := rfl

/-- A comma stands between a member and the next, and a colon behind its name. -/
theorem membersChars_cons_cons (name : String) (value : Json) (next : String × Json)
    (others : List (String × Json)) :
    membersChars ((name, value) :: next :: others) =
      quoted name ++ ':' :: (value.chars ++ ',' :: membersChars (next :: others)) := by
  rw [membersChars, List.append_assoc, List.cons_append]
  exact nofun

/-- If an array has items, what follows its bracket is the beginning of a document. -/
private theorem exists_begins_itemsChars {items : List Json} (hne : items ≠ [])
    (hitems : AllExact items) : ∃ c cs, itemsChars items = c :: cs ∧ Begins c := by
  match items, hitems with
  | [item], hitems => exact exists_begins item hitems.1
  | item :: next :: others, hitems =>
    obtain ⟨c, cs, hchars, hc⟩ := exists_begins item hitems.1
    rw [itemsChars_cons_cons, hchars]
    exact ⟨c, _, rfl, hc⟩

/-- If an object has members, what follows its brace is the quote of a name. -/
private theorem exists_quote_membersChars {members : List (String × Json)} (hne : members ≠ []) :
    ∃ cs, membersChars members = '"' :: cs := by
  match members with
  | [(name, value)] => exact ⟨_, rfl⟩
  | (name, value) :: next :: others => exact ⟨_, rfl⟩

end Json

/-! ### Reading -/

namespace Document

open Json

/-- A bracket that a document follows is read by reading items. -/
private theorem readValue?_items {c : Char} (hc : Begins c) (fuel : Nat) (cs : List Char) :
    readValue? (fuel + 1) ('[' :: c :: cs) =
      (readItems? fuel (c :: cs)).map fun p => (.array p.1, p.2) := by
  rw [readValue?]
  have hfirst : skipSpace ('[' :: c :: cs) = '[' :: c :: cs := rfl
  simp only [hfirst, hc.skipSpace]
  split
  · rename_i heq
    exact absurd (List.cons.inj heq).1 (hc.ne (by decide))
  · rfl

/-- A brace that a quote follows is read by reading members. -/
private theorem readValue?_members (fuel : Nat) (cs : List Char) :
    readValue? (fuel + 1) ('\x7b' :: '"' :: cs) =
      (readMembers? fuel ('"' :: cs)).map fun p => (.object p.1, p.2) := rfl

/-- What begins with a sign or a digit is read as a number, and as nothing else. -/
theorem readValue?_number {c : Char} (hc : c = '-' ∨ c.isDigit = true) (fuel : Nat)
    (cs : List Char) :
    readValue? (fuel + 1) (c :: cs) =
      (Numeral.read? (c :: cs)).map fun p => (.number p.1, p.2) := by
  have hother : (['n', 't', 'f', '"', '[', '\x7b'].all fun d => d ≠ '-' && !d.isDigit) = true :=
    by decide
  have hne : ∀ d ∈ ['n', 't', 'f', '"', '[', '\x7b'], c ≠ d := by
    rintro d hd rfl
    have hc' := List.all_eq_true.mp hother c hd
    rcases hc with hsign | hdigit
    · simp [hsign] at hc'
    · simp [hdigit] at hc'
  rw [readValue?, (begins_of_number hc).skipSpace]
  -- every other beginning is some other character
  split
  all_goals try exact absurd (List.cons.inj (by assumption)).1 (hne _ (by decide))
  rfl

/-- A text in quotes is read up to the quote that ends it, and comes out as the units of what
    was quoted. -/
theorem readUnits?_tail (s : String) (rest : List Char) :
    ∃ cs, quoted s ++ rest = '"' :: cs ∧ readUnits? cs = some (s.toList.map TextUnit.of, rest) := by
  refine ⟨s.toList.flatMap escapeChar ++ '"' :: rest, ?_, readUnits?_quoted s.toList rest⟩
  simp [quoted]

/-- An item with a comma behind it is followed by more of them. -/
theorem readItems?_comma {fuel : Nat} {cs rest : List Char} {d : Document}
    (h : readValue? fuel cs = some (d, ',' :: rest)) :
    readItems? (fuel + 1) cs = (readItems? fuel rest).map fun p => (d :: p.1, p.2) := by
  rw [readItems?, h]
  rfl

/-- An item with a bracket behind it is the last one. -/
theorem readItems?_bracket {fuel : Nat} {cs rest : List Char} {d : Document}
    (h : readValue? fuel cs = some (d, ']' :: rest)) :
    readItems? (fuel + 1) cs = some ([d], rest) := by
  rw [readItems?, h]
  rfl

/-- The name of a member and its value; what follows them settles how reading goes on. -/
theorem readMembers?_name {fuel : Nat} {name : String} {cs rest : List Char} {d : Document}
    (h : readValue? fuel cs = some (d, rest)) :
    readMembers? (fuel + 1) (quoted name ++ ':' :: cs) =
      match skipSpace rest with
      | ',' :: rest =>
        (readMembers? fuel rest).map fun p => ((name.toList.map TextUnit.of, d) :: p.1, p.2)
      | '\x7d' :: rest => some ([(name.toList.map TextUnit.of, d)], rest)
      | _ => none := by
  obtain ⟨inside, hquoted, hunits⟩ := readUnits?_tail name (':' :: cs)
  rw [hquoted, readMembers?]
  have hfirst : skipSpace ('"' :: inside) = '"' :: inside := rfl
  simp only [hfirst, hunits, Option.bind_eq_bind, Option.bind_some]
  -- the colon stands right behind the name
  change (readValue? fuel cs).bind _ = _
  rw [h]
  rfl

/-- A member with a comma behind it is followed by more of them. -/
theorem readMembers?_comma {fuel : Nat} {name : String} {cs rest : List Char} {d : Document}
    (h : readValue? fuel cs = some (d, ',' :: rest)) :
    readMembers? (fuel + 1) (quoted name ++ ':' :: cs) =
      (readMembers? fuel rest).map fun p => ((name.toList.map TextUnit.of, d) :: p.1, p.2) := by
  rw [readMembers?_name h]
  rfl

/-- A member with a brace behind it is the last one. -/
theorem readMembers?_brace {fuel : Nat} {name : String} {cs rest : List Char} {d : Document}
    (h : readValue? fuel cs = some (d, '\x7d' :: rest)) :
    readMembers? (fuel + 1) (quoted name ++ ':' :: cs) =
      some ([(name.toList.map TextUnit.of, d)], rest) := by
  rw [readMembers?_name h]
  rfl

/-! ### Values, items and members -/

mutual

/-- **A value is read off the front.** What follows it is left, if it does not go on with a
    number.  The length of the text is fuel enough. -/
theorem readValue?_chars (j : Json) (hj : j.Exact) {fuel : Nat} {rest : List Char}
    (hfuel : j.chars.length ≤ fuel) (hrest : Numeral.Ends rest) :
    readValue? fuel (j.chars ++ rest) = some (j.document, rest) := by
  -- no text is empty, so there is fuel for one step
  obtain ⟨fuel, rfl⟩ : ∃ n, fuel = n + 1 := by
    obtain ⟨c, cs, hchars, _⟩ := exists_begins j hj
    rw [hchars, List.length_cons] at hfuel
    exact ⟨fuel - 1, by omega⟩
  cases j with
  | null => rfl
  | bool b => cases b <;> rfl
  | int i =>
    have hread := Numeral.read?_toString i hrest
    obtain ⟨c, cs, hchars, hc⟩ := Text.exists_cons_toString_int i
    rw [hchars, List.cons_append] at hread
    rw [chars, hchars, List.cons_append, readValue?_number hc, hread]
    rfl
  | float x => exact absurd hj (by simp [Exact])
  | text s =>
    obtain ⟨inside, hquoted, hunits⟩ := readUnits?_tail s rest
    rw [chars, hquoted, readValue?]
    have hfirst : skipSpace ('"' :: inside) = '"' :: inside := rfl
    simp only [hfirst, hunits]
    rfl
  | array items =>
    by_cases hne : items = []
    · subst hne
      rfl
    have hitems : AllExact items := hj
    -- the brackets pay for the step here and for the one at the end of the items
    have hlength : (itemsChars items).length + 1 ≤ fuel := by
      simp only [chars, List.length_cons, List.length_append, List.length_nil] at hfuel
      omega
    have hread : readItems? fuel (itemsChars items ++ ']' :: rest) =
        some (documents items, rest) := readItems?_itemsChars items hne hitems hlength
    obtain ⟨c, cs, hchars, hc⟩ := exists_begins_itemsChars hne hitems
    simp only [chars, List.cons_append, List.append_assoc, List.nil_append]
    rw [hchars, List.cons_append] at hread ⊢
    rw [readValue?_items hc, hread]
    rfl
  | object members =>
    by_cases hne : members = []
    · subst hne
      rfl
    have hmembers : MembersExact members := hj.2
    have hlength : (membersChars members).length + 1 ≤ fuel := by
      simp only [chars, List.length_cons, List.length_append, List.length_nil] at hfuel
      omega
    have hread : readMembers? fuel (membersChars members ++ '\x7d' :: rest) =
        some (memberDocuments members, rest) :=
      readMembers?_membersChars members hne hmembers hlength
    obtain ⟨cs, hchars⟩ := exists_quote_membersChars hne
    simp only [chars, List.cons_append, List.append_assoc, List.nil_append]
    rw [hchars, List.cons_append] at hread ⊢
    rw [readValue?_members, hread]
    rfl

/-- The items of an array are all read, up to the bracket that ends it, and the text behind it is
    left. -/
theorem readItems?_itemsChars (items : List Json) (hne : items ≠ []) (hitems : AllExact items)
    {fuel : Nat} {rest : List Char} (hfuel : (itemsChars items).length + 1 ≤ fuel) :
    readItems? fuel (itemsChars items ++ ']' :: rest) = some (documents items, rest) := by
  obtain ⟨fuel, rfl⟩ : ∃ n, fuel = n + 1 := ⟨fuel - 1, by omega⟩
  match items, hitems with
  | [item], hitems =>
    simp only [itemsChars] at hfuel
    have hvalue : readValue? fuel (item.chars ++ ']' :: rest) =
        some (item.document, ']' :: rest) :=
      readValue?_chars item hitems.1 (by omega) (Numeral.ends_cons (by decide) rest)
    exact readItems?_bracket hvalue
  | item :: next :: others, hitems =>
    simp only [itemsChars_cons_cons, List.length_append, List.length_cons] at hfuel
    have hothers : readItems? fuel (itemsChars (next :: others) ++ ']' :: rest) =
        some (documents (next :: others), rest) :=
      readItems?_itemsChars (next :: others) (by simp) hitems.2 (by omega)
    have hvalue : readValue? fuel
        (item.chars ++ ',' :: (itemsChars (next :: others) ++ ']' :: rest)) =
        some (item.document, ',' :: (itemsChars (next :: others) ++ ']' :: rest)) :=
      readValue?_chars item hitems.1 (by omega) (Numeral.ends_cons (by decide) _)
    rw [itemsChars_cons_cons, List.append_assoc, List.cons_append, readItems?_comma hvalue,
      hothers]
    rfl

/-- The members of an object are all read, up to the brace that ends it, and the text behind it is
    left. -/
theorem readMembers?_membersChars (members : List (String × Json)) (hne : members ≠ [])
    (hmembers : MembersExact members) {fuel : Nat} {rest : List Char}
    (hfuel : (membersChars members).length + 1 ≤ fuel) :
    readMembers? fuel (membersChars members ++ '\x7d' :: rest) =
      some (memberDocuments members, rest) := by
  obtain ⟨fuel, rfl⟩ : ∃ n, fuel = n + 1 := ⟨fuel - 1, by omega⟩
  match members, hmembers with
  | [(name, value)], hmembers =>
    simp only [membersChars, List.length_append, List.length_cons] at hfuel
    have hvalue : readValue? fuel (value.chars ++ '\x7d' :: rest) =
        some (value.document, '\x7d' :: rest) :=
      readValue?_chars value hmembers.1 (by omega) (Numeral.ends_cons (by decide) rest)
    rw [membersChars, List.append_assoc, List.cons_append]
    exact readMembers?_brace hvalue
  | (name, value) :: next :: others, hmembers =>
    simp only [membersChars_cons_cons, List.length_append, List.length_cons] at hfuel
    -- the comma pays for the step, so the fuel is enough for the others
    have hothers : readMembers? fuel (membersChars (next :: others) ++ '\x7d' :: rest) =
        some (memberDocuments (next :: others), rest) :=
      readMembers?_membersChars (next :: others) (by simp) hmembers.2 (by omega)
    have hvalue : readValue? fuel
        (value.chars ++ ',' :: (membersChars (next :: others) ++ '\x7d' :: rest)) =
        some (value.document, ',' :: (membersChars (next :: others) ++ '\x7d' :: rest)) :=
      readValue?_chars value hmembers.1 (by omega) (Numeral.ends_cons (by decide) _)
    rw [membersChars_cons_cons, List.append_assoc, List.cons_append, List.append_assoc,
      List.cons_append, readMembers?_comma hvalue, hothers]
    rfl

end

/-- The text of a value is read as the document of the value, with nothing left over. -/
theorem ofText?_print {j : Json} (hj : j.Exact) : ofText? j.print = some j.document := by
  have hread := readValue?_chars j hj (Nat.le_succ j.chars.length) Numeral.ends_nil
  rw [List.append_nil] at hread
  simp only [ofText?, Json.print, String.toList_ofList, hread, Option.bind_eq_bind,
    Option.bind_some]
  rfl

/-! ### What documents stand for -/

mutual

/-- The document of a value without doubles stands for that value and no other. -/
theorem toJson?_document (j : Json) (hj : j.Exact) : j.document.toJson? = some j := by
  cases j with
  | null => rfl
  | bool b => rfl
  | int i =>
    obtain ⟨hlow, hhigh⟩ : -(2 ^ 63) ≤ i ∧ i < 2 ^ 64 := hj
    simp only [document, toJson?, Numeral.toInt?_ofInt hlow hhigh]
  | float x => exact absurd hj (by simp [Exact])
  | text s =>
    simp only [document, toJson?, textOf?_units]
    rfl
  | array items =>
    have hitems : AllExact items := hj
    simp only [document, toJson?, itemsToJson?_documents items hitems]
    rfl
  | object members =>
    obtain ⟨hnames, hmembers⟩ := hj
    simp only [document, toJson?, membersToJson?_memberDocuments members hmembers]
    -- names of their own keep their members in place
    exact congrArg (some ∘ Json.object) (collect_of_nodup hnames)

/-- Items that were read are made into those that were written. -/
theorem itemsToJson?_documents (items : List Json) (hitems : AllExact items) :
    itemsToJson? (documents items) = some items := by
  cases items with
  | nil => rfl
  | cons item rest =>
    simp only [documents, itemsToJson?, toJson?_document item hitems.1,
      itemsToJson?_documents rest hitems.2]
    rfl

/-- So are members, in the same order and under the same names. -/
theorem membersToJson?_memberDocuments (members : List (String × Json))
    (hmembers : MembersExact members) :
    membersToJson? (memberDocuments members) = some members := by
  match members, hmembers with
  | [], _ => rfl
  | (name, value) :: rest, hmembers =>
    simp only [memberDocuments, membersToJson?, textOf?_units, toJson?_document value hmembers.1,
      membersToJson?_memberDocuments rest hmembers.2]
    rfl

end

end Document

/-- **There and back.** The compact text of a value is read as the value. -/
theorem Json.ofText?_print {j : Json} (hj : j.Exact) : Json.ofText? j.print = some j := by
  rw [ofText?, Document.ofText?_print hj, Option.bind_some, Document.toJson?_document j hj]

end SqlClient
