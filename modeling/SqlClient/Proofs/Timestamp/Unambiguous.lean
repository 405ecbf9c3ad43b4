import SqlClient.Proofs.Timestamp.Layout
import SqlClient.Value

namespace SqlClient

open Text

/-!
# Timestamps are read in one way

Every layout of timestamp text begins with a date, which all of them read alike.  What stands
after it tells the layouts apart: nothing, the letter T, or the digits of the hour after any
white space.  The layout in whole seconds is the one with a fraction where there is none.  So
it does not matter in which order the layouts are tried.

* `LayoutItem.read?_nanos`, `Layout.readItems?_nanos` — only a fraction sets nanoseconds.
* `Layout.ofRest`, `Layout.eq_ofRest` — the layout that fits what stands after the date.
* `Layout.spaced_of_spacedWhole` — whole seconds are seconds with a fraction of nothing.
* `Layout.eq_of_mem_all` — layouts that read a text read the same timestamp.
* `timestamp_text_unambiguous` — the reader of timestamps as a whole.
-/

/-- All that an item but the fraction reads leaves the nanoseconds as they are. -/
theorem LayoutItem.read?_nanos {item : LayoutItem} (hitem : item ≠ .fraction)
    {f f' : LayoutFields} {cs rest : List Char} (h : item.read? f cs = some (f', rest)) :
    f'.nanos = f.nanos := by
  cases item with
  | fraction => exact absurd rfl hitem
  | blanks =>
    cases h
    rfl
  | literal c =>
    cases cs with
    | nil => cases h
    | cons head tail =>
      simp only [read?] at h
      split at h <;> cases h
      rfl
  | year | month | day | hour | minute | second =>
    obtain ⟨_, _, hpair⟩ := Option.map_eq_some_iff.mp h
    cases hpair
    rfl

namespace Layout

variable {cs rest : List Char} {f f' : LayoutFields} {t : Timestamp}

/-! ### Items one after the other -/

/-- The items of two lists are read when those of the one are, and then those of the other. -/
theorem readItems?_append (items others : Layout) (f : LayoutFields) (cs : List Char) :
    readItems? (items ++ others) f cs =
      (readItems? items f cs).bind fun r => readItems? others r.1 r.2 := by
  induction items generalizing f cs with
  | nil => rfl
  | cons item items ih =>
    rw [List.cons_append, readItems?, readItems?, Option.bind_eq_bind, Option.bind_assoc]
    simp only [ih]

theorem readItems?_cons_eq_some {item : LayoutItem} {items : Layout}
    {r : LayoutFields × List Char} (h : readItems? (item :: items) f cs = some r) :
    ∃ f' rest, item.read? f cs = some (f', rest) ∧ readItems? items f' rest = some r := by
  obtain ⟨⟨f', rest⟩, hitem, hitems⟩ := Option.bind_eq_some_iff.mp h
  exact ⟨f', rest, hitem, hitems⟩

/-- A text is in a layout if its items use it up and what they read is a timestamp. -/
theorem read?_eq_some {layout : Layout} :
    layout.read? cs = some t ↔
      ∃ f, layout.readItems? {} cs = some (f, []) ∧ f.timestamp? = some t := by
  unfold read?
  rw [Option.bind_eq_bind, Option.bind_eq_some_iff]
  constructor
  · rintro ⟨⟨f, rest⟩, hitems, hend⟩
    obtain ⟨rfl, ht⟩ := Option.ite_none_right_eq_some.mp hend
    exact ⟨f, hitems, ht⟩
  · rintro ⟨f, hitems, ht⟩
    exact ⟨(f, []), hitems, (if_pos rfl).trans ht⟩

/-- A layout with no fraction leaves the nanoseconds as they are. -/
theorem readItems?_nanos {layout : Layout} (hlayout : .fraction ∉ layout)
    (h : layout.readItems? f cs = some (f', rest)) : f'.nanos = f.nanos := by
  induction layout generalizing f cs with
  | nil =>
    cases h
    rfl
  | cons item items ih =>
    obtain ⟨fnext, next, hitem, hitems⟩ := readItems?_cons_eq_some h
    have hne : item ≠ .fraction := fun heq => hlayout (heq ▸ List.mem_cons_self)
    calc f'.nanos = fnext.nanos := ih (fun hmem => hlayout (List.mem_cons_of_mem _ hmem)) hitems
      _ = f.nanos := LayoutItem.read?_nanos hne hitem

/-- **Whole seconds.** What is read in whole seconds is read with a fraction as the same
    timestamp. -/
theorem spaced_of_spacedWhole (h : spacedWhole.read? cs = some t) : spaced.read? cs = some t := by
  obtain ⟨f, hitems, ht⟩ := read?_eq_some.mp h
  have hnanos : f.nanos = 0 := readItems?_nanos (by decide) hitems
  have hfraction : readItems? [.fraction] f [] = some (f, []) := by
    -- a fraction of nothing sets the nanoseconds to what they are
    show some ({ f with nanos := 0 }, []) = _
    rw [← hnanos]
  have hspaced : spaced = spacedWhole ++ [.fraction] := rfl
  refine read?_eq_some.mpr ⟨f, ?_, ht⟩
  rw [hspaced, readItems?_append, hitems, Option.bind_some, hfraction]

/-! ### What stands after the date -/

/-- The layouts that stand apart: no text is in two of them. -/
def apart : List Layout := [spaced, lettered, date]

/-- The one of them that fits what stands after the date. -/
def ofRest : List Char → Layout
  | [] => date
  | 'T' :: _ => lettered
  | _ => spaced

/-- A layout that begins with a date reads it, and with its other items what stands after. -/
theorem exists_rest {items : Layout} (h : (date ++ items).read? cs = some t) :
    ∃ f rest, date.readItems? {} cs = some (f, rest) ∧
      ∃ f', items.readItems? f rest = some (f', []) := by
  obtain ⟨f', hitems, _⟩ := read?_eq_some.mp h
  rw [readItems?_append] at hitems
  obtain ⟨⟨f, rest⟩, hdate, hothers⟩ := Option.bind_eq_some_iff.mp hitems
  exact ⟨f, rest, hdate, f', hothers⟩

/-- A mark of the layout that is read is the next character of the text. -/
private theorem eq_cons_of_literal {c : Char} {items : Layout} {r : LayoutFields × List Char}
    (h : readItems? (.literal c :: items) f cs = some r) : ∃ rest, cs = c :: rest := by
  obtain ⟨_, _, hliteral, _⟩ := readItems?_cons_eq_some h
  cases cs with
  | nil => cases hliteral
  | cons head rest =>
    obtain ⟨rfl, _⟩ := Option.ite_none_right_eq_some.mp hliteral
    exact ⟨rest, rfl⟩

/-- Behind the white space after a date the hour begins with a digit. -/
private theorem not_noDigitAhead_of_hour {items : Layout} {r : LayoutFields × List Char}
    (h : readItems? (.blanks :: .hour :: items) f cs = some r) :
    ¬ NoDigitAhead (skipBlanks (skipBlanks cs)) := by
  intro hnone
  obtain ⟨fnext, next, hblanks, hitems⟩ := readItems?_cons_eq_some h
  cases hblanks
  obtain ⟨_, _, hhour, _⟩ := readItems?_cons_eq_some hitems
  rw [LayoutItem.read?, LayoutItem.readTwo?, readNumber?_of_noDigitAhead hnone] at hhour
  cases hhour

/-- Neither the end of the text nor the letter is white space or a digit. -/
private theorem ofRest_of_digit (h : ¬ NoDigitAhead (skipBlanks (skipBlanks rest))) :
    ofRest rest = spaced := by
  unfold ofRest
  split
  · exact absurd noDigitAhead_nil h
  · rename_i after
    have hskip : skipBlanks ('T' :: after) = 'T' :: after := skipBlanks_cons (by decide) after
    rw [hskip, hskip] at h
    exact absurd (noDigitAhead_cons (by decide) after) h
  · rfl

/-- **The layout of a text.** Of the layouts that stand apart, the one that reads a text is the
    one that fits what stands after the date. -/
theorem eq_ofRest {layout : Layout} (hmem : layout ∈ apart) (h : layout.read? cs = some t) :
    ∃ f rest, date.readItems? {} cs = some (f, rest) ∧ layout = ofRest rest := by
  simp only [apart, List.mem_cons, List.not_mem_nil, or_false] at hmem
  rcases hmem with rfl | rfl | rfl
  · have hspaced : spaced = date ++ (.blanks :: (wholeTime ++ [.fraction])) := rfl
    rw [hspaced] at h
    obtain ⟨f, rest, hdate, f', hitems⟩ := exists_rest h
    have hdigit := not_noDigitAhead_of_hour hitems
    exact ⟨f, rest, hdate, (ofRest_of_digit hdigit).symm⟩
  · have hlettered : lettered = date ++ (.literal 'T' :: (wholeTime ++ [.fraction])) := rfl
    rw [hlettered] at h
    obtain ⟨f, rest, hdate, f', hitems⟩ := exists_rest h
    obtain ⟨after, rfl⟩ := eq_cons_of_literal hitems
    exact ⟨f, _, hdate, rfl⟩
  · obtain ⟨f, hdate, _⟩ := read?_eq_some.mp h
    exact ⟨f, [], hdate, rfl⟩

/-- No two layouts that stand apart read the same text. -/
theorem eq_of_mem_apart {layout other : Layout} (hlayout : layout ∈ apart)
    (hother : other ∈ apart) {t' : Timestamp} (h : layout.read? cs = some t)
    (h' : other.read? cs = some t') : layout = other := by
  obtain ⟨f, rest, hdate, rfl⟩ := eq_ofRest hlayout h
  obtain ⟨f', rest', hdate', rfl⟩ := eq_ofRest hother h'
  cases hdate.symm.trans hdate'
  rfl

/-! ### The order of the layouts -/

/-- What any layout reads is read by one of those that stand apart. -/
theorem exists_apart {layout : Layout} (hmem : layout ∈ all) (h : layout.read? cs = some t) :
    ∃ other ∈ apart, other.read? cs = some t := by
  simp only [all, List.mem_cons, List.not_mem_nil, or_false] at hmem
  rcases hmem with rfl | rfl | rfl | rfl
  · exact ⟨spaced, by decide, h⟩
  · exact ⟨lettered, by decide, h⟩
  · exact ⟨spaced, by decide, spaced_of_spacedWhole h⟩
  · exact ⟨date, by decide, h⟩

/-- Layouts that read a text read the same timestamp. -/
theorem eq_of_mem_all {layout other : Layout} (hlayout : layout ∈ all) (hother : other ∈ all)
    {t' : Timestamp} (h : layout.read? cs = some t) (h' : other.read? cs = some t') : t = t' := by
  obtain ⟨one, hone, hread⟩ := exists_apart hlayout h
  obtain ⟨two, htwo, hread'⟩ := exists_apart hother h'
  obtain rfl := eq_of_mem_apart hone htwo hread hread'
  exact Option.some.inj (hread.symm.trans hread')

/-- Whatever the order in which the layouts are tried, the first that reads the text reads what
    any of them does. -/
theorem findSome?_read?_eq_some {order : List Layout} (horder : order.Perm all) :
    order.findSome? (·.read? cs) = some t ↔ ∃ layout ∈ apart, layout.read? cs = some t := by
  constructor
  · intro h
    obtain ⟨layout, hmem, hread⟩ := List.exists_of_findSome?_eq_some h
    exact exists_apart (horder.mem_iff.mp hmem) hread
  · rintro ⟨layout, hmem, hread⟩
    have hall : layout ∈ all := (by decide : apart ⊆ all) hmem
    -- some layout reads the text, and the first that does agrees with this one
    have hsome : (order.findSome? (·.read? cs)).isSome = true :=
      List.findSome?_isSome_iff.mpr ⟨layout, horder.mem_iff.mpr hall, by rw [hread]; rfl⟩
    obtain ⟨t', hfirst⟩ := Option.isSome_iff_exists.mp hsome
    obtain ⟨first, hfirstmem, hfirstread⟩ := List.exists_of_findSome?_eq_some hfirst
    rw [hfirst, eq_of_mem_all hall (horder.mem_iff.mp hfirstmem) hread hfirstread]

/-- The text is in this layout. -/
def Accepts (layout : Layout) (s : String) : Prop := ∃ t, layout.read? s.toList = some t

end Layout

/-- **Timestamps are read in one way.** At most one of the layouts with white space, with the
    letter T and of a date alone accepts a text.  What is read in whole seconds is read with a
    fraction as the same timestamp.  So text stands for the same timestamp in whatever order the
    four layouts are tried, and for none exactly if none of the three accepts it. -/
theorem timestamp_text_unambiguous (s : String) :
    (∀ layout ∈ [Layout.spaced, Layout.lettered, Layout.date],
      ∀ other ∈ [Layout.spaced, Layout.lettered, Layout.date],
        layout.Accepts s → other.Accepts s → layout = other) ∧
    (∀ t, Layout.spacedWhole.read? s.toList = some t → Layout.spaced.read? s.toList = some t) ∧
    (∀ order : List Layout,
      order.Perm [Layout.spaced, Layout.lettered, Layout.spacedWhole, Layout.date] →
        order.findSome? (·.read? s.toList) = (Value.text s).asTimestamp?) ∧
    ((Value.text s).asTimestamp? = none ↔
      ∀ layout ∈ [Layout.spaced, Layout.lettered, Layout.date], ¬ layout.Accepts s) := by
  refine ⟨?atMostOne, fun t => Layout.spaced_of_spacedWhole, ?anyOrder, ?noOrder⟩
  case atMostOne =>
    rintro layout hlayout other hother ⟨t, h⟩ ⟨t', h'⟩
    exact Layout.eq_of_mem_apart hlayout hother h h'
  case anyOrder =>
    intro order horder
    -- whatever the order, a timestamp is found if some layout reads it
    refine Option.ext fun t => ?_
    rw [Layout.findSome?_read?_eq_some horder]
    exact (Layout.findSome?_read?_eq_some (List.Perm.refl _)).symm
  case noOrder =>
    have hsome : ∀ t, (Value.text s).asTimestamp? = some t ↔
        ∃ layout ∈ Layout.apart, layout.read? s.toList = some t :=
      fun t => Layout.findSome?_read?_eq_some (List.Perm.refl _)
    constructor
    · rintro hnone layout hmem ⟨t, h⟩
      have hread := (hsome t).mpr ⟨layout, hmem, h⟩
      rw [hnone] at hread
      cases hread
    · intro hnone
      refine Option.eq_none_iff_forall_ne_some.mpr fun t hread => ?_
      obtain ⟨layout, hmem, h⟩ := (hsome t).mp hread
      exact hnone layout hmem ⟨t, h⟩

/-- One text for each of the four layouts.  In the third nothing stands between day and hour. -/
example :
    ["2024-1-02 7:08:09.5", "2024-1-02T7:08:09.5", "2024-1-0207:08:09", "2024-1-02"].map
        (fun s => Layout.all.map fun layout => (layout.read? s.toList).isSome) =
      [[true, false, false, false], [false, true, false, false], [true, false, true, false],
        [false, false, false, true]] := by
  decide +kernel

end SqlClient
