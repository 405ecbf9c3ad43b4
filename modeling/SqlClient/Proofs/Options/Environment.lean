import SqlClient.Options
import SqlClient.Proofs.Text.Blank
import SqlClient.Proofs.Text.Words

namespace SqlClient

/-!
# Options from the environment

Whatever two texts the variables hold, the options read from them make sense together, and a
timeout is read exactly or not at all.

* `NamesFile`, `AsksFor` — the settings that name a database file, and those that ask for a count
  of milliseconds.
* `validate_eq_ok_iff` — the options that make sense together.
* `readMillis?_eq_some_iff` — the texts that are read as a count, and as which.
* `ofEnvironment_coherent` — the options that two texts give.
-/

namespace Duration

/-- A span in nanoseconds. -/
def total (d : Duration) : Nat := d.seconds.toNat * 1000000000 + d.nanos.val

/-- No two spans of time are equally long: the nanoseconds beside the seconds are below a
    second. -/
private theorem total_inj {d d' : Duration} : d.total = d'.total ↔ d = d' := by
  constructor
  · obtain ⟨seconds, nanos, hnanos⟩ := d
    obtain ⟨seconds', nanos', hnanos'⟩ := d'
    intro h
    simp only [total] at h
    obtain rfl : seconds = seconds' := UInt64.toNat_inj.mp (by omega)
    obtain rfl : nanos = nanos' := by omega
    rfl
  · exact congrArg total

theorem total_ofMillis (millis : UInt64) :
    (ofMillis millis).total = millis.toNat * 1000000 := by
  have hseconds : (ofMillis millis).seconds.toNat = millis.toNat / 1000 :=
    UInt64.toNat_div millis 1000
  have hnanos : (ofMillis millis).nanos.val = millis.toNat % 1000 * 1000000 := rfl
  rw [total, hseconds, hnanos]
  omega

end Duration

namespace Options

open Text

/-! ### The path -/

/-- The variable is set to the name of a file, which is more than white space. -/
def NamesFile (path : Option String) (name : String) : Prop :=
  path = some name ∧ ∃ c ∈ name.toList, isBlank c = false

/-- Options make sense if a path is more than white space, and a database in memory may be
    written. -/
theorem validate_eq_ok_iff {o : Options} :
    o.validate = .ok () ↔
      (∀ name, o.dbPath = some name → ∃ c ∈ name.toList, isBlank c = false) ∧
      (o.dbPath = none → o.readOnly = false) := by
  simp only [← allBlank_eq_false_iff]
  rw [validate]
  cases hpath : o.dbPath <;> simp

/-- A path that names a file gives the options of that file, any other those of a database in
    memory. -/
theorem ofEnvironment_cases (path timeout : Option String) :
    (∃ name, NamesFile path name ∧ ofEnvironment path timeout =
      { file name with busyTimeout := (timeout.bind readMillis?).map Duration.ofMillis }) ∨
    (¬ ∃ name, NamesFile path name) ∧ ofEnvironment path timeout =
      { inMemory with busyTimeout := (timeout.bind readMillis?).map Duration.ofMillis } := by
  cases path with
  | none =>
    right
    refine ⟨?_, rfl⟩
    rintro ⟨name, hpath, _⟩
    exact absurd hpath nofun
  | some p =>
    cases hblank : allBlank p with
    | false =>
      left
      refine ⟨p, ⟨rfl, allBlank_eq_false_iff.mp hblank⟩, ?_⟩
      simp only [ofEnvironment, hblank, Bool.false_eq_true, if_false]
    | true =>
      right
      constructor
      · -- a path of white space names no file
        rintro ⟨name, hpath, hother⟩
        obtain rfl := Option.some.inj hpath
        exact Bool.false_ne_true ((allBlank_eq_false_iff.mpr hother).symm.trans hblank)
      · simp only [ofEnvironment, hblank, if_true]

/-- The options have the path of a file exactly if the environment names one. -/
theorem dbPath_eq_some_iff {path timeout : Option String} {name : String} :
    (ofEnvironment path timeout).dbPath = some name ↔ NamesFile path name := by
  rcases ofEnvironment_cases path timeout with ⟨named, hnamed, h⟩ | ⟨hnone, h⟩
  · rw [h]
    constructor
    · rintro ⟨⟩
      exact hnamed
    · intro hname
      exact hnamed.1.symm.trans hname.1
  · rw [h]
    constructor
    · exact nofun
    · intro hname
      exact absurd ⟨name, hname⟩ hnone

private theorem wal_eq_true_iff {path timeout : Option String} :
    (ofEnvironment path timeout).wal = true ↔ ∃ name, NamesFile path name := by
  rcases ofEnvironment_cases path timeout with ⟨name, hname, h⟩ | ⟨hnone, h⟩
  · rw [h]
    exact ⟨fun _ => ⟨name, hname⟩, fun _ => rfl⟩
  · rw [h]
    exact ⟨nofun, fun hname => absurd hname hnone⟩

private theorem readOnly_ofEnvironment (path timeout : Option String) :
    (ofEnvironment path timeout).readOnly = false := by
  rcases ofEnvironment_cases path timeout with ⟨_, _, h⟩ | ⟨_, h⟩
  · rw [h]
    rfl
  · rw [h]
    rfl

/-- What is taken for the name of a file in the environment is one for the check as well. -/
theorem validate_ofEnvironment (path timeout : Option String) :
    (ofEnvironment path timeout).validate = .ok () := by
  refine validate_eq_ok_iff.mpr ⟨?_, ?_⟩
  · intro name hname
    exact (dbPath_eq_some_iff.mp hname).2
  · intro _
    exact readOnly_ofEnvironment path timeout

/-! ### The timeout -/

/-- The variable is set to a count of milliseconds: its digits, after at most one plus sign,
    with white space around them. -/
inductive AsksFor : Option String → Nat → Prop where
  | bare {s : String} {digits : List Char} {count : Nat} (hs : Stripped s.toList digits)
      (hcount : Denotes digits count) : AsksFor (some s) count
  | signed {s : String} {digits : List Char} {count : Nat} (hs : Stripped s.toList ('+' :: digits))
      (hcount : Denotes digits count) : AsksFor (some s) count

/-- A text is read as the count it asks for, if that has 64 bits. -/
theorem readMillis?_eq_some_iff {s : String} {millis : UInt64} :
    readMillis? s = some millis ↔ AsksFor (some s) millis.toNat := by
  rw [readMillis?, readWord?_eq_some_iff]
  constructor
  · intro h
    have hs := trim_stripped s.toList
    rcases skipPlus_cases (trim s.toList) with hsign | hsign
    · rw [hsign] at hs
      exact .signed hs h
    · rw [hsign] at hs
      exact .bare hs h
  · rintro (⟨hs, hcount⟩ | ⟨hs, hcount⟩)
    · rw [hs.trim_eq, hcount.skipPlus_eq]
      exact hcount
    · rw [hs.trim_eq]
      exact hcount

/-- The greatest count, with leading zeros, and the count after it. -/
example :
    readMillis? "\u3000+018446744073709551615\n" = some 18446744073709551615 ∧
    readMillis? "18446744073709551616" = none := by decide

/-- A timeout is set where a count is asked for that has 64 bits, and it is as long as that. -/
theorem busyTimeout_eq_some_iff {path timeout : Option String} {d : Duration} :
    (ofEnvironment path timeout).busyTimeout = some d ↔
      ∃ count, AsksFor timeout count ∧ count < 2 ^ 64 ∧ d.total = count * 1000000 := by
  change (timeout.bind readMillis?).map Duration.ofMillis = some d ↔ _
  rw [Option.map_eq_some_iff]
  constructor
  · rintro ⟨millis, hread, rfl⟩
    obtain ⟨s, rfl, hread⟩ := Option.bind_eq_some_iff.mp hread
    exact ⟨millis.toNat, readMillis?_eq_some_iff.mp hread, millis.toNat_lt,
      Duration.total_ofMillis millis⟩
  · rintro ⟨count, hasks, hfits, htotal⟩
    have hcount : (UInt64.ofNat count).toNat = count := UInt64.toNat_ofNat_of_lt' hfits
    refine ⟨UInt64.ofNat count, ?_, ?_⟩
    · cases timeout with
      | none => exact absurd hasks nofun
      | some s =>
        rw [← hcount] at hasks
        exact readMillis?_eq_some_iff.mpr hasks
    · rw [← Duration.total_inj, Duration.total_ofMillis, hcount, htotal]

/-- **Options from the environment.** Whatever the two variables hold, the options read from them
    make sense together.  The path is the first text as it stands if that is more than white
    space, and none otherwise, and a log is kept in the first case alone.  A timeout is set
    exactly if the second text, without the white space around it, is a run of digits behind at
    most one plus sign whose value has 64 bits, and it is as many milliseconds long. -/
theorem ofEnvironment_coherent (path timeout : Option String) :
    (ofEnvironment path timeout).validate = .ok () ∧
    (∀ name, (ofEnvironment path timeout).dbPath = some name ↔ NamesFile path name) ∧
    ((ofEnvironment path timeout).dbPath = none ↔ ¬ ∃ name, NamesFile path name) ∧
    ((ofEnvironment path timeout).wal = true ↔ ∃ name, NamesFile path name) ∧
    ((ofEnvironment path timeout).busyTimeout.isSome = true ↔
      ∃ count, AsksFor timeout count ∧ count < 2 ^ 64) ∧
    ∀ d, (ofEnvironment path timeout).busyTimeout = some d ↔
      ∃ count, AsksFor timeout count ∧ count < 2 ^ 64 ∧
        d.total = count * 1000000 ∧ d.nanos.val < 1000000000 := by
  refine ⟨validate_ofEnvironment path timeout, fun _ => dbPath_eq_some_iff, ?_, wal_eq_true_iff,
    ?_, ?_⟩
  · rw [Option.eq_none_iff_forall_ne_some, not_exists]
    exact forall_congr' fun name => not_congr dbPath_eq_some_iff
  · rw [Option.isSome_iff_exists]
    constructor
    · rintro ⟨d, hd⟩
      obtain ⟨count, hasks, hfits, _⟩ := busyTimeout_eq_some_iff.mp hd
      exact ⟨count, hasks, hfits⟩
    · rintro ⟨count, hasks, hfits⟩
      -- a count that fits is kept as it is
      have htotal := Duration.total_ofMillis (UInt64.ofNat count)
      rw [UInt64.toNat_ofNat_of_lt' hfits] at htotal
      exact ⟨_, busyTimeout_eq_some_iff.mpr ⟨count, hasks, hfits, htotal⟩⟩
  · intro d
    rw [busyTimeout_eq_some_iff]
    have hnanos : d.nanos.val < 1000000000 := d.nanos.isLt
    simp only [hnanos, and_true]

end Options

end SqlClient
