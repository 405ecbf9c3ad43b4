import Mathlib.Logic.ExistsUnique
import Mathlib.Logic.Relation
import SqlClient.Embedded.Blank

namespace SqlClient.Embedded

open Relation (ReflTransGen)

/-!
# The pieces of blank statements

A statement text is read piece by piece from left to right, each piece a blank character, a
semicolon or a comment.  The text is blank exactly if it is used up in this way.

* `Piece` — a piece at the front of a text, and what follows it.
* `afterPiece?`, `piece_iff` — what follows the piece at the front, if there is one.
* `isBlankFrom_of_piece` — a piece may be left out.
* `exists_stop` — reading comes to an end, and to only one.
* `isBlankStatement_iff_pieces` — the texts that are blank.
-/

/-- A piece at the front of a statement text, and what follows it.  Inside a comment only the
    mark that ends it counts. -/
inductive Piece : List Char → List Char → Prop where
  | blank (c : Char) (rest : List Char) (h : Text.isBlank c = true) : Piece (c :: rest) rest
  | semicolon (rest : List Char) : Piece (';' :: rest) rest
  /-- a comment up to the first newline -/
  | line (body rest : List Char) (h : '\n' ∉ body) :
      Piece ('-' :: '-' :: (body ++ '\n' :: rest)) rest
  /-- a comment that no newline ends -/
  | lastLine (body : List Char) (h : '\n' ∉ body) : Piece ('-' :: '-' :: body) []
  /-- a comment up to the first closing mark -/
  | block (body rest : List Char) (h : ¬ ['*', '/'] <:+: body) :
      Piece ('/' :: '*' :: (body ++ '*' :: '/' :: rest)) rest
  /-- a comment that is not closed -/
  | lastBlock (body : List Char) (h : ¬ ['*', '/'] <:+: body) : Piece ('/' :: '*' :: body) []

/-! ### What follows a comment -/

/-- What follows the first newline; nothing where there is none. -/
def afterLine : List Char → List Char
  | [] => []
  | c :: rest => if c = '\n' then rest else afterLine rest

/-- What follows the first closing mark; nothing where there is none. -/
def afterBlock : List Char → List Char
  | [] => []
  | '*' :: '/' :: rest => rest
  | _ :: rest => afterBlock rest

theorem afterLine_append {body : List Char} (h : '\n' ∉ body) (rest : List Char) :
    afterLine (body ++ rest) = afterLine rest := by
  induction body with
  | nil => rfl
  | cons c body ih =>
    obtain ⟨hc, hbody⟩ := not_or.mp (mt List.mem_cons.mpr h)
    rw [List.cons_append, afterLine, if_neg (Ne.symm hc), ih hbody]

/-- A text ends before its first newline or has one. -/
theorem afterLine_cases (cs : List Char) :
    (∃ body, '\n' ∉ body ∧ cs = body ++ '\n' :: afterLine cs) ∨
    '\n' ∉ cs ∧ afterLine cs = [] := by
  induction cs with
  | nil => exact .inr ⟨List.not_mem_nil, rfl⟩
  | cons c cs ih =>
    by_cases hc : c = '\n'
    · subst hc
      exact .inl ⟨[], List.not_mem_nil, rfl⟩
    · rw [afterLine, if_neg hc]
      rcases ih with ⟨body, hbody, hcs⟩ | ⟨hno, hnil⟩
      · refine .inl ⟨c :: body, ?_, by rw [List.cons_append, ← hcs]⟩
        simp [Ne.symm hc, hbody]
      · exact .inr ⟨by simp [Ne.symm hc, hno], hnil⟩

/-- A comment that is not closed goes on to the end of the text, so there is nothing after it. -/
theorem afterBlock_eq_nil {body : List Char} (h : ¬ ['*', '/'] <:+: body) :
    afterBlock body = [] := by
  fun_induction afterBlock body with
  | case1 => rfl
  | case2 rest => exact absurd (List.prefix_append ['*', '/'] rest).isInfix h
  | case3 c rest _ ih => exact ih fun hrest => h (List.infix_cons hrest)

/-- The first closing mark is the one that ends a comment, whatever stands behind it. -/
private theorem afterBlock_append {body : List Char} (h : ¬ ['*', '/'] <:+: body)
    (rest : List Char) :
    afterBlock (body ++ '*' :: '/' :: rest) = rest := by
  induction body with
  | nil => rfl
  | cons c body ih =>
    have hbody : ¬ ['*', '/'] <:+: body := fun hinfix => h (List.infix_cons hinfix)
    rw [List.cons_append, afterBlock, ih hbody]
    -- the mark cannot begin inside the body and end behind it
    rintro others rfl hmark
    cases body with
    | nil => exact absurd (List.cons.inj hmark).1 (by decide)
    | cons d body =>
      obtain ⟨rfl, _⟩ := List.cons.inj hmark
      exact h (List.prefix_append ['*', '/'] body).isInfix

/-- A text has a first closing mark or is not closed. -/
theorem afterBlock_cases (cs : List Char) :
    (∃ body, ¬ ['*', '/'] <:+: body ∧ cs = body ++ '*' :: '/' :: afterBlock cs) ∨
    ¬ ['*', '/'] <:+: cs := by
  fun_induction afterBlock cs with
  | case1 => exact .inr (by decide)
  | case2 rest => exact .inl ⟨[], by decide, rfl⟩
  | case3 c rest hno ih =>
    have hhead : ¬ ['*', '/'] <+: c :: rest := by
      rintro ⟨others, hmark⟩
      obtain ⟨rfl, rfl⟩ := List.cons.inj hmark
      exact hno others rfl rfl
    rcases ih with ⟨body, hbody, hrest⟩ | hopen
    · have hwhole : c :: rest = (c :: body) ++ '*' :: '/' :: afterBlock rest := by
        rw [List.cons_append, ← hrest]
      have hbegin : c :: body <+: c :: rest := ⟨_, hwhole.symm⟩
      refine .inl ⟨c :: body, ?_, hwhole⟩
      rw [List.infix_cons_iff]
      exact not_or.mpr ⟨fun hmark => hhead (hmark.trans hbegin), hbody⟩
    · rw [List.infix_cons_iff]
      exact .inr (not_or.mpr ⟨hhead, hopen⟩)

/-! ### Piece by piece -/

/-- What follows the piece at the front, if the text begins with one. -/
def afterPiece? : List Char → Option (List Char)
  | '-' :: '-' :: rest => some (afterLine rest)
  | '/' :: '*' :: rest => some (afterBlock rest)
  | c :: rest => if Text.isBlank c || c = ';' then some rest else none
  | [] => none

/-- No comment begins with a blank character or a semicolon. -/
theorem afterPiece?_of_skips {c : Char} (h : (Text.isBlank c || c = ';') = true)
    (rest : List Char) : afterPiece? (c :: rest) = some rest := by
  rw [afterPiece?, if_pos h]
  · rintro _ rfl
    exact absurd h (by decide)
  · rintro _ rfl
    exact absurd h (by decide)

/-- What piece stands at the front of a text is settled by its first characters, so it can be
    decided. -/
theorem piece_iff {cs rest : List Char} : Piece cs rest ↔ afterPiece? cs = some rest := by
  constructor
  · intro h
    cases h with
    | blank c rest h => exact afterPiece?_of_skips (by simp [h]) rest
    | semicolon rest => exact afterPiece?_of_skips (by simp) rest
    | line body rest h =>
      simp [afterPiece?, afterLine_append h, afterLine]
    | lastLine body h =>
      -- the last line has no line end, which is as good as nothing behind it
      have hend := afterLine_append h []
      rw [List.append_nil] at hend
      simp [afterPiece?, hend, afterLine]
    | block body rest h => simp [afterPiece?, afterBlock_append h]
    | lastBlock body h => simp [afterPiece?, afterBlock_eq_nil h]
  · intro h
    -- each way to take a piece off is one kind of piece, or two if the text ends in it
    fun_cases afterPiece? cs with
    | case1 inside =>
      obtain rfl : afterLine inside = rest := by simpa [afterPiece?] using h
      rcases afterLine_cases inside with ⟨body, hbody, hinside⟩ | ⟨hno, hnil⟩
      · conv => arg 1; rw [hinside]
        exact .line body _ hbody
      · rw [hnil]
        exact .lastLine inside hno
    | case2 inside =>
      obtain rfl : afterBlock inside = rest := by simpa [afterPiece?] using h
      rcases afterBlock_cases inside with ⟨body, hbody, hinside⟩ | hopen
      · conv => arg 1; rw [hinside]
        exact .block body _ hbody
      · rw [afterBlock_eq_nil hopen]
        exact .lastBlock inside hopen
    | case3 c others _ _ hskips =>
      obtain rfl : others = rest := by simpa [afterPiece?_of_skips hskips] using h
      rcases (Bool.or_eq_true _ _).mp hskips with hblank | hsemicolon
      · exact .blank c others hblank
      · obtain rfl := of_decide_eq_true hsemicolon
        exact .semicolon others
    | case4 c others hline hblock hskips =>
      rw [afterPiece?, if_neg hskips] at h
      · exact absurd h nofun
      · exact hline
      · exact hblock
    | case5 => exact absurd h nofun

/-- A piece is never empty, so reading goes on to a shorter text. -/
theorem Piece.length_lt {cs rest : List Char} (h : Piece cs rest) : rest.length < cs.length := by
  cases h with
  | blank c rest _ => simp
  | semicolon rest => simp
  | line body rest _ =>
    simp only [List.length_cons, List.length_append]
    omega
  | lastLine body _ => simp
  | block body rest _ =>
    simp only [List.length_cons, List.length_append]
    omega
  | lastBlock body _ => simp

/-! ### The scanner -/

/-- Inside a comment up to the end of a line, nothing but the newline is seen. -/
private theorem isBlankFrom_line (cs : List Char) :
    isBlankFrom .lineComment cs = isBlankFrom .code (afterLine cs) := by
  induction cs with
  | nil => rfl
  | cons c cs ih =>
    rw [isBlankFrom, afterLine]
    split
    · rfl
    · exact ih

/-- Inside a comment up to a closing mark, nothing but the mark is seen. -/
private theorem isBlankFrom_block (cs : List Char) :
    isBlankFrom .blockComment cs = isBlankFrom .code (afterBlock cs) := by
  fun_induction afterBlock cs with
  | case1 => rfl
  | case2 rest => rw [isBlankFrom]
  | case3 c rest hno ih =>
    rw [isBlankFrom, ih]
    exact hno

/-- Outside comments, a text is blank if what follows its first piece is; without a piece at
    the front, only the empty text is. -/
theorem isBlankFrom_code (cs : List Char) :
    isBlankFrom .code cs = (afterPiece? cs).elim cs.isEmpty (isBlankFrom .code) := by
  fun_cases afterPiece? cs with
  | case1 inside => exact isBlankFrom_line inside
  | case2 inside => exact isBlankFrom_block inside
  | case3 c others hline hblock hskips =>
    rw [isBlankFrom, hskips]
    · rfl
    · exact hline
    · exact hblock
  | case4 c others hline hblock hskips =>
    rw [isBlankFrom, Bool.eq_false_iff.mpr hskips]
    · rfl
    · exact hline
    · exact hblock
  | case5 => rfl

theorem isBlankFrom_of_piece {cs rest : List Char} (h : Piece cs rest) :
    isBlankFrom .code cs = isBlankFrom .code rest := by
  rw [isBlankFrom_code, piece_iff.mp h, Option.elim_some]

/-- Pieces at the front may be left out, as many as there are, and the text is blank as before. -/
theorem isBlankFrom_of_pieces {cs rest : List Char} (h : ReflTransGen Piece cs rest) :
    isBlankFrom .code cs = isBlankFrom .code rest := by
  induction h with
  | refl => rfl
  | tail _ hpiece ih => rw [ih, isBlankFrom_of_piece hpiece]

/-! ### The end of reading -/

/-- Where no piece is at the front, no text follows one. -/
theorem forall_not_piece_iff {cs : List Char} :
    (∀ rest, ¬ Piece cs rest) ↔ afterPiece? cs = none := by
  simp only [piece_iff, Option.eq_none_iff_forall_ne_some, ne_eq]

/-- No piece is at the front where a character stands that is neither blank nor a semicolon,
    and that no comment begins with. -/
private theorem not_piece_of_code {c : Char} {rest : List Char} (hblank : Text.isBlank c = false)
    (hsemicolon : c ≠ ';') (hline : ¬ ['-', '-'] <+: c :: rest)
    (hblock : ¬ ['/', '*'] <+: c :: rest) (after : List Char) : ¬ Piece (c :: rest) after := by
  intro h
  cases h with
  | blank _ _ h => exact absurd h (by simp [hblank])
  | semicolon _ => exact hsemicolon rfl
  | line _ _ _ => exact hline ⟨_, rfl⟩
  | lastLine _ _ => exact hline ⟨_, rfl⟩
  | block _ _ _ => exact hblock ⟨_, rfl⟩
  | lastBlock _ _ => exact hblock ⟨_, rfl⟩

/-- Reading comes to an end on every text: each piece that is taken off makes it shorter. -/
theorem exists_stop (cs : List Char) :
    ∃ stop, ReflTransGen Piece cs stop ∧ ∀ rest, ¬ Piece stop rest := by
  induction hn : cs.length using Nat.strongRecOn generalizing cs with
  | ind n ih =>
    by_cases hpiece : ∃ rest, Piece cs rest
    · obtain ⟨rest, hpiece⟩ := hpiece
      obtain ⟨stop, hreads, hstop⟩ := ih rest.length (hn ▸ hpiece.length_lt) rest rfl
      exact ⟨stop, .head hpiece hreads, hstop⟩
    · exact ⟨cs, .refl, fun rest h => hpiece ⟨rest, h⟩⟩

/-- It comes to one end only, a text being read in one way. -/
private theorem stop_unique {cs stop stop' : List Char} (h : ReflTransGen Piece cs stop)
    (h' : ReflTransGen Piece cs stop') (hstop : ∀ rest, ¬ Piece stop rest)
    (hstop' : ∀ rest, ¬ Piece stop' rest) : stop = stop' := by
  have hunique : Relator.RightUnique Piece := fun _ _ _ hleft hright =>
    Option.some.inj ((piece_iff.mp hleft).symm.trans (piece_iff.mp hright))
  rcases h.total_of_right_unique hunique h' with hon | hon
  · exact ((Relation.reflTransGen_iff_eq hstop).mp hon).symm
  · exact (Relation.reflTransGen_iff_eq hstop').mp hon

/-- **Blank statements.** A text is taken for blank exactly if it can be read from left to
    right as blank characters, semicolons and comments, with nothing left.  Reading comes to an
    end on every text, and to only one.  Where it comes to a character outside comments that is
    neither blank nor a semicolon, the text is not taken for blank. -/
theorem isBlankStatement_iff_pieces (sql : String) :
    (isBlankStatement sql = true ↔ ReflTransGen Piece sql.toList []) ∧
    (∃! stop, ReflTransGen Piece sql.toList stop ∧ ∀ rest, ¬ Piece stop rest) ∧
    ∀ (c : Char) (rest : List Char), ReflTransGen Piece sql.toList (c :: rest) →
      Text.isBlank c = false → c ≠ ';' → ¬ ['-', '-'] <+: c :: rest →
      ¬ ['/', '*'] <+: c :: rest → isBlankStatement sql = false := by
  -- where reading ends, the text is blank if nothing is left
  have hend : ∀ stop, ReflTransGen Piece sql.toList stop → (∀ rest, ¬ Piece stop rest) →
      isBlankStatement sql = stop.isEmpty := by
    intro stop hreads hstop
    rw [isBlankStatement, isBlankFrom_of_pieces hreads, isBlankFrom_code,
      forall_not_piece_iff.mp hstop, Option.elim_none]
  obtain ⟨stop, hreads, hstop⟩ := exists_stop sql.toList
  refine ⟨?_, ⟨stop, ⟨hreads, hstop⟩, ?_⟩, ?_⟩
  · constructor
    · intro h
      rw [hend stop hreads hstop, List.isEmpty_iff] at h
      rw [← h]
      exact hreads
    · intro h
      exact hend [] h (forall_not_piece_iff.mpr rfl)
  · rintro stop' ⟨hreads', hstop'⟩
    exact stop_unique hreads' hreads hstop' hstop
  · intro c rest hcode hblank hsemicolon hline hblock
    exact hend (c :: rest) hcode (not_piece_of_code hblank hsemicolon hline hblock)

/-- The mark that begins a comment does not close it, and a mark inside a comment begins none:
    after both comments and the semicolon, what is left is no comment. -/
theorem isBlankStatement_iff_pieces_of_minus :
    ReflTransGen Piece "/*/ -- */;-- /*\n -1".toList ['-', '1'] ∧
    isBlankStatement "/*/ -- */;-- /*\n -1" = false := by
  have hpieces : ReflTransGen Piece "/*/ -- */;-- /*\n -1".toList ['-', '1'] :=
    .head (.block "/ -- ".toList _ (by decide)) (.head (.semicolon _)
      (.head (.line " /*".toList _ (by decide)) (.head (.blank ' ' _ (by decide)) .refl)))
  refine ⟨hpieces, ?_⟩
  exact (isBlankStatement_iff_pieces _).2.2 '-' ['1'] hpieces (by decide) (by decide) (by decide)
    (by decide)

end SqlClient.Embedded
