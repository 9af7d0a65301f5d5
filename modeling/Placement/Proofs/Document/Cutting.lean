import Mathlib.Data.List.TakeWhile
import Placement.Proofs.Document

/-!
# Placement.Proofs.Document.Cutting — a document cut at positions

A stretch of a document is read in one of two ways: as a part of one line, or as the end
of a line, whole lines and the beginning of another line, with line feeds between them.
Both are said in one way by the text that stands behind a position, up to the end of the
document (`behind`): the text of a stretch, and behind it the text behind its end, are
the text behind its start (`getText_append_behind`).

So stretches that meet have the text of the stretch over both of them
(`getText_append`), and however a document is cut, its pieces are the whole text
(`flatten_pieces`). Of a document that was made of a text this is the text without
carriage returns at the ends of its lines (`intercalate_linesOf`).
-/

namespace Placement

namespace Text

/-! ## Carriage returns -/

/-- A text without the carriage returns at the ends of its lines, which are those that have nothing
but carriage returns behind them on their line. -/
def withoutReturns : Text → Text
  | [] => []
  | c :: r =>
    if c == .char '\r' && (r.takeWhile (· != .char '\n')).all (· == .char '\r') then
      withoutReturns r
    else c :: withoutReturns r

/-- A run at the end of a text is dropped from its first character on. -/
theorem chomp_cons (c x : CodePoint) (t : Text) :
    chomp c (x :: t) = if x == c && t.all (· == c) then chomp c t else x :: chomp c t := by
  have hnil : t.reverse.dropWhile (· == c) = [] ↔ t.all (· == c) = true := by
    simp [List.dropWhile_eq_nil_iff]
  unfold chomp
  rw [List.reverse_cons, List.dropWhile_append]
  cases hrun : t.all (· == c) with
  | true =>
    -- the whole of `t` is dropped, and so is what stands in front of it if it is the same
    rw [hnil.mpr hrun, Bool.and_true]
    cases hx : x == c with
    | true => simp [hx]
    | false => simp [hx]
  | false =>
    have hkept : (t.reverse.dropWhile (· == c)).isEmpty = false := by
      rw [List.isEmpty_eq_false_iff, Ne, hnil, hrun]
      exact Bool.false_ne_true
    rw [hkept, Bool.and_false, if_neg Bool.false_ne_true, if_neg Bool.false_ne_true,
      List.reverse_append]
    rfl

/-- The first part of a text reaches up to the first mark. -/
theorem head?_splitOn (sep : CodePoint) (t : Text) :
    (splitOn sep t).head? = some (t.takeWhile (· != sep)) := by
  induction t with
  | nil => rfl
  | cons c r ih =>
    rw [splitOn, List.takeWhile_cons]
    by_cases hc : c = sep
    · simp [hc]
    · cases hs : splitOn sep r with
      | nil => exact absurd hs (splitOn_ne_nil sep r)
      | cons p ps => simp_all

/-! ## Joined lines -/

/-- The first of several texts stands in front of the separator and of the other ones, joined. -/
theorem intercalate_cons_of_ne_nil (sep u : Text) {rest : List Text} (h : rest ≠ []) :
    sep.intercalate (u :: rest) = u ++ sep ++ sep.intercalate rest := by
  rcases List.exists_cons_of_ne_nil h with ⟨v, more, rfl⟩
  exact List.intercalate_cons_cons

/-- A part of the first text of a join is a part of the join. -/
theorem intercalate_cons_append (sep u v : Text) (rest : List Text) :
    sep.intercalate ((u ++ v) :: rest) = u ++ sep.intercalate (v :: rest) := by
  cases rest with
  | nil => rw [List.intercalate_singleton, List.intercalate_singleton]
  | cons w more =>
    rw [List.intercalate_cons_cons, List.intercalate_cons_cons, List.append_assoc,
      List.append_assoc, List.append_assoc]

/-- A join that ends in one part of a text, and a join that begins with the other part. -/
theorem intercalate_append_intercalate (sep : Text) (front : List Text) (u v : Text)
    (rest : List Text) :
    sep.intercalate (front ++ [u]) ++ sep.intercalate (v :: rest) =
      sep.intercalate (front ++ (u ++ v) :: rest) := by
  induction front with
  | nil =>
    rw [List.nil_append, List.nil_append, List.intercalate_singleton, intercalate_cons_append]
  | cons f more ih =>
    -- on both sides something is joined behind the first text
    have hleft : more ++ [u] ≠ [] := List.append_ne_nil_of_right_ne_nil _ (List.cons_ne_nil _ _)
    have hright : more ++ (u ++ v) :: rest ≠ [] :=
      List.append_ne_nil_of_right_ne_nil _ (List.cons_ne_nil _ _)
    rw [List.cons_append, List.cons_append, intercalate_cons_of_ne_nil sep f hleft,
      intercalate_cons_of_ne_nil sep f hright, List.append_assoc, ih]

end Text

namespace Document

variable {d : Document} {a b c p : Position}

/-! ## The lines of a text -/

/-- A document has a line, also when its text is empty. -/
theorem linesOf_ne_nil (t : Text) : linesOf t ≠ [] := by
  unfold linesOf
  rw [Ne, List.map_eq_nil_iff]
  exact Text.splitOn_ne_nil '\n' t

/-- The lines of a text, joined again, are the text without the carriage returns at their ends. -/
theorem intercalate_linesOf (t : Text) :
    [.char '\n'].intercalate (linesOf t) = Text.withoutReturns t := by
  unfold linesOf
  induction t with
  | nil => rfl
  | cons c r ih =>
    -- the first line of the rest is what decides about a carriage return in front of it
    have hhead := Text.head?_splitOn '\n' r
    cases hs : Text.splitOn '\n' r with
    | nil => exact absurd hs (Text.splitOn_ne_nil '\n' r)
    | cons line more =>
      rw [hs, List.map_cons] at ih
      rw [hs, List.head?_cons, Option.some.injEq] at hhead
      rw [Text.splitOn, Text.withoutReturns, ← hhead, hs]
      by_cases hfeed : c = '\n'
      · subst hfeed
        -- a line feed ends an empty line, and is no carriage return
        have hfeed : (CodePoint.char '\n' == .char '\r') = false := by decide
        rw [if_pos rfl, hfeed, Bool.false_and, if_neg Bool.false_ne_true, List.map_cons,
          List.map_cons, List.intercalate_cons_cons, ih]
        rfl
      · rw [if_neg hfeed, List.map_cons, Text.chomp_cons]
        -- a carriage return goes when only carriage returns follow it on its line
        cases c == '\r' && line.all (· == '\r') with
        | true => rw [if_pos rfl, if_pos rfl, ih]
        | false =>
          rw [if_neg Bool.false_ne_true, if_neg Bool.false_ne_true, ← ih]
          exact Text.intercalate_cons_append [.char '\n'] [c] (Text.chomp '\r' line)
            (more.map (Text.chomp '\r'))

/-! ## What stands behind a position -/

/-- The text of a document behind a position. -/
def behind (d : Document) (p : Position) : Text :=
  [.char '\n'].intercalate
    ((d.textAt p.line).drop p.character.toNat :: d.lines.drop (p.line.toNat + 1))

/-- From a line on, the lines are its text and the lines behind it. -/
theorem drop_eq_textAt_cons {n : Nat} (h : n < d.lineCount) :
    d.lines.drop n = d.textAt n :: d.lines.drop (n + 1) := by
  have hlength : n < d.lines.length := h
  rw [textAt, Int.toNat_natCast, List.getElem?_eq_getElem hlength, Option.getD_some]
  exact List.drop_eq_getElem_cons hlength

/-- Whole lines are read one after the other. -/
theorem linesFrom_eq_ok (hd : d.Readable) (line count : Nat) (h : line + count ≤ d.lineCount) :
    d.linesFrom line count = .ok ((d.lines.drop line).take count) := by
  induction count generalizing line with
  | zero => rw [linesFrom, List.take_zero]
  | succ count ih =>
    have hline : d.HasLine line := ⟨by omega, by omega⟩
    have hmore := ih (line + 1) (by omega)
    rw [linesFrom, lineAt_eq_ok hline (hd line hline), drop_eq_textAt_cons (by omega),
      List.take_succ_cons]
    rw [Int.natCast_add, Int.natCast_one] at hmore
    simp only [hmore]
    rfl

/-- A stretch of one line. -/
theorem getText_append_behind_of_line_eq (hd : d.Readable) (ha : d.holds a = true)
    (hb : d.holds b = true) (hline : a.line = b.line) (hab : a.character ≤ b.character) :
    ∃ t, d.getText ⟨a, b⟩ = .ok t ∧ t ++ d.behind b = d.behind a := by
  rcases holds_iff.mp ha with ⟨hasLine, ha0, halen⟩
  rcases holds_iff.mp hb with ⟨-, hb0, hblen⟩
  have hread := lineAt_eq_ok hasLine (hd a.line hasLine)
  refine ⟨slice (d.textAt a.line) a.character b.character, ?_, ?_⟩
  · simp only [getText, if_pos hline, hread]
    rfl
  · rw [← hline] at hblen
    rw [behind, behind, ← hline, ← Text.intercalate_cons_append, slice, place_of_le ha0 halen,
      place_of_le hb0 hblen, ← List.drop_append_of_le_length, List.take_append_drop]
    rw [List.length_take]
    omega

/-- A stretch that goes on to a later line. -/
theorem getText_append_behind_of_line_lt (hd : d.Readable) (ha : d.holds a = true)
    (hb : d.holds b = true) (hline : a.line < b.line) :
    ∃ t, d.getText ⟨a, b⟩ = .ok t ∧ t ++ d.behind b = d.behind a := by
  rcases holds_iff.mp ha with ⟨hfirst, ha0, halen⟩
  rcases holds_iff.mp hb with ⟨hlast, hb0, hblen⟩
  -- the first line has a number `i`, and `count` lines stand between it and the last one
  rcases Int.eq_ofNat_of_zero_le hfirst.1 with ⟨i, hi⟩
  rcases Int.eq_ofNat_of_zero_le (Int.sub_nonneg_of_le hline) with ⟨count, hcount⟩
  have hstop : i + 1 + count < d.lineCount := by
    have := hlast.2
    omega
  -- the whole lines between the two are all there, so that none of them fails
  have hbetween : d.linesFrom (a.line + 1) (b.line - a.line - 1).toNat =
      .ok ((d.lines.drop (i + 1)).take count) := by
    rw [← linesFrom_eq_ok hd (i + 1) count (by omega)]
    congr 1 <;> omega
  -- these lines and the last one with all behind it are what comes behind the first one
  have hrest : (d.lines.drop (i + 1)).take count ++
      d.textAt b.line :: d.lines.drop (b.line.toNat + 1) = d.lines.drop (i + 1) := by
    have hb : b.line = (i + 1 + count : Nat) := by omega
    have hskip : d.lines.drop (i + 1 + count) = (d.lines.drop (i + 1)).drop count :=
      List.drop_drop.symm
    rw [hb, Int.toNat_natCast, ← drop_eq_textAt_cons hstop, hskip, List.take_append_drop]
  refine ⟨[.char '\n'].intercalate ([sliceFrom (d.textAt a.line) a.character] ++
    (d.lines.drop (i + 1)).take count ++ [sliceTo (d.textAt b.line) b.character]), ?_, ?_⟩
  · have hne : a.line ≠ b.line := Int.ne_of_lt hline
    simp only [getText, if_neg hne, lineAt_eq_ok hfirst (hd _ hfirst),
      lineAt_eq_ok hlast (hd _ hlast), hbetween]
    rfl
  · have hnat : a.line.toNat = i := by omega
    rw [behind, behind, Text.intercalate_append_intercalate, sliceFrom, sliceTo,
      place_of_le ha0 halen, place_of_le hb0 hblen, List.take_append_drop, hnat,
      List.append_assoc, hrest, List.singleton_append]

/-- The text of a stretch, in front of what stands behind its end, is what stands behind its
start. -/
theorem getText_append_behind (hd : d.Readable) (ha : d.holds a = true) (hb : d.holds b = true)
    (hab : a.le b = true) : ∃ t, d.getText ⟨a, b⟩ = .ok t ∧ t ++ d.behind b = d.behind a := by
  simp only [Position.le, Bool.or_eq_true, decide_eq_true_eq, Bool.and_eq_true, beq_iff_eq] at hab
  rcases hab with hlt | ⟨heq, hle⟩
  · exact getText_append_behind_of_line_lt hd ha hb hlt
  · exact getText_append_behind_of_line_eq hd ha hb heq hle

/-! ## Stretches that meet -/

/-- The texts of two stretches that meet are the text of the stretch over both. -/
theorem getText_append (hd : d.Readable) (ha : d.holds a = true) (hb : d.holds b = true)
    (hc : d.holds c = true) (hab : a.le b = true) (hbc : b.le c = true) :
    ∃ front back, d.getText ⟨a, b⟩ = .ok front ∧ d.getText ⟨b, c⟩ = .ok back ∧
      d.getText ⟨a, c⟩ = .ok (front ++ back) := by
  rcases getText_append_behind hd ha hb hab with ⟨front, hfront, hab'⟩
  rcases getText_append_behind hd hb hc hbc with ⟨back, hback, hbc'⟩
  rcases getText_append_behind hd ha hc (Position.le_trans hab hbc) with ⟨whole, hwhole, hac'⟩
  -- the whole and the two parts are left when the text behind the last end is taken off
  have hjoin : whole ++ d.behind c = front ++ back ++ d.behind c := by
    rw [hac', ← hab', ← hbc', List.append_assoc]
  have heq : whole = front ++ back := List.append_cancel_right hjoin
  exact ⟨front, back, hfront, hback, heq ▸ hwhole⟩

/-! ## Whole documents -/

/-- The start of the first line. -/
def textStart : Position := ⟨0, 0⟩

/-- The end of the last line. -/
def textEnd (d : Document) : Position :=
  ⟨d.lineCount - 1, (d.textAt (d.lineCount - 1)).length⟩

/-- The texts between some positions, each up to the next one. -/
def pieces (d : Document) (p : Position) : List Position → Except LineFault (List Text)
  | [] => .ok []
  | q :: more => do return (← d.getText ⟨p, q⟩) :: (← d.pieces q more)

/-- A document holds its start. -/
theorem holds_textStart (h : d.lines ≠ []) : d.holds textStart = true := by
  have hlength := List.length_pos_iff.mpr h
  rw [holds_iff]
  exact ⟨⟨Int.le_refl 0, Int.natCast_pos.mpr hlength⟩, Int.le_refl 0, Int.natCast_nonneg _⟩

/-- A document holds its end. -/
theorem holds_textEnd (h : d.lines ≠ []) : d.holds d.textEnd = true := by
  have hlength := List.length_pos_iff.mpr h
  rw [holds_iff]
  refine ⟨⟨?_, ?_⟩, Int.natCast_nonneg _, Int.le_refl _⟩ <;>
    simp only [textEnd, lineCount] <;> omega

/-- No position inside a document comes before its start. -/
theorem textStart_le (hp : d.holds p = true) : textStart.le p = true := by
  have hholds := holds_iff.mp hp
  simp only [Position.le, Bool.or_eq_true, decide_eq_true_eq, Bool.and_eq_true, beq_iff_eq]
  rcases Int.lt_or_eq_of_le hholds.1.1 with hlt | heq
  · exact Or.inl hlt
  · exact Or.inr ⟨heq, hholds.2.1⟩

/-- None comes behind its end. -/
theorem le_textEnd (hp : d.holds p = true) : p.le d.textEnd = true := by
  have hholds := holds_iff.mp hp
  have hline := hholds.1.2
  simp only [Position.le, Bool.or_eq_true, decide_eq_true_eq, Bool.and_eq_true, beq_iff_eq]
  rcases Int.lt_or_eq_of_le (Int.le_sub_one_of_lt hline) with hlt | heq
  · exact Or.inl hlt
  · refine Or.inr ⟨heq, ?_⟩
    have hlength := hholds.2.2
    rwa [heq] at hlength

/-- Behind the start of the first line stand all lines. -/
theorem behind_textStart (h : d.lines ≠ []) :
    d.behind textStart = [.char '\n'].intercalate d.lines := by
  rcases List.exists_cons_of_ne_nil h with ⟨line, more, hlines⟩
  simp [behind, textStart, textAt, hlines]

/-- Nothing stands behind the end. -/
theorem behind_textEnd (h : d.lines ≠ []) : d.behind d.textEnd = [] := by
  have hlength := List.length_pos_iff.mpr h
  have hlast : d.textEnd.line.toNat + 1 = d.lines.length := by
    simp only [textEnd, lineCount]
    omega
  rw [behind, hlast, List.drop_length, List.intercalate_singleton]
  exact List.drop_length

/-- The pieces of a document between positions in order, from the first of these on. -/
theorem pieces_append_behind (hd : d.Readable) (cuts : List Position)
    (hin : ∀ q ∈ p :: cuts, d.holds q = true)
    (hsorted : (p :: cuts).Pairwise fun q r => q.le r = true) :
    ∃ parts, d.pieces p cuts = .ok parts ∧
      parts.flatten ++ d.behind (cuts.getLastD p) = d.behind p := by
  induction cuts generalizing p with
  | nil => exact ⟨[], rfl, rfl⟩
  | cons q more ih =>
    rcases List.forall_mem_cons.mp hin with ⟨hp, hmore⟩
    rcases List.pairwise_cons.mp hsorted with ⟨hfirst, hrest⟩
    have hq : d.holds q = true := hmore q List.mem_cons_self
    have hle : p.le q = true := hfirst q List.mem_cons_self
    -- the pieces from the first cut on leave the text behind it
    rcases ih hmore hrest with ⟨parts, hparts, hbehind⟩
    rcases getText_append_behind hd hp hq hle with ⟨t, ht, happend⟩
    refine ⟨t :: parts, ?_, ?_⟩
    · simp only [pieces, ht, hparts]
      rfl
    · rw [List.flatten_cons, List.getLastD_cons, List.append_assoc, hbehind, happend]

/-- The pieces of a document that is cut at positions in order are its lines, joined. -/
theorem flatten_pieces (hd : d.Readable) (hne : d.lines ≠ []) (cuts : List Position)
    (hin : ∀ q ∈ cuts, d.holds q = true)
    (hsorted : cuts.Pairwise fun q r => q.le r = true) :
    ∃ parts, d.pieces textStart (cuts ++ [d.textEnd]) = .ok parts ∧
      parts.flatten = [.char '\n'].intercalate d.lines := by
  -- the cuts together with the two ends of the text are again positions inside, in order
  have hin' : ∀ q ∈ textStart :: (cuts ++ [d.textEnd]), d.holds q = true := by
    rw [List.forall_mem_cons, List.forall_mem_append]
    exact ⟨holds_textStart hne, hin, List.forall_mem_singleton.mpr (holds_textEnd hne)⟩
  have hsorted' : (textStart :: (cuts ++ [d.textEnd])).Pairwise fun q r => q.le r = true := by
    rw [List.pairwise_cons, List.pairwise_append]
    refine ⟨fun q hq => textStart_le (hin' q (List.mem_cons_of_mem _ hq)), hsorted,
      List.pairwise_singleton _ _, ?_⟩
    intro q hq r hr
    rw [List.mem_singleton.mp hr]
    exact le_textEnd (hin q hq)
  rcases pieces_append_behind hd _ hin' hsorted' with ⟨parts, hparts, hbehind⟩
  -- behind the start stands the whole text, behind the end nothing
  rw [List.getLastD_concat, behind_textEnd hne, List.append_nil, behind_textStart hne] at hbehind
  exact ⟨parts, hparts, hbehind⟩

/-- The texts of a document add up: stretches that meet have the text of the stretch over both, the
whole document has the text that it was made of, without the carriage returns at the ends of lines,
and so have its pieces, wherever it is cut. -/
theorem getText_additive (uri text : Text) (version : Int) :
    let d := ofText uri text version
    (∀ a b c : Position, d.holds a = true → d.holds b = true → d.holds c = true →
      a.le b = true → b.le c = true →
      ∃ front back, d.getText ⟨a, b⟩ = .ok front ∧ d.getText ⟨b, c⟩ = .ok back ∧
        d.getText ⟨a, c⟩ = .ok (front ++ back)) ∧
    d.getText ⟨textStart, d.textEnd⟩ = .ok (Text.withoutReturns text) ∧
    ∀ cuts : List Position, (∀ p ∈ cuts, d.holds p = true) →
      cuts.Pairwise (fun p q => p.le q = true) →
      ∃ parts, d.pieces textStart (cuts ++ [d.textEnd]) = .ok parts ∧
        parts.flatten = Text.withoutReturns text := by
  intro d
  have hd : d.Readable := readable_of_broken_eq_nil rfl
  have hne : d.lines ≠ [] := linesOf_ne_nil text
  have hjoin : [.char '\n'].intercalate d.lines = Text.withoutReturns text :=
    intercalate_linesOf text
  refine ⟨fun a b c ha hb hc hab hbc => getText_append hd ha hb hc hab hbc, ?_, ?_⟩
  · -- the whole text is the case of one piece from its start to its end
    have hend := holds_textEnd hne
    rcases getText_append_behind hd (holds_textStart hne) hend (textStart_le hend) with
      ⟨t, ht, hbehind⟩
    rw [behind_textEnd hne, List.append_nil, behind_textStart hne, hjoin] at hbehind
    exact hbehind ▸ ht
  · intro cuts hin hsorted
    rw [← hjoin]
    exact flatten_pieces hd hne cuts hin hsorted

/-- A document with an empty line and carriage returns in front of some line ends, cut within its
first line, at the empty one and within the last one. -/
theorem getText_additive_mixed_line_ends :
    let d := ofText [] "ab\r\n\r\nc\rd\r\r".text 1
    (d.holds ⟨0, 1⟩ = true ∧ d.holds ⟨1, 0⟩ = true ∧ d.holds ⟨2, 2⟩ = true ∧
      Position.le ⟨0, 1⟩ ⟨1, 0⟩ = true ∧ Position.le ⟨1, 0⟩ ⟨2, 2⟩ = true) ∧
    (∃ front back, d.getText ⟨⟨0, 1⟩, ⟨1, 0⟩⟩ = .ok front ∧ d.getText ⟨⟨1, 0⟩, ⟨2, 2⟩⟩ = .ok back ∧
      d.getText ⟨⟨0, 1⟩, ⟨2, 2⟩⟩ = .ok (front ++ back)) ∧
    d.getText ⟨textStart, d.textEnd⟩ = .ok "ab\n\nc\rd".text ∧
    ∃ parts, d.pieces textStart ([⟨0, 1⟩, ⟨1, 0⟩, ⟨2, 2⟩] ++ [d.textEnd]) = .ok parts ∧
      parts.flatten = "ab\n\nc\rd".text := by
  intro d
  have hadditive := getText_additive [] "ab\r\n\r\nc\rd\r\r".text 1
  have htext : Text.withoutReturns "ab\r\n\r\nc\rd\r\r".text = "ab\n\nc\rd".text := by
    decide
  rw [htext] at hadditive
  have hin : d.holds ⟨0, 1⟩ = true ∧ d.holds ⟨1, 0⟩ = true ∧ d.holds ⟨2, 2⟩ = true := by decide
  have hle : Position.le ⟨0, 1⟩ ⟨1, 0⟩ = true ∧ Position.le ⟨1, 0⟩ ⟨2, 2⟩ = true := by decide
  -- the three cuts lie on three lines, the second of them empty
  have hcuts : ∀ p ∈ [(⟨0, 1⟩ : Position), ⟨1, 0⟩, ⟨2, 2⟩], d.holds p = true := by
    rw [List.forall_mem_cons, List.forall_mem_cons, List.forall_mem_singleton]
    exact hin
  exact ⟨⟨hin.1, hin.2.1, hin.2.2, hle⟩,
    hadditive.1 _ _ _ hin.1 hin.2.1 hin.2.2 hle.1 hle.2, hadditive.2.1,
    hadditive.2.2 _ hcuts (by decide)⟩

end Document

end Placement
