import Placement.Proofs.Hover.Bindings
import Placement.Proofs.Hover.CodeBlocks
import Placement.Proofs.Hover.ReturnType
import Placement.Proofs.Hover.Substitution

/-!
# Placement.Proofs.Hover.Footnotes — footnotes behind a signature

Behind the code block of a method stand the footnotes for its type parameters, as
`T` = `String`. No footnote is read at the backticks of the fences in front of them,
which have no name and equals sign behind them (`footnote_eq_none`). As a value holds
no backtick, one footnote is found after the other (`findFrom_noteList`), and none of
their backticks is taken for a fence (`spaced_noteList`).

A return type that nothing cuts off (`PlainType`) in a block without a where clause
(`Returns`) is then made concrete by the footnotes alone. They are read back in any
order, and put into the type all at once (`methodType_notedHover`).
-/

namespace Placement.Hover

open Text (Pattern isAsciiCapital isBlank)
open Depth (Leads Unended)

variable {notes pairs : Bindings} {p : Text × Text} {before : Option CodePoint}
variable {front info body gap rest t u name w : Text}

/-! ## Footnotes -/

/-- A name and a value that a footnote can show. -/
structure IsNote (p : Text × Text) : Prop where
  name : IsParameter p.1
  filled : p.2 ≠ []
  trimmed : Text.trim p.2 = p.2
  noBacktick : .char '\x60' ∉ p.2

instance : Decidable (IsNote p) :=
  decidable_of_iff (IsParameter p.1 ∧ p.2 ≠ [] ∧ Text.trim p.2 = p.2 ∧ .char '\x60' ∉ p.2)
    ⟨fun h => ⟨h.1, h.2.1, h.2.2.1, h.2.2.2⟩,
      fun h => ⟨h.name, h.filled, h.trimmed, h.noBacktick⟩⟩

/-- A footnote as it is written: name and value in backticks. -/
def writtenNote (p : Text × Text) : Text :=
  .char '\x60' :: (p.1 ++ .char '\x60' :: (" = ".text ++ .char '\x60' :: (p.2 ++ [.char '\x60'])))

/-- Footnotes as they are written, one after the other. -/
def noteList (notes : Bindings) : Text := TypeText.join (notes.map writtenNote)

/-- A footnote is read part by part: name, equals sign and value, with the backticks around them. -/
theorem footnote_eq (before : Option CodePoint) (t : Text) :
    footnote before t =
      (Text.after? [.char '\x60'] t).bind fun r => (parameterName r).bind fun (name, r) =>
        (Text.after? [.char '\x60'] r).bind fun r =>
          (Text.after? [.char '='] (Text.trimLeft r)).bind fun r =>
          (Text.after? [.char '\x60'] (Text.trimLeft r)).bind fun r =>
            (Text.after? [.char '\x60'] (r.span (· != .char '\x60')).2).bind fun rest =>
              if (r.span (· != .char '\x60')).1.isEmpty then none
              else some ((name, Text.trim (r.span (· != .char '\x60')).1), rest) := rfl

/-- A footnote in front of a text, written out. -/
theorem writtenNote_append (p : Text × Text) (rest : Text) :
    writtenNote p ++ rest =
      .char '\x60' :: (p.1 ++ .char '\x60' ::
        (" = ".text ++ .char '\x60' :: (p.2 ++ .char '\x60' :: rest))) := by
  simp [writtenNote]

/-- A footnote is read back, whatever stands behind it. -/
theorem footnote_writtenNote (h : IsNote p) (before : Option CodePoint) (rest : Text) :
    footnote before (writtenNote p ++ rest) = some (p, rest) := by
  -- the pieces of the pattern read the pieces of the note one after another
  have hname : parameterName (p.1 ++ .char '\x60' :: (" = ".text ++ .char '\x60' ::
      (p.2 ++ .char '\x60' :: rest))) =
        some (p.1, .char '\x60' :: (" = ".text ++ .char '\x60' :: (p.2 ++ .char '\x60' :: rest))) :=
    parameterName_eq_some_iff.mpr ⟨h.name, rfl, rfl⟩
  have hvalue := Text.span_ne_append h.noBacktick rest
  have hfilled : p.2.isEmpty = false := List.isEmpty_eq_false_iff.mpr h.filled
  have htick : ∀ r : Text, Text.after? [.char '\x60'] (.char '\x60' :: r) = some r := fun _ => rfl
  have hequals : ∀ r : Text,
      Text.after? [.char '='] (Text.trimLeft (" = ".text ++ .char '\x60' :: r)) =
        some (.char ' ' :: .char '\x60' :: r) := fun _ => rfl
  have hspace : ∀ r : Text,
      Text.trimLeft (.char ' ' :: .char '\x60' :: r) = .char '\x60' :: r := fun _ => rfl
  rw [writtenNote_append, footnote_eq]
  simp only [htick, hname, hequals, hspace, hvalue, hfilled, h.trimmed, Option.bind_some]
  rfl

/-! ## Where no footnote is read -/

/-- A footnote begins with a backtick. -/
theorem footnote_of_not_backtick {c : CodePoint} (hc : c ≠ '\x60') (r : Text) :
    footnote before (c :: r) = none := by
  rw [footnote_eq]
  simp [Text.after?, Ne.symm hc]

/-- No footnote begins at a backtick when no name stands between it and the next one, or no equals
sign behind that. -/
theorem footnote_eq_none
    (h : ∀ name w, IsParameter name → u = name ++ .char '\x60' :: w →
      (Text.trimLeft w).head? ≠ some (.char '=')) :
    footnote before (.char '\x60' :: u) = none := by
  have htick : Text.after? [.char '\x60'] (.char '\x60' :: u) = some u := rfl
  rw [footnote_eq, htick, Option.bind_some, Option.bind_eq_none_iff]
  -- the parts are read one after the other, and the sign is the last one that is certain to be
  -- missed
  rintro ⟨name, r⟩ hname
  obtain ⟨hparameter, rfl, -⟩ := parameterName_eq_some_iff.mp hname
  rw [Option.bind_eq_none_iff]
  intro w hw
  rw [Text.after?_eq_some_iff] at hw
  subst hw
  rw [Option.bind_eq_none_iff]
  intro r hr
  rw [Text.after?_eq_some_iff] at hr
  have hhead := h name w hparameter rfl
  rw [hr] at hhead
  exact absurd rfl hhead

/-- Without backticks no footnote is read. -/
theorem silent_of_not_mem (ht : .char '\x60' ∉ t) (before : Option CodePoint) (rest : Text) :
    Pattern.Silent footnote before t rest := by
  refine Pattern.silent_of_forall_mem ?_
  rintro c hc before r
  refine footnote_of_not_backtick ?_ r
  rintro rfl
  exact ht hc

/-- At the first two backticks of a fence no footnote is read. -/
theorem silent_footnote_fence (h : footnote (some (.char '\x60')) (.char '\x60' :: u) = none)
    (before : Option CodePoint) : Pattern.Silent footnote before fence u := by
  have hdouble : ∀ before (r : Text),
      footnote before (.char '\x60' :: .char '\x60' :: r) = none := by
    intro before r
    refine footnote_eq_none ?_
    rintro name w ⟨c, more, rfl, hc, -⟩ hplace
    rw [← (List.cons.inj hplace).1] at hc
    exact absurd hc (by decide)
  have hfence : fence = [.char '\x60', .char '\x60', .char '\x60'] := rfl
  rw [hfence, Pattern.silent_cons_iff, Pattern.silent_cons_iff, Pattern.silent_cons_iff]
  exact ⟨hdouble _ _, hdouble _ _, h, Pattern.silent_nil _ _ _⟩

/-- A text is cut at its first backtick in one way only. -/
theorem eq_of_append_backtick (ht : .char '\x60' ∉ t) (hu : .char '\x60' ∉ u)
    (h : t ++ .char '\x60' :: w = u ++ .char '\x60' :: rest) : t = u ∧ w = rest := by
  have hcut := Text.span_ne_append ht w
  rw [h, Text.span_ne_append hu, Prod.mk.injEq, List.cons.injEq] at hcut
  exact ⟨hcut.1.symm, hcut.2.2.symm⟩

/-- Before a code block without backticks no footnote is read at its fence. -/
theorem silent_opening (ht : .char '\x60' ∉ t) (before : Option CodePoint) (u : Text) :
    Pattern.Silent footnote before fence (t ++ (fence ++ u)) := by
  refine silent_footnote_fence (footnote_eq_none ?_) before
  intro name w hname hplace
  -- the next backtick is the first one of the closing fence, and another one follows it
  have hcut := eq_of_append_backtick (w := .char '\x60' :: .char '\x60' :: u) ht
    (hname.not_mem (by decide)) hplace
  have htick : isBlank '\x60' = false := by decide
  rw [← hcut.2, Text.trimLeft_cons_of_not_isBlank htick, List.head?_cons]
  decide

/-- Footnotes begin with the first one. -/
theorem exists_noteList_cons (p : Text × Text) (notes : Bindings) :
    ∃ more, noteList (p :: notes) = writtenNote p ++ more := by
  cases notes with
  | nil => exact ⟨[], by rw [List.append_nil]; exact TypeText.join_singleton _⟩
  | cons q notes => exact ⟨_, TypeText.join_cons_cons _ _ _⟩

/-- Behind a code block no footnote is read at its fence. -/
theorem silent_closing (hnotes : ∀ p ∈ notes, IsNote p) (hgap : .char '\x60' ∉ gap)
    (hrest : .char '\x60' ∉ rest) (before : Option CodePoint) :
    Pattern.Silent footnote before fence (gap ++ (noteList notes ++ rest)) := by
  refine silent_footnote_fence (footnote_eq_none ?_) before
  intro name w hname hplace
  cases notes with
  | nil =>
    have hmem : .char '\x60' ∈ gap ++ rest := by
      change gap ++ rest = _ at hplace
      rw [hplace]
      exact List.mem_append_right name List.mem_cons_self
    rw [List.mem_append] at hmem
    exact absurd hmem (not_or.mpr ⟨hgap, hrest⟩)
  | cons p more =>
    -- the next backtick is the first one of the first footnote, and its name follows it
    obtain ⟨c, r, hshape, hc, -⟩ := (hnotes p List.mem_cons_self).name
    obtain ⟨behind, hlist⟩ := exists_noteList_cons p more
    rw [hlist, List.append_assoc, writtenNote_append, hshape] at hplace
    have hcut := eq_of_append_backtick hgap (hname.not_mem (by decide)) hplace
    have hink : isBlank c = false :=
      Text.isBlank_of_isIdent (by simp [Text.isIdent, hc])
    rw [← hcut.2, List.cons_append, Text.trimLeft_cons_of_not_isBlank hink, List.head?_cons]
    rintro ⟨⟩
    exact absurd hc (by decide)

/-- Footnotes are found one after the other. -/
theorem findFrom_noteList (hnotes : ∀ p ∈ notes, IsNote p) (hrest : .char '\x60' ∉ rest)
    (before : Option CodePoint) :
    Pattern.findFrom footnote 0 before (noteList notes ++ rest) = notes := by
  -- behind the last note there is no backtick, so nothing is found there
  have hend : ∀ before, Pattern.findFrom footnote 0 before rest = [] := fun before =>
    Pattern.findFrom_eq_nil (silent_of_not_mem hrest before [])
  have hwritten : ∀ p : Text × Text, writtenNote p ≠ [] := fun p => List.cons_ne_nil _ _
  -- one match per note; the commas between them match nothing
  induction notes generalizing before with
  | nil => exact hend before
  | cons p more ih =>
    obtain ⟨hp, hmore⟩ := List.forall_mem_cons.mp hnotes
    rw [noteList, List.map_cons]
    cases more with
    | nil =>
      rw [List.map_nil, TypeText.join_singleton,
        Pattern.findFrom_of_match (hwritten p) (footnote_writtenNote hp before rest), hend]
    | cons q more =>
      have hcomma : .char '\x60' ∉ [CodePoint.char ',', .char ' '] := by decide
      rw [List.map_cons, TypeText.join_cons_cons, List.append_assoc,
        Pattern.findFrom_of_match (hwritten p) (footnote_writtenNote hp before _)]
      change p :: Pattern.findFrom footnote 0 _
        ([.char ',', .char ' '] ++ (noteList (q :: more) ++ rest)) = _
      rw [Pattern.findFrom_of_silent (silent_of_not_mem hcomma _ _), ih hmore]

/-! ## Hovers with footnotes -/

/-- A hover with a code block, and footnotes in the prose behind it. -/
def notedHover (front info body gap : Text) (notes : Bindings) (rest : Text) : Text :=
  hoverText front [⟨info, body, gap ++ (noteList notes ++ rest)⟩]

/-- The footnotes of a hover are read back, and nothing else of it is one. -/
theorem footnotes_notedHover (hnotes : ∀ p ∈ notes, IsNote p)
    (hnames : (notes.map Prod.fst).Nodup) (hfront : .char '\x60' ∉ front)
    (hinfo : .char '\x60' ∉ info) (hbody : .char '\x60' ∉ body) (hgap : .char '\x60' ∉ gap)
    (hrest : .char '\x60' ∉ rest) :
    footnotes (notedHover front info body gap notes rest) = notes := by
  have hblock : .char '\x60' ∉ info ++ .char '\n' :: (body ++ [.char '\n']) := by
    simp [hinfo, hbody]
  have htext : notedHover front info body gap notes rest =
      front ++ (fence ++ ((info ++ .char '\n' :: (body ++ [.char '\n'])) ++
        (fence ++ (gap ++ (noteList notes ++ rest))))) := by
    rw [notedHover, hoverText_cons, hoverText_nil, fenced_append]
    simp
  unfold footnotes Pattern.findAll
  -- in front of the list nothing is read: the prose, the two fences, the block and the gap
  rw [htext, Pattern.findFrom_of_silent (silent_of_not_mem hfront _ _),
    Pattern.findFrom_of_silent (silent_opening hblock _ _),
    Pattern.findFrom_of_silent (silent_of_not_mem hblock _ _),
    Pattern.findFrom_of_silent (silent_closing hnotes hgap hrest _),
    Pattern.findFrom_of_silent (silent_of_not_mem hgap _ _), findFrom_noteList hnotes hrest,
    ofList_of_nodup hnames]

/-! ## The code block -/

/-- No two backticks stand side by side. -/
def Spaced (t : Text) : Prop := ¬ [.char '\x60', .char '\x60'] <:+: t

/-- Two backticks side by side begin at the first character, or they stand behind it. -/
theorem spaced_cons_iff {c : CodePoint} :
    Spaced (c :: t) ↔ (c = '\x60' → t.head? ≠ some (.char '\x60')) ∧ Spaced t := by
  unfold Spaced
  rw [List.infix_cons_iff, not_or]
  refine and_congr_left fun _ => ?_
  cases t with
  | nil => simp
  | cons x r => simp [List.cons_prefix_cons, eq_comm]

theorem Spaced.unfenced (h : Spaced t) : Unfenced t := by
  intro hwithin
  exact h (List.IsInfix.trans ⟨[], [.char '\x60'], rfl⟩ hwithin)

/-- A text without backticks puts none side by side. -/
theorem spaced_append (ht : .char '\x60' ∉ t) : Spaced (t ++ u) ↔ Spaced u := by
  induction t with
  | nil => exact Iff.rfl
  | cons c r ih =>
    rw [List.mem_cons, not_or] at ht
    rw [List.cons_append, spaced_cons_iff, ih ht.2]
    exact and_iff_right fun hc => absurd hc.symm ht.1

theorem spaced_of_not_mem (ht : .char '\x60' ∉ t) : Spaced t := by
  rw [← List.append_nil t, spaced_append ht]
  simp [Spaced]

/-- A text without backticks does not begin with one, whatever follows it. -/
theorem head?_ne_backtick (hne : t ≠ []) (ht : .char '\x60' ∉ t) (u : Text) :
    (t ++ u).head? ≠ some (.char '\x60') := by
  rw [List.head?_append, List.head?_eq_some_head hne, Option.some_or]
  intro hhead
  rw [Option.some.injEq] at hhead
  rw [← hhead] at ht
  exact ht (List.head_mem hne)

/-- The name, the sign and the value of a footnote part its backticks. -/
theorem spaced_writtenNote (hp : IsNote p) (hu : Spaced u) (hhead : u.head? ≠ some (.char '\x60')) :
    Spaced (writtenNote p ++ u) := by
  have hname : .char '\x60' ∉ p.1 := hp.name.not_mem (by decide)
  have hne : p.1 ≠ [] := by
    obtain ⟨c, r, hshape, -⟩ := hp.name
    rw [hshape]
    exact List.cons_ne_nil c r
  have hsign : .char '\x60' ∉ " = ".text := by decide
  rw [writtenNote_append, spaced_cons_iff, spaced_append hname, spaced_cons_iff,
    spaced_append hsign, spaced_cons_iff, spaced_append hp.noBacktick, spaced_cons_iff]
  exact ⟨fun _ => head?_ne_backtick hne hname _, fun _ => head?_ne_backtick (by decide) hsign _,
    fun _ => head?_ne_backtick hp.filled hp.noBacktick _, fun _ => hhead, hu⟩

/-- No fence stands in a list of footnotes. -/
theorem spaced_noteList (hnotes : ∀ p ∈ notes, IsNote p) (hrest : .char '\x60' ∉ rest) :
    Spaced (noteList notes ++ rest) := by
  have hspaced : Spaced rest := spaced_of_not_mem hrest
  have hhead : rest.head? ≠ some (.char '\x60') := fun h => hrest (List.mem_of_head? h)
  -- from the back: a note is spaced if what follows it is, and a comma starts what follows
  induction notes with
  | nil => exact hspaced
  | cons p more ih =>
    obtain ⟨hp, hmore⟩ := List.forall_mem_cons.mp hnotes
    rw [noteList, List.map_cons]
    cases more with
    | nil =>
      rw [List.map_nil, TypeText.join_singleton]
      exact spaced_writtenNote hp hspaced hhead
    | cons q more =>
      have hcomma : .char '\x60' ∉ [CodePoint.char ',', .char ' '] := by decide
      have hlist : Spaced ([.char ',', .char ' '] ++ (noteList (q :: more) ++ rest)) :=
        (spaced_append hcomma).mpr (ih hmore)
      rw [List.map_cons, TypeText.join_cons_cons, List.append_assoc]
      exact spaced_writtenNote hp hlist (head?_ne_backtick (by decide) hcomma _)

/-- The one block of a hover with footnotes is found, and no footnote is taken for another one. -/
theorem codeBlocks_notedHover (hnotes : ∀ p ∈ notes, IsNote p) (hfront : .char '\x60' ∉ front)
    (hinfo : NamesLanguage info) (hbody : .char '\x60' ∉ body) (hgap : .char '\x60' ∉ gap)
    (hrest : .char '\x60' ∉ rest) :
    codeBlocks (notedHover front info body gap notes rest) = [Text.trim body] := by
  have hprose : Unfenced (gap ++ (noteList notes ++ rest)) :=
    ((spaced_append hgap).mpr (spaced_noteList hnotes hrest)).unfenced
  have hbreak : .char '\n' ∉ info := hinfo.not_mem (by decide) (by decide) (by decide)
  have hticks : .char '\x60' ∉ info := hinfo.not_mem (by decide) (by decide) (by decide)
  refine codeBlocks_hoverText (unfenced_of_not_mem hfront) ?_ ?_
  · rw [List.forall_mem_singleton]
    exact ⟨hbreak, hticks, unfenced_of_not_mem hbody, hprose⟩
  · rw [List.forall_mem_singleton]
    exact hinfo

/-! ## The return type -/

/-- The text of a return type that nothing cuts off. -/
structure PlainType (t : Text) : Prop where
  filled : Text.allBlank t = false
  closed : Leads .top none t .top
  unmarked : ∀ c ∈ t, isMark c = false
  noWhere : ¬ "where".text <:+: t
  notSelf : Text.collapse t ≠ "Self".text

/-- What may stand behind a return type: nothing, or a mark that ends it, behind blanks. -/
def Closing (tail : Text) : Prop :=
  tail = [] ∨ ∃ blanks c more, tail = blanks ++ c :: more ∧ (∀ x ∈ blanks, isBlank x = true) ∧
    isMark c = true

/-- A code block with the signature of a method, which returns a type and has no where clause. -/
structure Returns (block type : Text) : Prop where
  shape : ∃ lead tail, block = lead ++ ("->".text ++ (type ++ tail)) ∧ Lead lead ∧ Closing tail
  type : PlainType type
  noClause : whereClause block = []

variable {type tail block content : Text}

/-- What stands behind a return type is no part of the word `where`. -/
theorem Closing.head? (h : Closing tail) : ∀ c ∈ tail.head?, c ∉ "where".text := by
  have hletters : "where".text.all (fun x => !isBlank x && !isMark x) = true := by decide
  rintro x hx hmem
  have hletter := List.all_eq_true.mp hletters x hmem
  rw [Bool.and_eq_true, Bool.not_eq_true', Bool.not_eq_true'] at hletter
  obtain ⟨hink, hunmarked⟩ := hletter
  -- the tail starts with a blank or with a mark, and no letter of `where` is either
  rcases h with rfl | ⟨blanks, c, more, rfl, hblanks, hc⟩
  · cases hx
  · cases blanks with
    | nil =>
      obtain rfl := Option.some.inj hx
      rw [hc] at hunmarked
      cases hunmarked
    | cons y blanks =>
      obtain rfl := Option.some.inj hx
      rw [hblanks y List.mem_cons_self] at hink
      cases hink

/-- A plain type is passed over, whatever may stand behind it. -/
theorem PlainType.unended (h : PlainType type) (htail : Closing tail) (before : Option CodePoint) :
    Unended endsType .top before type tail := by
  intro front c back htype _
  have hmark : isMark c = false :=
    h.unmarked c (by rw [htype]; exact List.mem_append_right front List.mem_cons_self)
  have hnone : Text.after? "where".text (c :: (back ++ tail)) = none := by
    rw [Option.eq_none_iff_forall_ne_some]
    intro rest hrest
    rw [Text.after?_eq_some_iff] at hrest
    -- what stands behind begins with no letter of the word, so the word would end within the type
    have hprefix : "where".text <+: c :: back := by
      have hlong : "where".text <+: c :: back ++ tail := ⟨rest, hrest.symm⟩
      cases tail with
      | nil => rwa [List.append_nil] at hlong
      | cons x more => exact prefix_of_prefix_append (htail.head? x rfl) hlong
    apply h.noWhere
    rw [htype]
    exact hprefix.isInfix.trans (List.suffix_append front _).isInfix
  unfold endsType
  rw [hnone, Bool.or_false]
  exact hmark

theorem endsType_of_isMark {c : CodePoint} (hc : isMark c = true) (before : Option CodePoint)
    (r : Text) : endsType before (c :: r) = true :=
  Bool.or_eq_true_iff.mpr (Or.inl hc)

/-- Of what stands behind a return type nothing but blanks is read. -/
theorem Closing.read (h : Closing tail) (before : Option CodePoint) :
    ∀ c ∈ (Depth.untilTop endsType .top before tail).1, isBlank c = true := by
  rcases h with rfl | ⟨blanks, c, more, rfl, hblanks, hc⟩
  · exact List.forall_mem_nil _
  · exact untilTop_blanks blanks hblanks (endsType_of_isMark hc _ more)

/-- The whole type is read from its block. -/
theorem Returns.value_returnType (h : Returns block type) :
    (returnType block).value = some (Text.collapse type) := by
  obtain ⟨lead, tail, rfl, hlead, htail⟩ := h.shape
  have hends := (h.type.closed.behind rfl (some (.char '>'))).ends
  have hread := Depth.untilTop_append_of_unended (h.type.unended htail (some (.char '>')))
  have hfilled : (Text.collapse type).isEmpty = false :=
    List.isEmpty_eq_false_iff.mpr (Text.collapse_ne_nil h.type.filled)
  rw [hends] at hread
  rw [Hover.value_returnType hlead, hread, Text.collapse_append_blanks (htail.read _), hfilled]
  rfl

/-- Without a where clause footnotes are all that a type is made concrete by. -/
theorem concrete_of_noClause (hclause : whereClause block = []) (hself : t ≠ "Self".text) :
    concrete notes content block t = substitute notes t := by
  have hassociated : resolveAssociated notes [] t = t := by
    unfold resolveAssociated
    split <;> rfl
  have hresolve : (resolveSelf notes block content t).value = t := by
    unfold resolveSelf
    rw [if_neg fun h => hself h.1]
    rfl
  have hbounds : locationBound.findAll [] = [] := rfl
  unfold concrete
  simp only [hclause, hassociated, hresolve, hbounds]
  rfl

/-- Of bindings that are in another order the same is put into a type. -/
theorem replaceRuns_of_perm (hnames : (pairs.map Prod.fst).Nodup) (horder : notes.Perm pairs)
    (t : Text) : replaceRuns notes t = replaceRuns pairs t := by
  have hnotes : (notes.map Prod.fst).Nodup := (horder.map Prod.fst).nodup_iff.mpr hnames
  have hlookup : ∀ n, notes.lookup n = pairs.lookup n := by
    intro n
    refine Option.ext fun value => ?_
    rw [Lookup.eq_some_iff_mem hnotes, Lookup.eq_some_iff_mem hnames, horder.mem_iff]
  unfold replaceRuns
  simp only [hlookup]

/-- Footnotes are read back in any order, and all of them are put into the return type at once. -/
theorem methodType_notedHover (hnames : (pairs.map Prod.fst).Nodup)
    (hpairs : ∀ p ∈ pairs, IsNote p) (horder : notes.Perm pairs) (hfront : .char '\x60' ∉ front)
    (hinfo : NamesLanguage info) (hbody : .char '\x60' ∉ body) (hgap : .char '\x60' ∉ gap)
    (hrest : .char '\x60' ∉ rest) (hreturns : Returns (Text.trim body) type) :
    (footnotes (notedHover front info body gap notes rest)).Perm pairs ∧
      (methodType (notedHover front info body gap notes rest)).value =
        some (replaceRuns pairs (Text.collapse type)) := by
  have hnotes : ∀ p ∈ notes, IsNote p := fun p hp => hpairs p (horder.mem_iff.mp hp)
  have hunique : (notes.map Prod.fst).Nodup := (horder.map Prod.fst).nodup_iff.mpr hnames
  have hticks : .char '\x60' ∉ info := hinfo.not_mem (by decide) (by decide) (by decide)
  -- the footnotes are read in the order they stand in, and the block is the only one
  have hread := footnotes_notedHover hnotes hunique hfront hticks hbody hgap hrest
  have hblocks := codeBlocks_notedHover hnotes hfront hinfo hbody hgap hrest
  have hcapital : ∀ p ∈ notes, p.1.head?.any isAsciiCapital = true := by
    intro p hp
    obtain ⟨c, r, hshape, hc, -⟩ := (hnotes p hp).name
    rw [hshape]
    exact hc
  refine ⟨by rwa [hread], ?_⟩
  have hfirst : FirstTyped (notedHover front info body gap notes rest) (Text.trim body) :=
    ⟨[], [], hblocks, List.forall_mem_nil _⟩
  -- with no clause and no `Self` the type is only substituted, all names at once
  rw [value_methodType hfirst hreturns.value_returnType, hread,
    concrete_of_noClause hreturns.noClause hreturns.type.notSelf,
    substitute_eq_replaceRuns hcapital, replaceRuns_of_perm hnames horder]

/-- Footnotes of which the first two name each other. -/
def swapPairs : Bindings :=
  [("T".text, "Option<U>".text), ("U".text, "T".text),
    ("L".text, "Tick<Process<'a, Leader>>".text)]

/-- A type with two blanks in a row. -/
def swapType : Text := " Stream<T,  U, L>".text

/-- A signature with the type, in front of the brace of a body. -/
def swapBody : Text := "pub fn swap(self) -> Stream<T,  U, L> \x7b".text

/-- The hover of the method, with its footnotes in the opposite order. -/
def swapHover : Text :=
  notedHover [] "rust".text swapBody "\n---\n".text swapPairs.reverse "\n".text

/-- The values of two type parameters name each other. -/
theorem methodType_notedHover_swap :
    (swapPairs.map Prod.fst).Nodup ∧ (∀ p ∈ swapPairs, IsNote p) ∧
      NamesLanguage "rust".text ∧ Returns (Text.trim swapBody) swapType ∧
      (footnotes swapHover).Perm swapPairs ∧
      (methodType swapHover).value =
        some "Stream<Option<U>, T, Tick<Process<'a, Leader>>>".text := by
  have hnames : (swapPairs.map Prod.fst).Nodup := by decide
  have hpairs : ∀ p ∈ swapPairs, IsNote p := by decide +kernel
  have hinfo : NamesLanguage "rust".text := namesLanguage_iff.mpr (by decide)
  -- the shape of the written signature, one condition after the other
  have hlead : Lead "pub fn swap(self) ".text :=
    ⟨by decide +kernel, Text.forall_cuts_iff.mpr (by decide +kernel)⟩
  have hclosing : Closing " \x7b".text :=
    Or.inr ⟨[.char ' '], .char '{', [], rfl, List.all_eq_true.mp (by decide), rfl⟩
  have hunmarked : ∀ c ∈ swapType, isMark c = false := fun c hc =>
    Bool.eq_false_iff.mpr (List.any_eq_false.mp (by decide) c hc)
  have hreturns : Returns (Text.trim swapBody) swapType :=
    ⟨⟨_, _, by decide +kernel, hlead, hclosing⟩,
      ⟨by decide, by decide, hunmarked, by decide +kernel, by decide +kernel⟩, by decide +kernel⟩
  have hread : (footnotes swapHover).Perm swapPairs ∧ (methodType swapHover).value =
      some (replaceRuns swapPairs (Text.collapse swapType)) :=
    methodType_notedHover hnames hpairs swapPairs.reverse_perm List.not_mem_nil hinfo
      (by decide) (by decide) (by decide) hreturns
  -- `T` and `U` stand in the values of each other: filled in one after the other they would give
  -- another type
  have hvalue : replaceRuns swapPairs (Text.collapse swapType) =
      "Stream<Option<U>, T, Tick<Process<'a, Leader>>>".text := by decide +kernel
  rw [hvalue] at hread
  exact ⟨hnames, hpairs, hinfo, hreturns, hread⟩

end Placement.Hover
