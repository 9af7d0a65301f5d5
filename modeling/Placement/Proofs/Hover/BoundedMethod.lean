import Placement.Proofs.Hover.CodeBody
import Placement.Proofs.Hover.Declaration
import Placement.Proofs.Hover.Footnotes
import Placement.Proofs.Hover.WhereClause

/-!
# Placement.Proofs.Hover.BoundedMethod — return types with location bounds

The where clause of a signature says which names are replaced, and in which order
(`value_methodType_text`). So hovers that say the same about these names (`Shows`) give
one return type for all orders of the bounds when no name is captured, and another one
for some order when one is (`methodType_bounds`).

A hover with all of its bindings and footnotes behind the code block says the same
whatever the order of the bounds is (`shows_fill`).
-/

namespace Placement.Hover

open Text (IsWord Pattern isBlank isWord)

variable {t u content : Text} {before : Option CodePoint}
variable {b : Bound} {bounds order : List Bound} {f : Frame}

/-! ## What a hover says -/

/-- What a hover says about the names in a signature: by its footnotes, in the header of the impl,
which stands for `Self`, and by the bindings in its text. -/
structure Facts where
  notes : Bindings
  header : Option Text
  bound : Text → Option Text

/-- The hover has a signature with these bounds, and says this about it. -/
structure Shows (content : Text) (f : Frame) (bounds : List Bound) (facts : Facts) : Prop where
  first : FirstTyped content (f.text bounds)
  notes : footnotes content = facts.notes
  header : Text.collapse (readType f.type) = "Self".text →
    (selfType (f.text bounds) content).value = facts.header
  bound : ∀ b ∈ bounds, (metadata content).value.get? b.name = facts.bound b.name

/-- The return type of a signature before the names of bounds are replaced: `Self` is resolved and
the footnotes are put in. -/
def openedType (facts : Facts) (type : Text) : Text :=
  let written := Text.collapse (readType type)
  substitute facts.notes
    (if written = "Self".text ∧ facts.notes.get? written = none then facts.header.getD written
      else written)

variable {facts : Facts}

/-- Each name of a well-formed bound is a word. -/
theorem isWord_of_mem_names (hbounds : ∀ b ∈ bounds, b.WellFormed) :
    ∀ name ∈ bounds.map Bound.name, IsWord name := by
  intro name hname
  obtain ⟨b, hb, rfl⟩ := List.mem_map.mp hname
  exact (hbounds b hb).name

/-- A where clause of simple bounds names no associated location, so nothing is resolved through it.
-/
theorem resolveAssociated_boundList (hbounds : ∀ b ∈ bounds, b.WellFormed)
    {tail : Text} (htail : ∀ c ∈ tail, c = ',') (notes : Bindings) (t : Text) :
    resolveAssociated notes (boundList bounds tail) t = t := by
  unfold resolveAssociated
  rw [find?_associatedLocation hbounds htail]
  split <;> rfl

/-- What `Self` stands for is all that the header adds, and only where no footnote gives it a value.
-/
theorem value_resolveSelf (hshows : Shows content f bounds facts) :
    (resolveSelf facts.notes (f.text bounds) content (Text.collapse (readType f.type))).value =
      if Text.collapse (readType f.type) = "Self".text ∧
          facts.notes.get? (Text.collapse (readType f.type)) = none then
        facts.header.getD (Text.collapse (readType f.type))
      else Text.collapse (readType f.type) := by
  unfold resolveSelf
  split
  · rename_i hbare
    rw [Logged.value_bind, hshows.header hbare.1]
    rfl
  · rfl

/-- Of a where clause nothing but the names of its bounds concerns the type. -/
theorem value_methodType_text (hf : f.WellFormed) (hbounds : ∀ b ∈ bounds, b.WellFormed)
    (hshows : Shows content f bounds facts) :
    (methodType content).value =
      some (inTurn facts.bound (bounds.map Bound.name) (openedType facts f.type)) := by
  -- the names are found in the order in which the bounds are written, which is why the order
  -- matters
  have hfound : locationBound.findAll (boundList bounds f.tail) = bounds.map Bound.name :=
    findFrom_boundList hbounds hf.tail none
  have hbound : ∀ name ∈ bounds.map Bound.name,
      (metadata content).value.get? name = facts.bound name := by
    intro name hname
    obtain ⟨b, hb, rfl⟩ := List.mem_map.mp hname
    exact hshows.bound b hb
  rw [value_methodType hshows.first (value_returnType_text hf hbounds), hshows.notes, concrete]
  simp only [whereClause_text hf hbounds, resolveAssociated_boundList hbounds hf.tail, hfound,
    value_resolveSelf hshows]
  rw [value_substituteBounds (isWord_of_mem_names hbounds) rfl, inTurn_congr hbound]
  rfl

/-! ## Orders of the bounds -/

/-- Two elements of a list can be brought to its end. -/
theorem exists_perm_pair {α : Type} {xs : List α} {x y : α} (hx : x ∈ xs) (hy : y ∈ xs)
    (hne : x ≠ y) : ∃ others, (others ++ [x, y]).Perm xs := by
  obtain ⟨front, back, rfl⟩ := List.append_of_mem hx
  have hrest : y ∈ front ++ back := by
    rcases List.mem_append.mp hy with hy | hy
    · exact List.mem_append_left back hy
    · exact List.mem_append_right front ((List.mem_cons.mp hy).resolve_left hne.symm)
  obtain ⟨front', back', hsplit⟩ := List.append_of_mem hrest
  -- the first one goes to the end behind the second one
  refine ⟨front' ++ back', ?_⟩
  have hend : (front' ++ back' ++ [x, y]).Perm (x :: y :: (front' ++ back')) :=
    List.perm_append_comm
  have hsecond : (x :: y :: (front' ++ back')).Perm (x :: (front ++ back)) := by
    rw [hsplit]
    exact List.perm_middle.symm.cons x
  exact (hend.trans hsecond).trans List.perm_middle.symm

/-- With no name captured in the value of another one, the return type is the same for all orders of
the bounds. Where a name is captured, another order gives another type, unless the values of the two
names mention both of them. -/
theorem methodType_bounds {hover : List Bound → Text} (hf : f.WellFormed)
    (hbounds : ∀ b ∈ bounds, b.WellFormed) (hnames : (bounds.map Bound.name).Nodup)
    (hshows : ∀ order, order.Perm bounds → Shows (hover order) f order facts) :
    (Uncaptured facts.bound (bounds.map Bound.name) (openedType facts f.type) →
        ∀ order, order.Perm bounds →
          (methodType (hover order)).value = (methodType (hover bounds)).value) ∧
      ∀ n ∈ bounds.map Bound.name, ∀ m ∈ bounds.map Bound.name, n ≠ m →
        Captured facts.bound (openedType facts f.type) n m → ¬ Entangled facts.bound n m →
        ∃ order, order.Perm bounds ∧
          (methodType (hover order)).value ≠ (methodType (hover bounds)).value := by
  have hwords := isWord_of_mem_names hbounds
  have hvalue : ∀ order, order.Perm bounds → (methodType (hover order)).value =
      some (inTurn facts.bound (order.map Bound.name) (openedType facts f.type)) :=
    fun order horder => value_methodType_text hf (fun b hb => hbounds b (horder.mem_iff.mp hb))
      (hshows order horder)
  constructor
  · intro hfree order horder
    rw [hvalue order horder, hvalue bounds (List.Perm.refl bounds),
      inTurn_of_perm hwords hnames hfree (horder.map Bound.name)]
  · intro n hn m hm hne hcaptured hfree
    obtain ⟨b, hb, rfl⟩ := List.mem_map.mp hn
    obtain ⟨b', hb', rfl⟩ := List.mem_map.mp hm
    obtain ⟨others, horder⟩ := exists_perm_pair hb hb' fun hsame => hne (by rw [hsame])
    have hswap : (others ++ [b', b]).Perm bounds :=
      ((List.Perm.swap b b' []).append_left others).trans horder
    have hothers : ∀ k ∈ others.map Bound.name, IsWord k :=
      isWord_of_mem_names fun k hk => hbounds k (horder.mem_iff.mp (List.mem_append_left _ hk))
    have hnew : b.name ∉ others.map Bound.name := by
      have hdistinct := (horder.map Bound.name).nodup_iff.mpr hnames
      rw [List.map_append, List.nodup_append] at hdistinct
      exact fun hmem => hdistinct.2.2 _ hmem b.name List.mem_cons_self rfl
    -- the two orders differ in their last two names only, and give different types
    have hdiffers := inTurn_swap_ne hothers (hwords _ hn) (hwords _ hm) hne hnew hcaptured hfree
    -- of two orders with different results one has another result than the bounds as they stand
    by_contra hsame
    have hall : ∀ order, order.Perm bounds →
        (methodType (hover order)).value = (methodType (hover bounds)).value := by
      intro order hperm
      by_contra hno
      exact hsame ⟨order, hperm, hno⟩
    have heq := (hall _ horder).trans (hall _ hswap).symm
    rw [hvalue _ horder, hvalue _ hswap, Option.some_inj, List.map_append, List.map_append] at heq
    exact hdiffers heq

/-! ## Bindings behind the block -/

/-- What a hover says with the text behind its code block. -/
def factsBehind (back : Text) : Facts :=
  ⟨footnotes (.char '\x60' :: back), none,
    fun name => (metadata (.char '\x60' :: back)).value.get? name⟩

/-- In front of a backtick nothing is bound without a sign. -/
theorem bindingsIn_of_no_sign (ht : .char '=' ∉ t) (before : Option CodePoint) (u : Text) :
    bindingsIn before t (.char '\x60' :: u) = [] := by
  have hheads : Pattern.readings bindingHead before t [] = [] := by
    rw [List.eq_nil_iff_forall_not_mem]
    intro head hhead
    obtain ⟨front, sign, rfl, hsign⟩ := exists_of_mem_heads hhead
    obtain ⟨blanks, back, rfl, -⟩ := hsign.shape
    simp at ht
  rw [bindingsIn_eq_heads (endsHead_backtick u), hheads, List.filterMap_nil]

/-- A backtick begins no head, so the search goes on behind it. -/
theorem bindingsIn_backtick (before : Option CodePoint) (u : Text) :
    bindingsIn before (.char '\x60' :: u) [] = bindingsIn (some (.char '\x60')) u [] := by
  have hnone : bindingHead before (.char '\x60' :: (u ++ [])) = none := by
    have hname : parameterName (.char '\x60' :: (u ++ [])) = none := rfl
    rw [bindingHead_eq, hname, Option.bind_none, ite_self]
  rw [bindingsIn, Pattern.readings, hnone]
  rfl

/-- In front of a backtick no footnote is read without a sign, if a backtick stands there too. -/
theorem silent_of_no_sign (ht : .char '=' ∉ t) (hlast : t.getLast? = some (.char '\x60'))
    (before : Option CodePoint) (u : Text) :
    Pattern.Silent footnote before t (.char '\x60' :: u) := by
  intro front c back hplace
  by_cases hc : c = '\x60'
  · subst hc
    refine footnote_eq_none ?_
    intro name w hname hsplit
    have hnoTick : .char '\x60' ∉ name := hname.not_mem (by decide)
    have htick : isBlank '\x60' = false := by decide
    by_cases hmem : .char '\x60' ∈ back
    · -- behind the name there is a part of the text, and no sign in it
      obtain ⟨x, y, rfl, hx⟩ := List.eq_append_cons_of_mem hmem
      rw [List.append_assoc, List.cons_append] at hsplit
      rw [← (eq_of_append_backtick hx hnoTick hsplit).2,
        Text.trimLeft_append (u := .char '\x60' :: u) htick]
      cases htrim : Text.trimLeft y with
      | nil =>
        rw [List.nil_append, List.head?_cons]
        decide
      | cons a r =>
        have hin : a ∈ y := (List.dropWhile_sublist _).subset (htrim ▸ List.mem_cons_self)
        rintro ⟨⟩
        rw [hplace] at ht
        exact ht (by simp [hin])
    · -- the name would go on to the end of the text, which is a backtick
      obtain ⟨rfl, -⟩ := eq_of_append_backtick hmem hnoTick hsplit
      obtain ⟨x, r, rfl, -⟩ := hname
      rw [hplace, List.getLast?_append, List.getLast?_cons_cons,
        List.getLast?_eq_some_getLast (List.cons_ne_nil x r), Option.some_or,
        ← List.getLast?_eq_some_getLast (List.cons_ne_nil x r)] at hlast
      exact absurd (List.mem_of_getLast? hlast) hnoTick
  · exact footnote_of_not_backtick hc _

/-- What stands in a hover in front of the last backtick of the fence behind a code block. -/
def frontOf (s : Surroundings) (body : Text) : Text :=
  s.front ++ (fence ++ (s.info ++ .char '\n' :: (body ++ [.char '\n', .char '\x60', .char '\x60'])))

/-- A hover is cut at the last backtick of the fence behind its code block. -/
theorem fill_eq (s : Surroundings) (body : Text) :
    s.fill body = frontOf s body ++ .char '\x60' :: s.back := by
  rw [Surroundings.fill, fenced_append, frontOf]
  simp only [List.append_assoc, List.cons_append]
  rfl

variable {s : Surroundings} {body : Text}

/-- The footnotes of a hover without equals signs up to the end of its block are those behind it. -/
theorem footnotes_fill (h : .char '=' ∉ frontOf s body) :
    footnotes (s.fill body) = footnotes (.char '\x60' :: s.back) := by
  have hlast : (frontOf s body).getLast? = some (.char '\x60') := by
    simp [frontOf, List.getLast?_append, List.getLast?_cons]
  unfold footnotes Pattern.findAll
  rw [fill_eq, Pattern.findFrom_of_silent (silent_of_no_sign h hlast none s.back)]
  rfl

/-- The bindings of a hover without equals signs up to the end of its block are those behind it. -/
theorem get?_metadata_behind (h : .char '=' ∉ frontOf s body) (name : Text) :
    (metadata (s.fill body)).value.get? name =
      (metadata (.char '\x60' :: s.back)).value.get? name := by
  rw [get?_metadata, get?_metadata, fill_eq, bindingsIn_append, List.append_nil,
    bindingsIn_of_no_sign h, List.nil_append, bindingsIn_backtick, bindingsIn_backtick]

/-- A text without backticks and equals signs. -/
def Quiet (t : Text) : Prop := .char '\x60' ∉ t ∧ .char '=' ∉ t

instance (t : Text) : Decidable (Quiet t) := inferInstanceAs (Decidable (_ ∧ _))

/-- A signature that is a code block as it stands, and that nothing is bound in. -/
structure Frame.BindsNothing (f : Frame) (bounds : List Bound) : Prop where
  lead : Quiet f.lead
  type : Quiet f.type
  rest : ∀ b ∈ bounds, Quiet b.rest
  begins : f.lead.head?.any isBlank = false
  ends : f.tail ≠ []
  notSelf : Text.collapse (readType f.type) ≠ "Self".text

/-- A backtick or an equals sign in a signature is one in a part that was filled in. -/
theorem Frame.WellFormed.not_mem (hf : f.WellFormed) (hbounds : ∀ b ∈ bounds, b.WellFormed)
    {c : CodePoint} (hc : c = '\x60' ∨ c = '=') (hlead : c ∉ f.lead) (htype : c ∉ f.type)
    (hrest : ∀ b ∈ bounds, c ∉ b.rest) : c ∉ f.text bounds := by
  have hink : isBlank c = false := by rcases hc with rfl | rfl <;> decide
  have hword : isWord c = false := by rcases hc with rfl | rfl <;> decide
  have hcomma : c ≠ ',' := by rcases hc with rfl | rfl <;> decide
  have harrow : c ∉ "-> ".text := by rcases hc with rfl | rfl <;> decide
  have hmark : c ∉ ": Location<".text := by rcases hc with rfl | rfl <;> decide
  -- the parts of the frame in turn: what is left to show is about the bounds and the commas behind
  -- them
  rw [Frame.text_eq]
  simp only [List.mem_append, not_or, mem_boundList_iff hcomma]
  refine ⟨⟨hlead, harrow, htype⟩, not_mem_blanks hink hf.gapBlank,
    not_mem_of_isWord isWord_where hword, ?_, ?_⟩
  · rintro ⟨b, hb, hmem⟩
    exact (hbounds b hb).not_mem hink hword hmark (hrest b hb) hmem
  · intro hmem
    exact hcomma (hf.tail c hmem)

/-- A signature that binds nothing has neither backticks nor equals signs. -/
theorem Frame.BindsNothing.quiet (h : f.BindsNothing bounds) (hf : f.WellFormed)
    (hbounds : ∀ b ∈ bounds, b.WellFormed) : Quiet (f.text bounds) :=
  ⟨hf.not_mem hbounds (Or.inl rfl) h.lead.1 h.type.1 fun b hb => (h.rest b hb).1,
    hf.not_mem hbounds (Or.inr rfl) h.lead.2 h.type.2 fun b hb => (h.rest b hb).2⟩

theorem Frame.BindsNothing.perm (h : f.BindsNothing bounds) (horder : order.Perm bounds) :
    f.BindsNothing order :=
  ⟨h.lead, h.type, fun b hb => h.rest b (horder.mem_iff.mp hb), h.begins, h.ends, h.notSelf⟩

/-- No blank stands at the ends of the signature. -/
theorem Frame.BindsNothing.trim (h : f.BindsNothing bounds) (hf : f.WellFormed) :
    Text.trim (f.text bounds) = f.text bounds := by
  have hcomma : isBlank ',' = false := by decide
  rw [Frame.text_eq]
  refine Text.trim_eq_self ?_ ?_
  · have hdash : isBlank '-' = false := by decide
    have hbegins := h.begins
    cases hlead : f.lead with
    | nil => exact hdash
    | cons c r => rwa [hlead] at hbegins
  · have hlast := List.getLast?_eq_some_getLast h.ends
    rw [hf.tail _ (List.getLast_mem h.ends)] at hlast
    simp only [boundList, List.getLast?_append, hlast, Option.some_or]
    exact hcomma

/-- A hover with its bindings and footnotes behind the code block says the same about a signature
whatever the order of the bounds is. -/
theorem shows_fill (hfront : Unfenced s.front) (hsign : .char '=' ∉ s.front)
    (hinfo : NamesLanguage s.info) (hf : f.WellFormed) (hbounds : ∀ b ∈ bounds, b.WellFormed)
    (h : f.BindsNothing bounds) : Shows (s.fill (f.text bounds)) f bounds (factsBehind s.back) := by
  have hquiet := h.quiet hf hbounds
  -- up to the end of the block there is no equals sign, so all that is said stands behind it
  have hnoSign : .char '=' ∉ frontOf s (f.text bounds) := by
    have hfence : .char '=' ∉ fence := by decide
    have hlanguage : .char '=' ∉ s.info := hinfo.not_mem (by decide) (by decide) (by decide)
    simp [frontOf, hsign, hfence, hlanguage, hquiet.2]
  have hfirst := firstBlock_fenced hfront hinfo (unfenced_of_not_mem hquiet.1) s.back
  obtain ⟨more, hblocks⟩ : ∃ more, codeBlocks (s.fill (f.text bounds)) = f.text bounds :: more := by
    obtain ⟨more, hblocks⟩ := List.head?_eq_some_iff.mp hfirst
    rw [h.trim hf] at hblocks
    exact ⟨more, hblocks⟩
  exact ⟨⟨[], more, hblocks, List.forall_mem_nil _⟩, footnotes_fill hnoSign,
    fun hself => absurd hself h.notSelf, fun b _ => get?_metadata_behind hnoSign b.name⟩

/-- The signature of a method that returns a pair of locations. -/
def pairFrame : Frame :=
  ⟨"pub fn pair(self) ".text, "Pair<K, V>".text, "\n".text, ",".text⟩

/-- A bound on a line of its own. -/
def boundLine (name : Text) : Bound := ⟨"\n    ".text, name, "'a>".text⟩

/-- The bounds of the two locations. -/
def pairBounds : List Bound := [boundLine "K".text, boundLine "V".text]

/-- A method that returns a pair, with what is bound to the two locations behind its signature. -/
def pairHover (bindings : Text) (bounds : List Bound) : Text :=
  Surroundings.fill ⟨[], "rust".text, bindings⟩ (pairFrame.text bounds)

/-- The value of neither location mentions the other one. -/
def plainPair : Text := "\nK = Tick<Process<'a, Leader>>, V = Process<'a, Leader>".text

/-- The value of the first location mentions the second one. -/
def nestedPair : Text := "\nK = Tick<V>, V = Process<'a, Leader>".text

/-- The signature is one that is read as it is written. -/
theorem pairFrame_wellFormed : pairFrame.WellFormed where
  lead := ⟨by decide +kernel, Text.forall_cuts_iff.mpr (by decide +kernel)⟩
  closed := by decide
  filled := by decide
  gapFilled := by decide
  gapBlank := List.all_eq_true.mp (by decide)
  tail := fun _ hc => List.mem_singleton.mp hc
  noWhere := by decide +kernel

/-- A bound on a line of its own is well-formed for each name with a capital. -/
theorem boundLine_wellFormed {name : Text} (hname : IsWord name)
    (hcapital : name.head?.any Text.isAsciiCapital = true) : (boundLine name).WellFormed := by
  have hgap : "\n    ".text ≠ [] := by decide
  have hblanks : ("\n    ".text.all isBlank) = true := by decide
  have honce : ¬ "Location".text <:+: "'a>".text := by decide
  have hslash : .char '/' ∉ "'a>".text := by decide
  exact ⟨hgap, List.all_eq_true.mp hblanks, hname, hcapital, honce, hslash⟩

/-- Both bounds are well-formed. -/
theorem pairBounds_wellFormed : ∀ b ∈ pairBounds, b.WellFormed := by
  refine List.forall_mem_cons.mpr ⟨?_, List.forall_mem_singleton.mpr ?_⟩
  · exact boundLine_wellFormed ⟨by decide, List.all_eq_true.mp (by decide)⟩ (by decide)
  · exact boundLine_wellFormed ⟨by decide, List.all_eq_true.mp (by decide)⟩ (by decide)

/-- In all orders of the two bounds the hover says what the text behind its block says. -/
theorem shows_pairHover (bindings : Text) (horder : order.Perm pairBounds) :
    Shows (pairHover bindings order) pairFrame order (factsBehind bindings) := by
  have hnothing : pairFrame.BindsNothing pairBounds :=
    ⟨by decide, by decide, by decide, by decide, by decide, by decide⟩
  have hlead : Unfenced [] := by decide
  have hinfo : NamesLanguage "rust".text := namesLanguage_iff.mpr (by decide)
  exact shows_fill (s := ⟨[], "rust".text, bindings⟩) hlead List.not_mem_nil hinfo
    pairFrame_wellFormed (fun b hb => pairBounds_wellFormed b (horder.mem_iff.mp hb))
    (hnothing.perm horder)

/-- With plain values the two bounds may be swapped, and with a value that mentions the other
location they may not. -/
theorem methodType_bounds_pair :
    pairFrame.WellFormed ∧ (∀ b ∈ pairBounds, b.WellFormed) ∧
      (pairBounds.map Bound.name).Nodup ∧
      (∀ order, order.Perm pairBounds →
        (methodType (pairHover plainPair order)).value =
          (methodType (pairHover plainPair pairBounds)).value) ∧
      ∃ order, order.Perm pairBounds ∧
        (methodType (pairHover nestedPair order)).value ≠
          (methodType (pairHover nestedPair pairBounds)).value := by
  have hnames : (pairBounds.map Bound.name).Nodup := by decide
  have hfree : Uncaptured (factsBehind plainPair).bound (pairBounds.map Bound.name)
      (openedType (factsBehind plainPair) pairFrame.type) := by
    unfold Uncaptured
    decide +kernel
  -- no value mentions a location, so nothing is captured
  have hplain := (methodType_bounds pairFrame_wellFormed pairBounds_wellFormed hnames
    fun order horder => shows_pairHover plainPair horder).1 hfree
  -- the value of the first location mentions the second one, and not the other way
  have hnested := (methodType_bounds pairFrame_wellFormed pairBounds_wellFormed hnames
    fun order horder => shows_pairHover nestedPair horder).2 "K".text (by decide) "V".text
      (by decide) (by decide) (by decide +kernel) (by decide +kernel)
  exact ⟨pairFrame_wellFormed, pairBounds_wellFormed, hnames, hplain, hnested⟩

/-- What is put in for the first location is changed by the second one, but only behind it. -/
theorem order_of_bounds_matters :
    pairFrame.WellFormed ∧ (∀ b ∈ pairBounds, b.WellFormed) ∧
      (pairBounds.map Bound.name).Nodup ∧ pairBounds.reverse.Perm pairBounds ∧
      (methodType (pairHover nestedPair pairBounds)).value =
        some "Pair<Tick<Process<'a, Leader>>, Process<'a, Leader>>".text ∧
      (methodType (pairHover nestedPair pairBounds.reverse)).value =
        some "Pair<Tick<V>, Process<'a, Leader>>".text := by
  have hnames : (pairBounds.map Bound.name).Nodup := by decide
  exact ⟨pairFrame_wellFormed, pairBounds_wellFormed, hnames, pairBounds.reverse_perm,
    by decide +kernel, by decide +kernel⟩

end Placement.Hover
