import Mathlib.Data.List.Induction
import Mathlib.Data.List.Nodup
import Placement.Hover.Binding
import Placement.Proofs.Brackets
import Placement.Proofs.Lookup
import Placement.Proofs.Words

/-!
# Placement.Proofs.Hover.Bindings — which names a hover binds, and to what

Of several bindings of a name the first one is kept (`lookup_ofList`), and no name is
bound twice (`nodup_ofList`).

The head of a binding in plain text is a name and a sign (`bindingHead_eq_some_iff`),
and no head begins inside of another one (`apart_bindingHead`). The search goes on
right behind a head and not behind the value, so that the bindings are those at all
places of the hover, in its code and within values too (`value_metadata`). They may be
taken from the parts of a text one after the other (`bindingsIn_append`). What stands
behind a part has no influence on the heads in it (`readings_bindingHead_append`), but
a value may go on there.
-/

namespace Placement.Hover

open Text (Pattern isBlank isIdent isAsciiCapital)

variable {bs pairs : Bindings} {b : Text × Text} {name value t u rest : Text}
  {before : Option CodePoint}

/-! ## The first binding of a name -/

theorem add_of_mem (h : name ∈ bs.map Prod.fst) (value : Text) : bs.add name value = bs :=
  if_pos (Lookup.isSome_iff.mpr h)

theorem add_of_not_mem (h : name ∉ bs.map Prod.fst) (value : Text) :
    bs.add name value = bs ++ [(name, value)] :=
  if_neg (mt Lookup.isSome_iff.mp h)

/-- Adding a binding shows in a lookup as putting it at the end does. -/
theorem lookup_add (bs : Bindings) (name value n : Text) :
    (bs.add name value).lookup n = (bs ++ [(name, value)]).lookup n := by
  by_cases hname : name ∈ bs.map Prod.fst
  · rw [add_of_mem hname, List.lookup_append]
    cases hn : bs.lookup n with
    | some v => rfl
    | none =>
      -- the name that is bound is another one
      have hne : (n == name) = false := by
        rw [beq_eq_false_iff_ne]
        rintro rfl
        rw [← Lookup.isSome_iff, hn] at hname
        cases hname
      rw [List.lookup_cons, hne]
      rfl
  · rw [add_of_not_mem hname]

theorem ofList_concat (pairs : Bindings) (name value : Text) :
    Bindings.ofList (pairs ++ [(name, value)]) = (Bindings.ofList pairs).add name value :=
  List.foldl_concat _ _ _ _

/-- Of the bindings of a name the first one is kept. -/
theorem lookup_ofList (pairs : Bindings) (n : Text) :
    (Bindings.ofList pairs).lookup n = pairs.lookup n := by
  induction pairs using List.reverseRecOn with
  | nil => rfl
  | append_singleton pairs p ih =>
    rw [ofList_concat, lookup_add, List.lookup_append, ih, ← List.lookup_append]

/-- No name is bound twice. -/
theorem nodup_ofList (pairs : Bindings) : ((Bindings.ofList pairs).map Prod.fst).Nodup := by
  induction pairs using List.reverseRecOn with
  | nil => exact List.nodup_nil
  | append_singleton pairs p ih =>
    rw [ofList_concat]
    by_cases hname : p.1 ∈ (Bindings.ofList pairs).map Prod.fst
    · rwa [add_of_mem hname]
    · rw [add_of_not_mem hname, List.map_append, List.map_singleton, ← List.concat_eq_append]
      exact List.Nodup.concat hname ih

theorem mem_ofList_iff :
    (name, value) ∈ Bindings.ofList pairs ↔ pairs.lookup name = some value := by
  rw [← Lookup.eq_some_iff_mem (nodup_ofList pairs), lookup_ofList]

/-- What stands first for its name is what is bound. -/
theorem mem_ofList_iff_first :
    b ∈ Bindings.ofList pairs ↔
      ∃ front back, pairs = front ++ b :: back ∧ b.1 ∉ front.map Prod.fst := by
  obtain ⟨name, value⟩ := b
  rw [mem_ofList_iff, List.lookup_eq_some_iff]
  simp only [← Lookup.eq_none_iff, List.lookup_eq_none_iff]

/-- What is bound is in another list exactly when what stands first is. -/
theorem forall_mem_ofList_iff {others : Bindings} :
    (∀ b ∈ Bindings.ofList pairs, b ∈ others) ↔
      ∀ front b back, pairs = front ++ b :: back → b.1 ∉ front.map Prod.fst → b ∈ others := by
  constructor
  · intro h front b back hpairs hfirst
    exact h b (mem_ofList_iff_first.mpr ⟨front, back, hpairs, hfirst⟩)
  · intro h b hb
    obtain ⟨front, back, hpairs, hfirst⟩ := mem_ofList_iff_first.mp hb
    exact h front b back hpairs hfirst

/-- Where no name is bound twice, all bindings are kept. -/
theorem ofList_of_nodup (h : (pairs.map Prod.fst).Nodup) : Bindings.ofList pairs = pairs := by
  induction pairs using List.reverseRecOn with
  | nil => rfl
  | append_singleton pairs p ih =>
    rw [List.map_append, List.map_singleton, List.nodup_append] at h
    have hname : p.1 ∉ pairs.map Prod.fst := fun hmem =>
      h.2.2 p.1 hmem p.1 List.mem_cons_self rfl
    rw [ofList_concat, ih h.1, add_of_not_mem hname]

/-! ## Names -/

/-- An identifier that begins with a capital. -/
def IsParameter (name : Text) : Prop :=
  ∃ c r, name = c :: r ∧ isAsciiCapital c = true ∧ ∀ x ∈ r, isIdent x = true

/-- A type parameter is an identifier. -/
theorem IsParameter.isIdent (h : IsParameter name) : ∀ c ∈ name, isIdent c = true := by
  obtain ⟨c, r, rfl, hc, hr⟩ := h
  refine List.forall_mem_cons.mpr ⟨?_, hr⟩
  simp [Text.isIdent, hc]

theorem IsParameter.not_mem (h : IsParameter name) {c : CodePoint} (hc : Text.isIdent c = false) :
    c ∉ name := by
  intro hmem
  rw [h.isIdent c hmem] at hc
  cases hc

instance decidableIsParameter : (name : Text) → Decidable (IsParameter name)
  | [] => .isFalse (by rintro ⟨c, r, h, -⟩; cases h)
  | c :: r =>
    decidable_of_iff (isAsciiCapital c = true ∧ r.all isIdent = true)
      ⟨fun ⟨hc, hr⟩ => ⟨c, r, rfl, hc, List.all_eq_true.mp hr⟩,
        fun ⟨_, _, hname, hc, hr⟩ => by cases hname; exact ⟨hc, List.all_eq_true.mpr hr⟩⟩

theorem parameterName_cons (c : CodePoint) (r : Text) :
    parameterName (c :: r) =
      if isAsciiCapital c = true then some (c :: (r.span isIdent).1, (r.span isIdent).2)
      else none := rfl

/-- A name is read to its end: as far as identifier characters go. -/
theorem parameterName_eq_some_iff :
    parameterName t = some (name, rest) ↔
      IsParameter name ∧ t = name ++ rest ∧ rest.head?.any isIdent = false := by
  constructor
  · intro h
    cases t with
    | nil => cases h
    | cons c r =>
      rw [parameterName_cons] at h
      split at h
      · rename_i hc
        -- a capital and then the longest run of letters, digits and underscores
        cases hspan : r.span isIdent with
        | mk more left =>
          rw [hspan, Option.some.injEq, Prod.mk.injEq] at h
          obtain ⟨rfl, rfl⟩ := h
          obtain ⟨rfl, hmore, hleft⟩ := Text.span_eq_iff.mp hspan
          exact ⟨⟨c, more, rfl, hc, hmore⟩, rfl, hleft⟩
      · cases h
  · rintro ⟨⟨c, r, rfl, hc, hr⟩, rfl, hrest⟩
    have hspan : (r ++ rest).span isIdent = (r, rest) := Text.span_eq_iff.mpr ⟨rfl, hr, hrest⟩
    rw [List.cons_append, parameterName_cons, if_pos hc, hspan]

/-- What stands behind a text that is no part of a name leaves the name as it is. -/
theorem parameterName_append (h : u.head?.any isIdent = false) (c : CodePoint) (r : Text) :
    parameterName (c :: (r ++ u)) =
      (parameterName (c :: r)).map fun (name, rest) => (name, rest ++ u) := by
  have hspan : (r ++ u).span isIdent = ((r.span isIdent).1, (r.span isIdent).2 ++ u) := by
    cases hr : r.span isIdent with
    | mk front rest =>
      obtain ⟨rfl, hfront, hrest⟩ := Text.span_eq_iff.mp hr
      refine Text.span_eq_iff.mpr ⟨List.append_assoc _ _ _, hfront, ?_⟩
      cases rest with
      | nil => exact h
      | cons x more => exact hrest
  rw [parameterName_cons, parameterName_cons, hspan]
  split <;> rfl

/-! ## Heads of bindings -/

/-- Whether the place behind a character is within a word, or behind a backtick. -/
def isJoined (before : Option CodePoint) : Bool :=
  before.any fun c => c == .char '\x60' || Text.isWord c

theorem isIdent_of_isBlank {c : CodePoint} (h : isBlank c = true) : isIdent c = false := by
  rw [← Bool.not_eq_true]
  intro hident
  rw [Text.isBlank_of_isIdent hident] at h
  cases h

theorem isJoined_of_isIdent {c : CodePoint} (h : isIdent c = true) : isJoined (some c) = true := by
  simp [isJoined, Text.isWord_of_isIdent h]

/-- An equals sign with blanks around it, in front of a value. -/
structure IsSign (sign value : Text) : Prop where
  shape : ∃ front back, sign = front ++ .char '=' :: back ∧ (∀ c ∈ front, isBlank c = true) ∧
    (∀ c ∈ back, isBlank c = true) ∧ (back ++ value).head? ≠ some (.char '=')
  begins : value.head?.any isBlank = false

theorem bindingHead_eq (before : Option CodePoint) (t : Text) :
    bindingHead before t =
      if isJoined before = true then none
      else (parameterName t).bind fun (name, r) =>
        (Text.after? [.char '='] (Text.trimLeft r)).bind fun r =>
          if r.head? = some (.char '=') then none
          else some ((name, Text.trimLeft r), Text.trimLeft r) := rfl

/-- The head of a binding is a name, a sign and the value behind it, at a place that is not within a
word. -/
theorem bindingHead_eq_some_iff :
    bindingHead before t = some ((name, value), rest) ↔
      rest = value ∧ isJoined before = false ∧ IsParameter name ∧
        ∃ sign, t = name ++ (sign ++ value) ∧ IsSign sign value := by
  -- between name and value stand blanks and one equals sign, which is no blank itself
  have hequals : isBlank '=' = false := by decide
  have hsign : ∀ r behind : Text, Text.after? [.char '='] (Text.trimLeft r) = some behind ↔
      ∃ front, (∀ c ∈ front, isBlank c = true) ∧ r = front ++ .char '=' :: behind := by
    intro r behind
    rw [Text.after?_eq_some_iff, List.singleton_append, Text.trimLeft_eq_cons_iff hequals]
  rw [bindingHead_eq]
  by_cases hjoined : isJoined before = true
  · rw [if_pos hjoined, hjoined]
    simp
  rw [if_neg hjoined, Option.bind_eq_some_iff]
  simp only [Option.bind_eq_some_iff, hsign]
  constructor
  · rintro ⟨⟨found, r⟩, hname, behind, ⟨front, hfront, rfl⟩, h⟩
    -- a second equals sign makes it a comparison, and no binding
    by_cases hdouble : behind.head? = some (.char '=')
    · rw [if_pos hdouble] at h
      cases h
    · rw [if_neg hdouble] at h
      cases h
      obtain ⟨hparameter, rfl, -⟩ := parameterName_eq_some_iff.mp hname
      have hbehind : behind.takeWhile isBlank ++ Text.trimLeft behind = behind :=
        List.takeWhile_append_dropWhile
      refine ⟨rfl, Bool.eq_false_iff.mpr hjoined, hparameter,
        front ++ .char '=' :: behind.takeWhile isBlank, ?_, ⟨front, _, rfl, hfront,
          fun c hc => Text.isBlank_of_mem_takeWhile hc, ?_⟩, Text.head?_trimLeft behind⟩
      · rw [List.append_assoc, List.cons_append, hbehind]
      · rwa [hbehind]
  · rintro ⟨rfl, -, hparameter, sign, rfl, ⟨front, back, rfl, hfront, hback, hsingle⟩, hbegins⟩
    have hname : parameterName (name ++ (front ++ .char '=' :: back ++ rest)) =
        some (name, front ++ .char '=' :: back ++ rest) := by
      refine parameterName_eq_some_iff.mpr ⟨hparameter, rfl, ?_⟩
      cases front with
      | nil => rfl
      | cons c front => exact isIdent_of_isBlank (hfront c List.mem_cons_self)
    have htrim : Text.trimLeft (back ++ rest) = rest := by
      rw [Text.trimLeft_append hbegins, Text.trimLeft_of_blanks hback, List.nil_append]
    refine ⟨_, hname, back ++ rest, ⟨front, hfront, by simp⟩, ?_⟩
    rw [if_neg hsingle, htrim]

theorem bindingHead_of_isJoined (h : isJoined before = true) (t : Text) :
    bindingHead before t = none := by
  rw [bindingHead_eq, if_pos h]

/-- A head begins with a capital. -/
theorem bindingHead_of_not_capital {c : CodePoint} (h : isAsciiCapital c = false) (r : Text) :
    bindingHead before (c :: r) = none := by
  rw [bindingHead_eq, parameterName_cons, if_neg (Bool.eq_false_iff.mp h)]
  split <;> rfl

/-- Within a word no head begins. -/
theorem silent_of_isIdent (hbefore : isJoined before = true) (ht : ∀ c ∈ t, isIdent c = true)
    (rest : Text) : Pattern.Silent bindingHead before t rest := by
  refine Pattern.silent_of_forall_before (bindingHead_of_isJoined hbefore) ?_
  intro c hc
  exact bindingHead_of_isJoined (isJoined_of_isIdent (ht c hc))

/-- Without capitals no head begins. -/
theorem silent_of_not_capital (ht : ∀ c ∈ t, isAsciiCapital c = false) (rest : Text) :
    Pattern.Silent bindingHead before t rest := by
  refine Pattern.silent_of_forall_mem ?_
  intro c hc before r
  exact bindingHead_of_not_capital (ht c hc) r

/-- There is no capital in a sign. -/
theorem IsSign.not_capital {sign : Text} (h : IsSign sign value) :
    ∀ c ∈ sign, isAsciiCapital c = false := by
  -- capitals are identifier characters, which blanks are not
  have hblank : ∀ c : CodePoint, isBlank c = true → isAsciiCapital c = false := by
    intro c hc
    have hident := isIdent_of_isBlank hc
    simp only [Text.isIdent, Bool.or_eq_false_iff] at hident
    exact hident.1.1.1
  obtain ⟨front, back, rfl, hfront, hback, -⟩ := h.shape
  intro c hc
  rcases List.mem_append.mp hc with hc | hc
  · exact hblank c (hfront c hc)
  · rcases List.mem_cons.mp hc with rfl | hc
    · decide
    · exact hblank c (hback c hc)

/-- The character in front of a value is no dash. -/
theorem IsSign.getLast?_or_ne_dash {sign : Text} (h : IsSign sign value)
    (before : Option CodePoint) : sign.getLast?.or before ≠ some (.char '-') := by
  obtain ⟨front, back, rfl, -, hback, -⟩ := h.shape
  rw [List.getLast?_append, Option.or_assoc, Text.getLast?_cons_or]
  refine Text.getLast?_or_ne_dash ?_ (by decide)
  intro hlast
  exact absurd (hback '-' (List.mem_of_getLast? hlast)) (by decide)

/-- No head begins inside of another one. -/
theorem apart_bindingHead : Pattern.Apart bindingHead := by
  rintro before t ⟨name, value⟩ rest h
  obtain ⟨rfl, -, hname, sign, rfl, hsign⟩ := bindingHead_eq_some_iff.mp h
  have hident := hname.isIdent
  obtain ⟨c, r, rfl, -, -⟩ := hname
  obtain ⟨hc, hr⟩ := List.forall_mem_cons.mp hident
  refine ⟨c, r ++ sign, by rw [List.append_assoc]; rfl, ?_⟩
  rw [Pattern.silent_append_iff]
  exact ⟨silent_of_isIdent (isJoined_of_isIdent hc) hr _, silent_of_not_capital hsign.not_capital _⟩

/-- A text that no head in front of it goes on with. -/
structure EndsHead (u : Text) : Prop where
  noName : u.head?.any isIdent = false
  noBlank : u.head?.any isBlank = false
  noSign : u.head? ≠ some (.char '=')

theorem endsHead_nil : EndsHead [] := ⟨rfl, rfl, by simp⟩

/-- A sign that begins in front of such a text is read in the same way. -/
theorem EndsHead.after?_sign (hu : EndsHead u) (t : Text) :
    Text.after? [.char '='] (t ++ u) = (Text.after? [.char '='] t).map (· ++ u) := by
  cases t with
  | nil =>
    rw [List.nil_append]
    cases hafter : Text.after? [.char '='] u with
    | none => rfl
    | some rest =>
      rw [Text.after?_eq_some_iff] at hafter
      exact absurd (congrArg List.head? hafter) hu.noSign
  | cons c r => by_cases hc : '=' = c <;> simp [Text.after?, hc]

theorem EndsHead.head?_eq_sign (hu : EndsHead u) (t : Text) :
    (t ++ u).head? = some (.char '=') ↔ t.head? = some (.char '=') := by
  cases t with
  | nil => exact iff_of_false hu.noSign (by simp)
  | cons c r => exact Iff.rfl

/-- A head is read in the same way in front of a text that it does not go on with. -/
theorem bindingHead_append (hu : EndsHead u) (before : Option CodePoint) (c : CodePoint)
    (r : Text) :
    bindingHead before (c :: (r ++ u)) =
      (bindingHead before (c :: r)).map fun ((name, value), _) =>
        ((name, value ++ u), value ++ u) := by
  rw [bindingHead_eq, bindingHead_eq, parameterName_append hu.noName]
  -- every step of the pattern stops before `u`: the name, the blanks, the sign and what follows it
  split
  · rfl
  · cases parameterName (c :: r) with
    | none => rfl
    | some found =>
      simp only [Option.map_some, Option.bind_some, Text.trimLeft_append hu.noBlank,
        hu.after?_sign]
      cases Text.after? [.char '='] (Text.trimLeft found.2) with
      | none => rfl
      | some behind =>
        simp only [Option.map_some, Option.bind_some, hu.head?_eq_sign]
        split
        · rfl
        · rw [Text.trimLeft_append hu.noBlank]
          rfl

/-! ## Values -/

/-- The value that is read at the head of a text. -/
def boundValue (t : Text) : Text := (bindingValue t).value

theorem boundValue_eq (t : Text) :
    boundValue t = Text.trim (Depth.untilTop endsValue .top none t).1 := rfl

/-- A character that ends a value outside all brackets. -/
def isStop (c : CodePoint) : Bool := c == ',' || c == '}' || c == '\n' || c == '\x60'

theorem endsValue_cons (before : Option CodePoint) (c : CodePoint) (r : Text) :
    endsValue before (c :: r) = isStop c := rfl

/-- A value that is over at its first character is empty. -/
theorem boundValue_of_isStop {c : CodePoint} (hc : isStop c = true) (r : Text) :
    boundValue (c :: r) = [] := by
  have hend : (Depth.top.isTop && endsValue none (c :: r)) = true := hc
  rw [boundValue_eq, Depth.untilTop, if_pos hend]
  rfl

/-- A value that begins with no blank is empty only when it ends right there. -/
theorem isEmpty_boundValue_cons {c : CodePoint} (hc : isBlank c = false) (r : Text) :
    (boundValue (c :: r)).isEmpty = isStop c := by
  by_cases hstop : isStop c = true
  · rw [boundValue_of_isStop hstop, hstop]
    rfl
  · -- the first character belongs to the value, and is not trimmed off
    have hgo : ¬ (Depth.top.isTop && endsValue none (c :: r)) = true := hstop
    rw [boundValue_eq, Depth.untilTop, if_neg hgo, Bool.eq_false_iff.mpr hstop,
      List.isEmpty_eq_false_iff, Ne, Text.trim_eq_nil_iff]
    simp [Text.allBlank, hc]

/-! ## Bindings at all places -/

/-- What a head binds: its name, to the value behind it when that is not blank. -/
def binding? (head : Text × Text) : Option (Text × Text) :=
  if (boundValue head.2).isEmpty then none else some (head.1, boundValue head.2)

/-- The bindings whose heads stand in a text that `rest` stands behind, from left to right. -/
def bindingsIn (before : Option CodePoint) (t rest : Text) : Bindings :=
  (Pattern.readings bindingHead before t rest).filterMap binding?

/-- The bindings of two texts are those of the first one and those of the second one. -/
theorem bindingsIn_append (before : Option CodePoint) (t u rest : Text) :
    bindingsIn before (t ++ u) rest =
      bindingsIn before t (u ++ rest) ++ bindingsIn (t.getLast?.or before) u rest := by
  unfold bindingsIn
  rw [Pattern.readings_append, List.filterMap_append]

theorem bindingsIn_of_silent (h : Pattern.Silent bindingHead before t rest) :
    bindingsIn before t rest = [] := by
  rw [bindingsIn, Pattern.readings_of_silent h, List.filterMap_nil]

/-- The heads of a text are the same in front of a text that they do not go on with. -/
theorem readings_bindingHead_append (hu : EndsHead u) (before : Option CodePoint) (t : Text) :
    Pattern.readings bindingHead before t u =
      (Pattern.readings bindingHead before t []).map fun head => (head.1, head.2 ++ u) := by
  induction t generalizing before with
  | nil => rfl
  | cons c r ih =>
    rw [Pattern.readings, Pattern.readings, List.append_nil, bindingHead_append hu, ih,
      List.map_append]
    cases bindingHead before (c :: r) <;> rfl

/-- The heads do not depend on what stands behind, but the values may go on there. -/
theorem bindingsIn_eq_heads (hu : EndsHead u) (before : Option CodePoint) (t : Text) :
    bindingsIn before t u =
      (Pattern.readings bindingHead before t []).filterMap fun head =>
        binding? (head.1, head.2 ++ u) := by
  rw [bindingsIn, readings_bindingHead_append hu, List.filterMap_map]
  rfl

/-- A head stands behind a sign, and what is behind the sign goes on to the end of the text. -/
theorem exists_of_mem_heads {head : Text × Text}
    (h : head ∈ Pattern.readings bindingHead before t []) :
    ∃ front sign, t = front ++ (sign ++ head.2) ∧ IsSign sign head.2 := by
  obtain ⟨front, c, back, left, rfl, hread⟩ := Pattern.exists_of_mem_readings h
  obtain ⟨name, value⟩ := head
  obtain ⟨-, -, -, sign, hplace, hsign⟩ := bindingHead_eq_some_iff.mp hread
  rw [List.append_nil] at hplace
  exact ⟨front ++ name, sign, by rw [hplace, List.append_assoc], hsign⟩

/-- Reports along a fold have no part in its value. -/
theorem value_foldlM {α β : Type} (step : β → α → Logged β) (items : List α) (start : β) :
    (items.foldlM step start).value = items.foldl (fun b a => (step b a).value) start := by
  induction items generalizing start with
  | nil => rfl
  | cons a items ih => rw [List.foldlM_cons, Logged.value_bind, ih, List.foldl_cons]

/-- A hover binds each name to the value of the first binding of it at any place. -/
theorem value_metadata (content : Text) :
    (metadata content).value = Bindings.ofList (bindingsIn none content []) := by
  unfold metadata Pattern.findAll bindingsIn Bindings.ofList
  rw [value_foldlM, Pattern.findFrom_eq_readings apart_bindingHead, List.foldl_filterMap]
  congr 1
  funext bs head
  unfold binding?
  change (if (boundValue head.2).isEmpty then bs else bs.add head.1 (boundValue head.2)) = _
  split <;> rfl

/-- The value of a name is that of the first binding of it in the hover. -/
theorem get?_metadata (name content : Text) :
    (metadata content).value.get? name = (bindingsIn none content []).lookup name := by
  rw [value_metadata]
  exact lookup_ofList _ name

end Placement.Hover
