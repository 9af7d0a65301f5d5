import Placement.Proofs.Cache.Key

/-!
# Placement.Proofs.Cache.Reading — which texts are read as keys

A text `ShowsVersion` when it is written as a key is: a name, `v` with digits of any
script and maybe a line feed, and the rest, with double colons between them
(`showsVersion_iff`). Such a text is read, unless the digits are too many
(`decode_of_short`, `decode_of_long`), and no other one is (`decode_of_not_showsVersion`).

However the key was spelled, the text made from its parts is read as the same parts
again, where an empty active file counts as none (`exists_encode_of_decode`). The strict
reader refuses what the other one passes over, and both agree on all texts but those
whose version has too many digits (`modesAgree_iff`).
-/

namespace Placement.CacheKey

variable {t digits segment : Text} {k : CacheKey}

/-! ## Versions -/

/-- The segment is `v` with these digits, one or more, and maybe a line feed behind them. -/
structure SpellsVersion (digits segment : Text) : Prop where
  nonempty : digits ≠ []
  areDigits : ∀ c ∈ digits, Text.isDigit c = true
  spelled : segment = .char 'v' :: digits ∨ segment = .char 'v' :: (digits ++ [.char '\n'])

/-- What is left of a segment that is a version, when `v` and a line feed are taken off. -/
theorem SpellsVersion.digits_eq (h : SpellsVersion digits segment) :
    ∃ r, segment = .char 'v' :: r ∧ (Text.before? [.char '\n'] r).getD r = digits := by
  rcases h.spelled with hplain | hline
  · refine ⟨digits, hplain, ?_⟩
    -- no line feed is taken off, since it would stand among the digits
    have hno : Text.before? [.char '\n'] digits = none := by
      rw [Option.eq_none_iff_forall_ne_some]
      intro front hfront
      have hmem : .char '\n' ∈ digits := by
        rw [Text.before?_eq_some_iff.mp hfront]
        exact List.mem_append_right front List.mem_cons_self
      exact absurd (h.areDigits _ hmem) (by decide)
    rw [hno, Option.getD_none]
  · refine ⟨digits ++ [.char '\n'], hline, ?_⟩
    rw [Text.before?_eq_some_iff.mpr rfl, Option.getD_some]

/-- A version has no colon in it, since a colon is no digit of any script. -/
theorem SpellsVersion.closed (h : SpellsVersion digits segment) : Closed segment := by
  apply closed_of_not_mem
  have hdigits : .char ':' ∉ digits := fun hcolon => absurd (h.areDigits _ hcolon) (by decide)
  rcases h.spelled with rfl | rfl <;> simp [hdigits]

/-- A version of too many digits is spelled rightly, and cannot be read. -/
theorem readVersion_of_long (h : SpellsVersion digits segment)
    (hlong : Text.digitLimit < digits.length) :
    readVersion segment = .error (.longVersion digits.length) := by
  rcases h.digits_eq with ⟨r, rfl, hr⟩
  rcases Text.exists_readDigits? h.nonempty h.areDigits with ⟨n, hn, -⟩
  simp only [readVersion, hr, Text.readDigits, hn, if_pos hlong]

/-- A version of few enough digits is read as a number below the limit. -/
theorem readVersion_of_short (h : SpellsVersion digits segment)
    (hshort : digits.length ≤ Text.digitLimit) :
    ∃ n, readVersion segment = .ok n ∧ n < 10 ^ Text.digitLimit := by
  rcases h.digits_eq with ⟨r, rfl, hr⟩
  rcases Text.exists_readDigits? h.nonempty h.areDigits with ⟨n, hn, hlt⟩
  refine ⟨n, ?_, Nat.lt_of_lt_of_le hlt (Nat.pow_le_pow_right (by decide) hshort)⟩
  simp only [readVersion, hr, Text.readDigits, hn, if_neg (Nat.not_lt.mpr hshort)]

/-- A segment without `v`, or without digits behind it, is no version. -/
theorem readVersion_of_not_spellsVersion (h : ∀ digits, ¬ SpellsVersion digits segment) :
    readVersion segment = .error (.badVersion segment) := by
  unfold readVersion
  split
  · rename_i r
    have hnone : Text.readDigits? ((Text.before? [.char '\n'] r).getD r) = none := by
      apply Text.readDigits?_eq_none
      rintro ⟨hne, hdigits⟩
      refine h _ ⟨hne, hdigits, ?_⟩
      -- whichever rest would be read as digits spells a version
      cases hline : Text.before? [.char '\n'] r with
      | none => exact Or.inl rfl
      | some front => exact Or.inr (congrArg (.char 'v' :: ·) (Text.before?_eq_some_iff.mp hline))
    simp only [Text.readDigits, hnone]
  · rfl

/-- A version that is read has no more digits than an integer may be written with. -/
theorem lt_of_readVersion {n : Nat} (h : readVersion segment = .ok n) :
    n < 10 ^ Text.digitLimit := by
  by_cases hspelled : ∃ digits, SpellsVersion digits segment
  · rcases hspelled with ⟨digits, hdigits⟩
    by_cases hlong : Text.digitLimit < digits.length
    · rw [readVersion_of_long hdigits hlong] at h
      cases h
    · rcases readVersion_of_short hdigits (Nat.not_lt.mp hlong) with ⟨m, hm, hlt⟩
      rw [hm] at h
      cases h
      exact hlt
  · rw [readVersion_of_not_spellsVersion (not_exists.mp hspelled)] at h
    cases h

/-! ## Texts that are written as keys -/

/-- What stands behind the first piece of a text is cut into the other pieces. -/
theorem exists_rest_of_segments {p q : Text} {ps : List Text} (h : segments t = p :: q :: ps) :
    ∃ rest, t = p ++ separator ++ rest ∧ segments rest = q :: ps := by
  have hjoin := intercalate_segments t
  rw [h, List.intercalate_cons_cons] at hjoin
  refine ⟨_, hjoin.symm, ?_⟩
  rw [← hjoin, segments_append (closed_of_segments h)] at h
  exact (List.cons.inj h).2

/-- The text is written as a key is, and these are the digits of its version. -/
def ShowsVersion (digits t : Text) : Prop :=
  ∃ uri number rest, t = uri ++ separator ++ (number ++ separator ++ rest) ∧ Closed uri ∧
    SpellsVersion digits number

/-- Such a text is cut into three segments or more, the second of which is the version. -/
theorem showsVersion_iff :
    ShowsVersion digits t ↔
      ∃ uri number scope files, segments t = uri :: number :: scope :: files ∧
        SpellsVersion digits number := by
  constructor
  · rintro ⟨uri, number, rest, rfl, huri, hnumber⟩
    rcases List.exists_cons_of_ne_nil (segments_ne_nil rest) with ⟨scope, files, hrest⟩
    refine ⟨uri, number, scope, files, ?_, hnumber⟩
    rw [segments_append huri, segments_append hnumber.closed, hrest]
  · rintro ⟨uri, number, scope, files, hpieces, hnumber⟩
    -- the first two pieces are cut off, each at the double colon behind it
    rcases exists_rest_of_segments hpieces with ⟨rest, rfl, hrest⟩
    rcases exists_rest_of_segments hrest with ⟨rest, rfl, -⟩
    exact ⟨uri, number, rest, rfl, closed_of_segments hpieces, hnumber⟩

/-- The digits are a part of the text. -/
theorem ShowsVersion.length_le (h : ShowsVersion digits t) : digits.length ≤ t.length := by
  rcases h with ⟨uri, number, rest, rfl, -, hnumber⟩
  have hle : digits.length ≤ number.length := by
    rcases hnumber.spelled with rfl | rfl
    · exact Nat.le_succ _
    · rw [List.length_cons, List.length_append]
      omega
  simp only [List.length_append]
  omega

/-- A text that shows too many digits cannot be read. -/
theorem decode_of_long (h : ShowsVersion digits t) (hlong : Text.digitLimit < digits.length) :
    decode t = .error (.longVersion digits.length) := by
  rcases showsVersion_iff.mp h with ⟨uri, number, scope, files, hpieces, hnumber⟩
  rw [decode_of_segments hpieces, readVersion_of_long hnumber hlong]
  rfl

/-- A text that shows few enough digits is read as a key. -/
theorem decode_of_short (h : ShowsVersion digits t) (hshort : digits.length ≤ Text.digitLimit) :
    ∃ k, decode t = .ok k := by
  rcases showsVersion_iff.mp h with ⟨uri, number, scope, files, hpieces, hnumber⟩
  rcases readVersion_of_short hnumber hshort with ⟨n, hn, -⟩
  rw [decode_of_segments hpieces, hn]
  exact ⟨_, rfl⟩

/-- Any other text has too few segments, or one that is no version. -/
theorem decode_of_not_showsVersion (h : ∀ digits, ¬ ShowsVersion digits t) :
    ∃ fault, decode t = .error fault ∧ ∀ n, fault ≠ .longVersion n := by
  unfold decode
  split
  · rename_i uri number scope files hpieces
    have hnumber : ∀ digits, ¬ SpellsVersion digits number := fun digits hdigits =>
      h digits (showsVersion_iff.mpr ⟨uri, number, scope, files, hpieces, hdigits⟩)
    rw [readVersion_of_not_spellsVersion hnumber]
    exact ⟨_, rfl, fun n hn => by cases hn⟩
  · exact ⟨_, rfl, fun n hn => by cases hn⟩

/-! ## Reading again what was made of a key -/

/-- The key without an active file that is empty. -/
def shown (k : CacheKey) : CacheKey :=
  { k with activeFile := k.activeFile.filter fun file => !file.isEmpty }

theorem text_shown (k : CacheKey) : k.shown.text = k.text := by
  rcases k with ⟨uri, version, scope, file⟩
  rcases file with - | (- | ⟨c, r⟩) <;> rfl

/-- The parts that a text is read as are told apart in the text made from them. -/
theorem separable_shown (h : decode t = .ok k) :
    k.shown.Separable ∧ k.shown.version < 10 ^ Text.digitLimit := by
  rcases decode_eq_ok_iff.mp h with ⟨number, files, n, hpieces, hread, hversion, hfile⟩
  rcases exists_rest_of_segments hpieces with ⟨more, -, hmore⟩
  rcases exists_rest_of_segments hmore with ⟨rest, -, hscope⟩
  have huri : Closed k.uri := closed_of_segments hpieces
  have hlt : n < 10 ^ Text.digitLimit := lt_of_readVersion hread
  have hnonneg : 0 ≤ k.version := by omega
  refine ⟨⟨hnonneg, huri.noSeparator, huri.noColon, separator_not_infix_of_segments hscope, ?_, ?_⟩,
    ?_⟩
  · -- a scope with an active file behind it was cut off in front of a double colon
    cases files with
    | nil =>
      have hnone : k.activeFile = none := hfile
      exact Or.inl (by rw [shown, hnone]; rfl)
    | cons file more => exact Or.inr (closed_of_segments hscope).noColon
  · intro hempty
    have hkept := (Option.filter_eq_some_iff.mp hempty).2
    cases hkept
  · show k.version < 10 ^ Text.digitLimit
    rw [hversion]
    exact natCast_lt_iff.mpr hlt

/-- The parts that a text is read as can be written, and are read again from what is written. -/
theorem exists_encode_of_decode (h : decode t = .ok k) :
    ∃ again, k.encode = .ok again ∧ decode again = .ok k.shown := by
  rcases separable_shown h with ⟨hseparable, hlt⟩
  refine ⟨k.text, encode_of_short hseparable.version_nonneg hlt, ?_⟩
  rw [← text_shown k]
  exact hseparable.decode_text hlt

/-! ## The two modes -/

/-- The strict reader refuses the text exactly when the other one finds no key in it, and if they do
not, both give the same parts. -/
def ModesAgree (t : Text) : Prop :=
  ((∃ fault, read true t = .error (.malformed t fault)) ↔ read false t = .ok none) ∧
    (read false t ≠ .ok none → ∃ k, read false t = .ok (some k) ∧ read true t = .ok (some k))

/-- Both readers find the parts that decoding gives, and no others. -/
theorem read_eq_some_iff {strict : Bool} : read strict t = .ok (some k) ↔ decode t = .ok k := by
  unfold read
  cases decode t with
  | ok found => simp
  | error fault => cases fault <;> cases strict <;> simp

/-- Both readers break off at a version of too many digits. -/
theorem read_of_long (h : ShowsVersion digits t) (hlong : Text.digitLimit < digits.length)
    (strict : Bool) : read strict t = .error (.longInteger digits.length) := by
  simp only [read, decode_of_long h hlong]

/-- A text that is not written as a key is refused, or passed over. -/
theorem exists_read_of_not_showsVersion (h : ∀ digits, ¬ ShowsVersion digits t) :
    ∃ fault, read true t = .error (.malformed t fault) ∧ read false t = .ok none := by
  rcases decode_of_not_showsVersion h with ⟨fault, hfault, hshort⟩
  refine ⟨fault, ?_⟩
  cases fault with
  | tooFewSegments count => simp [read, hfault]
  | badVersion segment => simp [read, hfault]
  | longVersion n => exact absurd rfl (hshort n)

/-- Where the parts of a key are found, both readers give them. -/
theorem modesAgree_of_decode (h : decode t = .ok k) : ModesAgree t := by
  have hread : ∀ strict, read strict t = .ok (some k) := fun strict => read_eq_some_iff.mpr h
  refine ⟨?_, fun _ => ⟨k, hread false, hread true⟩⟩
  simp [hread]

theorem modesAgree_of_not_showsVersion (h : ∀ digits, ¬ ShowsVersion digits t) : ModesAgree t := by
  rcases exists_read_of_not_showsVersion h with ⟨fault, hstrict, hlenient⟩
  exact ⟨iff_of_true ⟨fault, hstrict⟩ hlenient, fun hsome => absurd hlenient hsome⟩

/-- A text is made of the parts of a key, and is read as the same parts again, in both modes,
whatever the key looked like; an empty active file counts as none. The modes agree on a text exactly
when it is not written as a key with more digits in its version than an integer may have. -/
theorem read_again_and_modesAgree_iff (t : Text) :
    (∀ strict k, read strict t = .ok (some k) →
      ∃ made, k.encode = .ok made ∧ ∀ again, read again made = .ok (some k.shown)) ∧
    (ModesAgree t ↔ ∀ digits, ShowsVersion digits t → digits.length ≤ Text.digitLimit) := by
  constructor
  · intro strict k hread
    rcases exists_encode_of_decode (read_eq_some_iff.mp hread) with ⟨made, hmade, hdecode⟩
    exact ⟨made, hmade, fun again => read_eq_some_iff.mpr hdecode⟩
  · constructor
    · intro hagree digits hshows
      by_contra hlong
      have hread := read_of_long hshows (Nat.not_le.mp hlong)
      have hsome : read false t ≠ .ok none := by
        rw [hread false]
        exact fun h => by cases h
      -- it is no text passed over, so that both readers would have to find a key
      rcases hagree.2 hsome with ⟨k, hk, -⟩
      rw [hread false] at hk
      cases hk
    · intro hshort
      by_cases hshows : ∃ digits, ShowsVersion digits t
      · rcases hshows with ⟨digits, hdigits⟩
        rcases decode_of_short hdigits (hshort digits hdigits) with ⟨k, hk⟩
        exact modesAgree_of_decode hk
      · exact modesAgree_of_not_showsVersion (not_exists.mp hshows)

/-- A key with a leading zero of another script, a line feed behind the version and an empty active
file: it is read, what is made of its parts is read, and the modes agree on it. -/
theorem read_again_and_modesAgree_iff_leading_zero :
    read false "u::v\u06607\n::s::".text = .ok (some ⟨[.char 'u'], 7, [.char 's'], some []⟩) ∧
    read true "u::v7::s".text = .ok (some ⟨[.char 'u'], 7, [.char 's'], none⟩) ∧
    ModesAgree "u::v\u06607\n::s::".text := by
  have hread : read false "u::v\u06607\n::s::".text =
      .ok (some ⟨[.char 'u'], 7, [.char 's'], some []⟩) := by decide +kernel
  rcases read_again_and_modesAgree_iff "u::v\u06607\n::s::".text with ⟨hagain, hmodes⟩
  rcases hagain false _ hread with ⟨made, hmade, hread'⟩
  rcases encode_eq_ok_iff.mp hmade with ⟨-, rfl⟩
  refine ⟨hread, hread' true, hmodes.mpr ?_⟩
  intro digits hdigits
  exact Nat.le_trans hdigits.length_le (by decide)

/-- A text that is written as a key, with one digit too many in its version. -/
def longVersionText : Text :=
  "u::v".text ++ List.replicate (Text.digitLimit + 1) (.char '1') ++ "::s".text

/-- The reader breaks off in both modes, and neither refuses the text nor gives its parts. -/
theorem modes_break_off_at_longVersionText :
    read false longVersionText = .error (.longInteger (Text.digitLimit + 1)) ∧
    read true longVersionText = .error (.longInteger (Text.digitLimit + 1)) ∧
    ¬ ModesAgree longVersionText := by
  -- one digit more than the limit, and nothing behind them
  have hdigits : SpellsVersion (List.replicate (Text.digitLimit + 1) (.char '1'))
      (.char 'v' :: List.replicate (Text.digitLimit + 1) (.char '1')) := by
    refine ⟨List.cons_ne_nil _ _, ?_, Or.inl rfl⟩
    intro c hc
    rw [List.eq_of_mem_replicate hc]
    decide
  have hshows : ShowsVersion (List.replicate (Text.digitLimit + 1) (.char '1')) longVersionText :=
    ⟨[.char 'u'], _, [.char 's'], by simp [longVersionText, separator],
      closed_of_not_mem (by decide), hdigits⟩
  have hlength : (List.replicate (Text.digitLimit + 1) (CodePoint.char '1')).length =
      Text.digitLimit + 1 := List.length_replicate
  have hread := read_of_long hshows (by rw [hlength]; exact Nat.lt_succ_self _)
  rw [hlength] at hread
  refine ⟨hread false, hread true, ?_⟩
  -- the modes would agree on a key, but neither of them returns one
  rintro ⟨-, hparts⟩
  rcases hparts (by rw [hread false]; exact fun h => by cases h) with ⟨k, hk, -⟩
  rw [hread false] at hk
  cases hk

end Placement.CacheKey
