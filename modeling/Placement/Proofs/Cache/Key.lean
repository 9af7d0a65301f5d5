import Mathlib.Algebra.Group.Int.Defs
import Mathlib.Data.Set.Operations
import Placement.Cache.Key
import Placement.Proofs.Digit

/-!
# Placement.Proofs.Cache.Key — which keys are read back

A text is `Closed` when it holds no double colon and makes none with a double
colon behind it. Cutting at double colons gives pieces without any, all but the
last one closed (`separator_not_infix_of_segments`, `closed_of_segments`), and a
closed text in front of a double colon is cut off as a piece (`segments_append`).

What a key shows is therefore cut into the parts of the key when the name and the
scope are such pieces, which makes the key `Separable`. Separable keys show
different texts. Those of them that can be written, because their versions have not
too many digits, are exactly the keys that are read back from their texts
(`decode_encode_iff`).

All keys of a document begin with its lead. A key of another document does so only
when the names `Overlap` (`eq_or_overlap`).
-/

namespace Placement.CacheKey

variable {t : Text} {k : CacheKey}

/-! ## Cutting at double colons -/

/-- The text holds no double colon, and does not end in half of one. -/
structure Closed (t : Text) : Prop where
  noSeparator : ¬ separator <:+: t
  noColon : t.getLast? ≠ some (.char ':')

theorem segments_separator (r : Text) : segments (separator ++ r) = [] :: segments r := by
  show segments (.char ':' :: .char ':' :: r) = _
  rw [segments]

/-- Every text has a first piece. -/
theorem segments_ne_nil (t : Text) : segments t ≠ [] := by
  fun_cases segments t with
  | case1 => exact List.cons_ne_nil _ _
  | case2 r => exact List.cons_ne_nil _ _
  | case3 => exact List.cons_ne_nil _ _
  | case4 => exact List.cons_ne_nil _ _

/-- A character that begins no double colon belongs to the first piece. -/
theorem segments_cons {c : CodePoint} {r : Text} (h : ¬ separator <+: c :: r) :
    ∃ p ps, segments r = p :: ps ∧ segments (c :: r) = (c :: p) :: ps := by
  rcases List.exists_cons_of_ne_nil (segments_ne_nil r) with ⟨p, ps, hr⟩
  refine ⟨p, ps, hr, ?_⟩
  have hno : ∀ r', c = ':' → r = .char ':' :: r' → False := by
    rintro r' rfl rfl
    exact h (List.prefix_append separator r')
  rw [segments, hr]
  exact hno

/-- A double colon begins a text when its first two characters are colons. -/
theorem separator_prefix_cons_iff {c : CodePoint} {r : Text} :
    separator <+: c :: r ↔ c = ':' ∧ r.head? = some (.char ':') := by
  constructor
  · rintro ⟨r', hr'⟩
    rcases List.cons.inj hr' with ⟨rfl, rfl⟩
    exact ⟨rfl, rfl⟩
  · rintro ⟨rfl, hr⟩
    rcases List.head?_eq_some_iff.mp hr with ⟨r', rfl⟩
    exact List.prefix_append separator r'

/-- The pieces of a text, joined by double colons, are the text. -/
theorem intercalate_segments (t : Text) : separator.intercalate (segments t) = t := by
  -- along the recursion of `segments`: at a separator a new piece begins, else the character joins
  -- the first piece of the rest
  fun_induction segments t with
  | case1 => exact List.intercalate_singleton
  | case2 r ih =>
    rcases List.exists_cons_of_ne_nil (segments_ne_nil r) with ⟨p, ps, hr⟩
    rw [hr] at ih ⊢
    rw [List.intercalate_cons_cons, ih]
    rfl
  | case3 c r _ hr ih => exact absurd hr (segments_ne_nil r)
  | case4 c r _ p ps hr ih =>
    rw [hr] at ih
    -- the first piece grows by `c`; whether a separator follows it depends on the pieces left
    cases ps with
    | nil =>
      rw [List.intercalate_singleton] at ih ⊢
      rw [ih]
    | cons q more =>
      rw [List.intercalate_cons_cons] at ih ⊢
      rw [← ih]
      rfl

/-- A text begins with its first piece. -/
theorem prefix_of_segments {p : Text} {ps : List Text} (h : segments t = p :: ps) : p <+: t := by
  have hjoin := intercalate_segments t
  rw [h] at hjoin
  cases ps with
  | nil =>
    rw [List.intercalate_singleton] at hjoin
    exact hjoin ▸ List.prefix_rfl
  | cons q more =>
    rw [List.intercalate_cons_cons, List.append_assoc] at hjoin
    exact ⟨_, hjoin⟩

/-- The first piece of a text holds no double colon. -/
theorem separator_not_infix_of_segments {p : Text} {ps : List Text} (h : segments t = p :: ps) :
    ¬ separator <:+: p := by
  induction t generalizing p ps with
  | nil =>
    rw [segments] at h
    rcases List.cons.inj h with ⟨rfl, -⟩
    decide
  | cons c r ih =>
    by_cases hlead : separator <+: c :: r
    · rcases hlead with ⟨r', hr'⟩
      rw [← hr', segments_separator] at h
      rcases List.cons.inj h with ⟨rfl, -⟩
      decide
    · -- no double colon begins here, so the character joins the first piece of the rest
      rcases segments_cons hlead with ⟨p', ps', hr, hcons⟩
      rw [hcons] at h
      rcases List.cons.inj h with ⟨rfl, -⟩
      rw [List.infix_cons_iff]
      rintro (hfront | hinner)
      · -- the piece begins as the text does, and so would the double colon
        have hpiece : c :: p' <+: c :: r := prefix_of_segments hcons
        exact hlead (hfront.trans hpiece)
      · exact ih hr hinner

/-- A piece behind which another one comes is closed. -/
theorem closed_of_segments {p q : Text} {ps : List Text} (h : segments t = p :: q :: ps) :
    Closed p := by
  refine ⟨separator_not_infix_of_segments h, ?_⟩
  induction t generalizing p with
  | nil =>
    rw [segments] at h
    cases (List.cons.inj h).2
  | cons c r ih =>
    by_cases hlead : separator <+: c :: r
    · rcases hlead with ⟨r', hr'⟩
      rw [← hr', segments_separator] at h
      rcases List.cons.inj h with ⟨rfl, -⟩
      exact Option.some_ne_none _ ∘ Eq.symm
    · rcases segments_cons hlead with ⟨p', ps', hr, hcons⟩
      rw [hcons] at h
      rcases List.cons.inj h with ⟨rfl, rfl⟩
      cases p' with
      | nil =>
        -- the rest begins with a double colon, so a colon here would have been taken for its half
        have hjoin := intercalate_segments r
        rw [hr, List.intercalate_cons_cons] at hjoin
        intro hlast
        have hc : c = ':' := Option.some.inj hlast
        exact hlead (separator_prefix_cons_iff.mpr ⟨hc, by rw [← hjoin]; rfl⟩)
      | cons x more =>
        rw [List.getLast?_cons_cons]
        exact ih hr

/-- A closed text is cut off at the double colon behind it. -/
theorem segments_append (h : Closed t) (rest : Text) :
    segments (t ++ separator ++ rest) = t :: segments rest := by
  induction t with
  | nil => exact segments_separator rest
  | cons c r ih =>
    have hno := h.noSeparator
    rw [List.infix_cons_iff, not_or, separator_prefix_cons_iff, not_and] at hno
    have hclosed : Closed r := by
      refine ⟨hno.2, ?_⟩
      intro hlast
      apply h.noColon
      rw [List.getLast?_cons, hlast]
      rfl
    -- the double colon behind the text does not begin at its last character
    have hlead : ¬ separator <+: c :: (r ++ separator ++ rest) := by
      rw [separator_prefix_cons_iff]
      rintro ⟨hc, hhead⟩
      cases r with
      | nil => exact h.noColon (congrArg some hc)
      | cons x more => exact hno.1 hc hhead
    rcases segments_cons hlead with ⟨p, ps, hr, hcons⟩
    rw [ih hclosed] at hr
    rcases List.cons.inj hr with ⟨rfl, rfl⟩
    exact hcons

/-- A text without a double colon is its only piece. -/
theorem segments_of_not_infix (h : ¬ separator <:+: t) : segments t = [t] := by
  induction t with
  | nil => rw [segments]
  | cons c r ih =>
    rw [List.infix_cons_iff, not_or] at h
    rcases segments_cons h.1 with ⟨p, ps, hr, hcons⟩
    rw [ih h.2] at hr
    rcases List.cons.inj hr with ⟨rfl, rfl⟩
    exact hcons

/-! ## Versions -/

/-- The version as a key shows it. -/
def versionText (version : Int) : Text := .char 'v' :: Text.ofInt version

theorem not_colon_of_mem_ofNat {n : Nat} : .char ':' ∉ Text.ofNat n := by
  intro hcolon
  exact absurd (Text.isAsciiDigit_of_mem_ofNat hcolon) (by decide)

/-- A version has no colon in it, also when it is below zero. -/
theorem not_colon_of_mem_versionText (version : Int) : .char ':' ∉ versionText version := by
  intro hcolon
  rcases List.mem_cons.mp hcolon with h | hcolon
  · exact absurd h (by decide)
  · cases version with
    | ofNat n => exact not_colon_of_mem_ofNat hcolon
    | negSucc n =>
      rcases List.mem_cons.mp hcolon with h | hcolon
      · exact absurd h (by decide)
      · exact not_colon_of_mem_ofNat hcolon

/-- Versions that are not below zero differ in their digits. -/
theorem versionText_inj {v v' : Int} (h : 0 ≤ v) (h' : 0 ≤ v')
    (htext : versionText v = versionText v') : v = v' := by
  rcases Int.eq_ofNat_of_zero_le h with ⟨n, rfl⟩
  rcases Int.eq_ofNat_of_zero_le h' with ⟨m, rfl⟩
  have hdigits : Text.ofNat n = Text.ofNat m := (List.cons.inj htext).2
  -- digits are read back, so that equal ones stand for one number
  have hread : Text.readDigits? (Text.ofNat n) = Text.readDigits? (Text.ofNat m) :=
    congrArg Text.readDigits? hdigits
  rw [Text.readDigits?_ofNat, Text.readDigits?_ofNat, Option.some.injEq] at hread
  rw [hread]

/-- A text without colons is closed. -/
theorem closed_of_not_mem (h : .char ':' ∉ t) : Closed t := by
  refine ⟨?_, ?_⟩
  · intro hinside
    exact h (hinside.subset List.mem_cons_self)
  · intro hlast
    exact h (List.mem_of_getLast? hlast)

theorem natCast_lt_iff {n : Nat} : (n : Int) < 10 ^ Text.digitLimit ↔ n < 10 ^ Text.digitLimit := by
  have hcast : ((10 ^ Text.digitLimit : Nat) : Int) = 10 ^ Text.digitLimit :=
    Int.natCast_pow 10 Text.digitLimit
  rw [← hcast, Int.ofNat_lt]

/-- The digits of a version are read back unless they are too many. -/
theorem readVersion_ofNat (n : Nat) :
    readVersion (versionText n) =
      if n < 10 ^ Text.digitLimit then .ok n
      else .error (.longVersion (Text.ofNat n).length) := by
  -- a number holds no line feed, so none is left out behind its digits
  have hline : Text.before? [.char '\n'] (Text.ofNat n) = none := by
    rw [Option.eq_none_iff_forall_ne_some]
    intro front hfront
    have hdigits := Text.before?_eq_some_iff.mp hfront
    have hmem : .char '\n' ∈ Text.ofNat n := by
      rw [hdigits]
      exact List.mem_append_right front List.mem_cons_self
    exact absurd (Text.isAsciiDigit_of_mem_ofNat hmem) (by decide)
  unfold readVersion versionText
  simp only [Text.ofInt, hline, Option.getD_none, Text.readDigits_ofNat]
  -- the digits are read back, unless there are more of them than the reader takes
  by_cases hn : n < 10 ^ Text.digitLimit
  · rw [if_pos hn, if_pos hn]
  · rw [if_neg hn, if_neg hn]

/-! ## Keys -/

/-- What the text of a key shows behind the version. -/
def remainder (k : CacheKey) : Text :=
  match k.activeFile with
  | some (c :: r) => k.scope ++ separator ++ (c :: r)
  | _ => k.scope

/-- The text of a key: its name, its version and what is left, with double colons between them. -/
theorem text_eq (k : CacheKey) :
    k.text = k.uri ++ separator ++ (versionText k.version ++ separator ++ k.remainder) := by
  unfold text remainder versionText
  split <;> simp [*, List.intercalate]

/-- The keys of a document begin with its lead. -/
theorem documentLead_prefix_text (k : CacheKey) : documentLead k.uri <+: k.text := by
  rw [text_eq, documentLead, versionText]
  exact ⟨Text.ofInt k.version ++ separator ++ k.remainder, by simp⟩

/-- One of two names begins with the lead of the other one. -/
def Overlap (u u' : Text) : Prop := documentLead u <+: u' ∨ documentLead u' <+: u

/-- The lead of a document can begin with that of another one only inside its name. -/
theorem prefix_of_documentLead_prefix {u u' : Text}
    (h : documentLead u <+: documentLead u') : u = u' ∨ documentLead u <+: u' := by
  rcases h with ⟨r, hr⟩
  simp only [documentLead, separator, List.append_assoc] at hr
  rcases List.append_eq_append_iff.mp hr with ⟨a, rfl, ha⟩ | ⟨b, rfl, hb⟩
  · -- the second name is longer by `a`: not by one or two characters, as `v` is no colon
    match a, ha with
    | [], _ => exact Or.inl (List.append_nil u).symm
    | [_], ha => simp at ha
    | [_, _], ha => simp at ha
    | x :: y :: z :: more, ha =>
      simp only [List.cons_append, List.nil_append, List.cons.injEq] at ha
      rcases ha with ⟨rfl, rfl, rfl, -⟩
      exact Or.inr ⟨more, by simp [documentLead, separator]⟩
  · -- the second name is not shorter
    have hlength := congrArg List.length hb
    simp only [List.length_append, List.length_cons, List.length_nil] at hlength
    have hnil : b = [] := List.eq_nil_of_length_eq_zero (by omega)
    exact Or.inl (by rw [hnil, List.append_nil])

/-- A key begins with the lead of its own document, and else only with that of a document whose
name overlaps with its own. -/
theorem eq_or_overlap {k : CacheKey} {u : Text} (h : documentLead u <+: k.text) :
    k.uri = u ∨ Overlap u k.uri := by
  rcases List.prefix_or_prefix_of_prefix h k.documentLead_prefix_text with hlead | hlead
  · rcases prefix_of_documentLead_prefix hlead with hsame | hinside
    · exact Or.inl hsame.symm
    · exact Or.inr (Or.inl hinside)
  · rcases prefix_of_documentLead_prefix hlead with hsame | hinside
    · exact Or.inl hsame
    · exact Or.inr (Or.inr hinside)

/-- The pieces of a key whose name is one. -/
theorem segments_text (h : Closed k.uri) :
    segments k.text = k.uri :: versionText k.version :: segments k.remainder := by
  have hversion : Closed (versionText k.version) :=
    closed_of_not_mem (not_colon_of_mem_versionText k.version)
  rw [text_eq, segments_append h, segments_append hversion]

/-- A text of three pieces or more is read as a key when the second one is read as a version. -/
theorem decode_of_segments {key uri number scope : Text} {files : List Text}
    (h : segments key = uri :: number :: scope :: files) :
    decode key = do
      let n ← readVersion number
      return ⟨uri, n, scope,
        if files.isEmpty then none else some (separator.intercalate files)⟩ := by
  unfold decode
  rw [h]

/-- A text is read as a key exactly when it is cut into the parts of the key. -/
theorem decode_eq_ok_iff {key : Text} :
    decode key = .ok k ↔
      ∃ number files n, segments key = k.uri :: number :: k.scope :: files ∧
        readVersion number = .ok n ∧ k.version = n ∧
        k.activeFile = if files.isEmpty then none else some (separator.intercalate files) := by
  rcases k with ⟨uri, version, scope, file⟩
  constructor
  · -- a decoded key: the pieces matched the pattern and the version was read
    intro h
    unfold decode at h
    split at h
    · rename_i first number third files hpieces
      cases hread : readVersion number with
      | error fault =>
        rw [hread] at h
        have hfault : Except.error fault = Except.ok _ := h
        cases hfault
      | ok n =>
        rw [hread] at h
        have hparts : Except.ok _ = Except.ok _ := h
        cases hparts
        exact ⟨number, files, n, hpieces, hread, rfl, rfl⟩
    · cases h
  · -- and conversely the pieces determine every field
    rintro ⟨number, files, n, hpieces, hread, hversion, hfile⟩
    simp only at hpieces hversion hfile
    rw [decode_of_segments hpieces, hread, hversion, hfile]
    rfl

/-- A key whose parts are told apart in its text. -/
structure Separable (k : CacheKey) : Prop where
  version_nonneg : 0 ≤ k.version
  uri_noSeparator : ¬ separator <:+: k.uri
  uri_noColon : k.uri.getLast? ≠ some (.char ':')
  scope_noSeparator : ¬ separator <:+: k.scope
  /-- In front of an active file the scope does not end in a colon. -/
  scope_noColon : k.activeFile = none ∨ k.scope.getLast? ≠ some (.char ':')
  /-- An empty active file is not shown. -/
  file_shown : k.activeFile ≠ some []

/-- The pieces of the text are the parts of the key. -/
theorem Separable.segments (h : k.Separable) :
    ∃ files, segments k.text = k.uri :: versionText k.version :: k.scope :: files ∧
      k.activeFile = if files.isEmpty then none else some (separator.intercalate files) := by
  have hpieces := segments_text ⟨h.uri_noSeparator, h.uri_noColon⟩
  cases hfile : k.activeFile with
  | none =>
    -- the scope comes last, and is one piece
    have hremainder : k.remainder = k.scope := by simp only [remainder, hfile]
    rw [hremainder, segments_of_not_infix h.scope_noSeparator] at hpieces
    exact ⟨[], hpieces, rfl⟩
  | some file =>
    rcases List.exists_cons_of_ne_nil (fun hnil => h.file_shown (hnil ▸ hfile)) with ⟨c, r, rfl⟩
    have hremainder : k.remainder = k.scope ++ separator ++ (c :: r) := by
      simp only [remainder, hfile]
    have hcolon : k.scope.getLast? ≠ some (.char ':') :=
      h.scope_noColon.resolve_left (hfile ▸ Option.some_ne_none _)
    rw [hremainder, segments_append ⟨h.scope_noSeparator, hcolon⟩] at hpieces
    refine ⟨_, hpieces, ?_⟩
    rw [List.isEmpty_eq_false_iff.mpr (segments_ne_nil _), intercalate_segments]
    rfl

/-- A key whose parts are told apart is read back from its text, if its version is not too long. -/
theorem Separable.decode_text (h : k.Separable) (hshort : k.version < 10 ^ Text.digitLimit) :
    decode k.text = .ok k := by
  rcases h.segments with ⟨files, hpieces, hfile⟩
  rcases Int.eq_ofNat_of_zero_le h.version_nonneg with ⟨n, hn⟩
  have hlt : n < 10 ^ Text.digitLimit := natCast_lt_iff.mp (hn ▸ hshort)
  have hread : readVersion (versionText k.version) = .ok n := by
    rw [hn, readVersion_ofNat, if_pos hlt]
  exact decode_eq_ok_iff.mpr ⟨_, files, n, hpieces, hread, hn, hfile⟩

/-- A key that is read back from its text has parts that are told apart. -/
theorem separable_of_decode_text (h : decode k.text = .ok k) :
    k.Separable ∧ k.version < 10 ^ Text.digitLimit := by
  rcases decode_eq_ok_iff.mp h with ⟨number, files, n, hpieces, hread, hversion, hfile⟩
  -- the name is the first of several pieces, so what is behind it was cut off there
  have huri : Closed k.uri := closed_of_segments hpieces
  rw [segments_text huri, List.cons.injEq, List.cons.injEq] at hpieces
  rcases hpieces with ⟨-, rfl, hremainder⟩
  -- with too many digits the version would not have been read
  have hlt : n < 10 ^ Text.digitLimit := by
    by_contra hlarge
    rw [hversion, readVersion_ofNat, if_neg hlarge] at hread
    cases hread
  have hscope : ¬ separator <:+: k.scope := separator_not_infix_of_segments hremainder
  have hnonneg : 0 ≤ k.version := by omega
  have hcolon : k.activeFile = none ∨ k.scope.getLast? ≠ some (.char ':') := by
    cases files with
    | nil => exact Or.inl hfile
    | cons file more => exact Or.inr (closed_of_segments hremainder).noColon
  have hshown : k.activeFile ≠ some [] := by
    intro hempty
    -- the text shows the scope alone, which is one piece, and so no active file is read
    have halone : k.remainder = k.scope := by simp only [remainder, hempty]
    rw [halone, segments_of_not_infix hscope, List.cons.injEq] at hremainder
    rw [← hremainder.2, hempty] at hfile
    cases hfile
  refine ⟨⟨hnonneg, huri.noSeparator, huri.noColon, hscope, hcolon, hshown⟩, ?_⟩
  rw [hversion]
  exact natCast_lt_iff.mpr hlt

/-- Keys whose parts are told apart show different texts. -/
theorem text_injOn : Set.InjOn text { k : CacheKey | k.Separable } := by
  intro k hk k' hk' htext
  -- the pieces of the text give the parts back, also where the version is too long to be read
  rcases hk.segments with ⟨files, hpieces, hfile⟩
  rcases hk'.segments with ⟨files', hpieces', hfile'⟩
  rw [htext, hpieces'] at hpieces
  simp only [List.cons.injEq] at hpieces
  rcases hpieces with ⟨huri, hversion, hscope, rfl⟩
  have hversion : k.version = k'.version :=
    (versionText_inj hk'.version_nonneg hk.version_nonneg hversion).symm
  rcases k with ⟨uri, version, scope, file⟩
  rcases k' with ⟨uri', version', scope', file'⟩
  simp only at huri hversion hscope hfile hfile'
  rw [huri, hversion, hscope, hfile, hfile']

/-! ## Keys as texts -/

/-- A key is written unless its version has too many digits. -/
theorem encode_eq_ok_iff :
    k.encode = .ok t ↔ k.version.natAbs < 10 ^ Text.digitLimit ∧ k.text = t := by
  rw [encode, ← Text.isWritable_iff]
  cases Text.isWritable k.version <;> simp

/-- A key is not written when its version has too many digits, whatever the sign. -/
theorem encode_eq_error_iff :
    k.encode = .error .longInteger ↔ 10 ^ Text.digitLimit ≤ k.version.natAbs := by
  rw [← Nat.not_lt, encode, ← Text.isWritable_iff]
  cases Text.isWritable k.version <;> simp

/-- A version that is not below zero can be written when it is short enough to be read. -/
theorem encode_of_short (hnonneg : 0 ≤ k.version) (hshort : k.version < 10 ^ Text.digitLimit) :
    k.encode = .ok k.text := by
  rcases Int.eq_ofNat_of_zero_le hnonneg with ⟨n, hn⟩
  refine encode_eq_ok_iff.mpr ⟨?_, rfl⟩
  rw [hn] at hshort ⊢
  exact natCast_lt_iff.mp hshort

/-- A key has a text that gives the key back exactly when its parts are told apart and its version
has not too many digits. It has no text at all when its version has too many, whatever the sign.
Keys that have texts which give them back have different texts. -/
theorem decode_encode_iff :
    (∀ k : CacheKey, (∃ t, k.encode = .ok t ∧ decode t = .ok k) ↔
      k.Separable ∧ k.version < 10 ^ Text.digitLimit) ∧
    (∀ k : CacheKey,
      k.encode = .error .longInteger ↔ 10 ^ Text.digitLimit ≤ k.version.natAbs) ∧
    Set.InjOn encode { k : CacheKey | k.Separable ∧ k.version < 10 ^ Text.digitLimit } := by
  refine ⟨fun k => ⟨?_, ?_⟩, fun k => encode_eq_error_iff, ?_⟩
  · rintro ⟨t, hencode, hdecode⟩
    rcases encode_eq_ok_iff.mp hencode with ⟨-, rfl⟩
    exact separable_of_decode_text hdecode
  · rintro ⟨hk, hshort⟩
    exact ⟨k.text, encode_of_short hk.version_nonneg hshort, hk.decode_text hshort⟩
  · rintro k ⟨hk, hshort⟩ k' ⟨hk', hshort'⟩ hsame
    rw [encode_of_short hk.version_nonneg hshort,
      encode_of_short hk'.version_nonneg hshort'] at hsame
    exact text_injOn hk hk' (Except.ok.inj hsame)

/-- A key whose version has one digit too many. -/
def longKey : CacheKey := ⟨[.char 'u'], (10 ^ Text.digitLimit : Nat), [.char 's'], none⟩

/-- The parts of the key are told apart, and still it has no text, because of the version. -/
theorem separable_longKey_not_encoded :
    longKey.Separable ∧ longKey.encode = .error .longInteger := by
  refine ⟨⟨Int.natCast_nonneg _, by decide, by decide, by decide, Or.inl rfl,
    (Option.some_ne_none _).symm⟩, ?_⟩
  exact encode_eq_error_iff.mpr (Nat.le_refl _)

end Placement.CacheKey
