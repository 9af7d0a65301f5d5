import Placement.Proofs.Digit
import Placement.Proofs.Settings.Reading
import Placement.Toml.Library

/-!
# Placement.Proofs.Settings.Saving — saving changes what is saved

A save reads the whole file, changes one field of the table `analysis` and writes
the whole file again. So what the other fields mean is kept when the library reads
back what it has written (`ReadsBack`). This is asked of the records that the saves
write, and of no others (`written`), and nothing else is asked of the library.

One save leaves a file that reads as before but for the setting that was saved
(`exists_load_save`). By induction saves of any number leave under each name what was
saved last, or what was there before (`exists_load_saveAll`), and the settings and the
operator lists follow (`saveAll_changes_only`).
-/

namespace Placement.Settings

variable {toml : Toml.Library} {file : SettingsFile} {before after fields : Fields} {n : Name}
  {v : Value} {saves : List (Name × Value)}

/-! ## Changes of a record -/

/-- The value of a setting in a record, known or not. -/
def setting? (key : Text) (fields : Fields) : Option Value :=
  (Fields.get? analysisKey fields).bind (Value.get? key)

/-- What is saved last under a key. -/
def lastSaved (key : Text) (saves : List (Name × Value)) : Option Value :=
  (saves.reverse.find? fun s => s.1.key == key).map (·.2)

/-- Of some saves the later ones count before the first. -/
theorem lastSaved_cons (key : Text) (s : Name × Value) (more : List (Name × Value)) :
    lastSaved key (s :: more) =
      (lastSaved key more).or (if s.1.key = key then some s.2 else none) := by
  unfold lastSaved
  rw [List.reverse_cons, List.find?_append, Option.map_or, List.find?_singleton]
  by_cases h : s.1.key = key <;> simp [h]

/-- Nothing is saved last under a key that is not saved. -/
theorem lastSaved_eq_none {key : Text} (h : ∀ s ∈ saves, s.1.key ≠ key) :
    lastSaved key saves = none := by
  refine Option.map_eq_none_iff.mpr (List.find?_eq_none.mpr fun s hs => ?_)
  rw [beq_iff_eq]
  exact h s (List.mem_reverse.mp hs)

/-- What is saved last under a key was saved under it. -/
theorem exists_of_lastSaved (h : lastSaved n.key saves = some v) : (n, v) ∈ saves := by
  obtain ⟨s, hfind, rfl⟩ := Option.map_eq_some_iff.mp h
  have hkey := List.find?_some hfind
  rw [beq_iff_eq, key_inj] at hkey
  subst hkey
  exact List.mem_reverse.mp (List.mem_of_find?_eq_some hfind)

/-- The record has the settings that were saved, and nothing else has changed. -/
structure Changed (saves : List (Name × Value)) (before after : Fields) : Prop where
  others : ∀ name, name ≠ analysisKey →
    (Fields.get? name after).map Value.meaning = (Fields.get? name before).map Value.meaning
  settings : ∀ key, (setting? key after).map Value.meaning =
    ((lastSaved key saves).or (setting? key before)).map Value.meaning

/-- The analysis settings of a record are a table, or there are none. -/
def HasTable (fields : Fields) : Prop :=
  ∀ v, Fields.get? analysisKey fields = some v → ∃ table, v = .record table

/-- The meaning of a setting is known from the meaning of the record. -/
theorem setting?_meaning (key : Text) (fields : Fields) :
    (setting? key fields).map Value.meaning =
      (Value.meaningAt fields analysisKey).bind (Meaning.get? key) := by
  rw [Value.meaningAt_eq, setting?, Option.map_bind, Option.bind_map]
  congr 1
  funext v
  exact Value.meaning_get? key v

theorem Changed.refl (fields : Fields) : Changed [] fields fields :=
  ⟨fun _ _ => rfl, fun _ => rfl⟩

/-- The changes of one save and of those behind it are the changes of all. -/
theorem Changed.trans {s : Name × Value} {between : Fields} (hfirst : Changed [s] before between)
    (hmore : Changed saves between after) : Changed (s :: saves) before after where
  others := fun name hname => (hmore.others name hname).trans (hfirst.others name hname)
  settings := by
    intro key
    rw [hmore.settings, Option.map_or, hfirst.settings, lastSaved_cons, lastSaved_cons,
      ← Option.map_or, ← Option.or_assoc]
    rfl

/-- A record of the same meaning has changed in the same way. -/
theorem Changed.of_meaning (h : Changed saves before fields)
    (hmeaning : Value.meaningAt after = Value.meaningAt fields) : Changed saves before after where
  others := by
    intro name hname
    rw [← h.others name hname, ← Value.meaningAt_eq, ← Value.meaningAt_eq, hmeaning]
  settings := by
    intro key
    rw [← h.settings key, setting?_meaning, setting?_meaning, hmeaning]

/-- A record with the meaning of one that has a table has a table. -/
theorem HasTable.of_meaning (h : HasTable fields)
    (hmeaning : Value.meaningAt after = Value.meaningAt fields) : HasTable after := by
  intro v hv
  have hsame := congrFun hmeaning analysisKey
  rw [Value.meaningAt_eq, Value.meaningAt_eq, hv] at hsame
  obtain ⟨w, hw, hvw⟩ := Option.map_eq_some_iff.mp hsame.symm
  obtain ⟨table, rfl⟩ := h w hw
  cases v with
  | record table => exact ⟨table, rfl⟩
  | _ => cases hvw

/-- A setting is put into the table of the record, or into a new one. -/
theorem exists_putSetting (h : HasTable before) (n : Name) (v : Value) :
    ∃ fields, putSetting n.key v before = .ok fields ∧ HasTable fields ∧
      Changed [(n, v)] before fields := by
  -- a record without the table counts as one whose table is empty
  have hput : ∃ table, (∀ key, setting? key before = Fields.get? key table) ∧
      putSetting n.key v before =
        .ok (Fields.put analysisKey (.record (Fields.put n.key v table)) before) := by
    unfold putSetting setting?
    cases hentry : Fields.get? analysisKey before with
    | none => exact ⟨[], fun _ => rfl, rfl⟩
    | some w =>
      obtain ⟨table, rfl⟩ := h w hentry
      exact ⟨table, fun _ => rfl, rfl⟩
  obtain ⟨table, htable, hfields⟩ := hput
  refine ⟨_, hfields, ?_, ?_, ?_⟩
  · intro w hw
    rw [Fields.get?_put] at hw
    cases hw
    exact ⟨_, rfl⟩
  · intro name hname
    rw [Fields.get?_put_of_ne hname]
  · intro key
    have hnew : setting? key (Fields.put analysisKey (.record (Fields.put n.key v table)) before) =
        Fields.get? key (Fields.put n.key v table) := by
      rw [setting?, Fields.get?_put]
      rfl
    rw [hnew, htable, lastSaved_cons]
    by_cases hkey : key = n.key
    · subst hkey
      rw [Fields.get?_put, if_pos rfl]
      rfl
    · rw [Fields.get?_put_of_ne hkey, if_neg (Ne.symm hkey)]
      rfl

/-! ## Saves -/

/-- The file may be read and written. -/
structure MayUse (file : SettingsFile) : Prop where
  reading : file.mayRead = true
  writing : file.mayWrite = true

/-- The library writes the record, and reads what it has written as a record of the same meaning. -/
def ReadsBack (toml : Toml.Library) (fields : Fields) : Prop :=
  ∃ t found, toml.write fields = .ok t ∧ toml.read (normalizeLines t) = .ok found ∧
    Value.meaningAt found = Value.meaningAt fields

/-- The record that a save writes. -/
def saved? (toml : Toml.Library) (file : SettingsFile) (n : Name) (v : Value) : Option Fields :=
  (load toml file).toOption.bind fun loaded => (putSetting n.key v loaded.value).toOption

/-- The records that saves write, one after the other. -/
def written (toml : Toml.Library) : SettingsFile → List (Name × Value) → List Fields
  | _, [] => []
  | file, (n, v) :: more =>
    (saved? toml file n v).toList ++ written toml (save toml file n.key v).file more

/-- What saves answer, one after the other. -/
def answers (toml : Toml.Library) :
    SettingsFile → List (Name × Value) → List (Except Fault Bool)
  | _, [] => []
  | file, (n, v) :: more =>
    (save toml file n.key v).result :: answers toml (save toml file n.key v).file more

/-- The file behind some saves. -/
def saveAll (toml : Toml.Library) (file : SettingsFile) (saves : List (Name × Value)) :
    SettingsFile :=
  saves.foldl (fun file s => (save toml file s.1.key s.2).file) file

/-- A file with a text that the library reads gives its record. -/
theorem load_of_read {t : Text} (hread : file.mayRead = true) (hcontent : file.content = .text t)
    (hfields : toml.read (normalizeLines t) = .ok fields) :
    load toml file = .ok (pure fields) := by
  rw [load, hcontent]
  simp only [hread, if_true, readText, hfields]

/-- A file that was read without a notice holds a text that may be read, or is missing. -/
theorem content_of_load (h : load toml file = .ok (pure before)) :
    file.content = .missing ∨ file.mayRead = true ∧ ∃ t, file.content = .text t := by
  rw [load] at h
  -- loading without a notice leaves two kinds of file: none at all, or a text that may be read
  cases hcontent : file.content with
  | missing => exact Or.inl rfl
  | directory =>
    rw [hcontent] at h
    cases h
  | text t =>
    cases hread : file.mayRead with
    | true => exact Or.inr ⟨rfl, t, rfl⟩
    | false =>
      rw [hcontent, hread] at h
      cases h
  | bytes bs =>
    rw [hcontent] at h
    cases hread : file.mayRead <;> rw [hread] at h <;> cases h

/-- Such a file is written when it may be. -/
theorem store_of_load {notices : List Notice} {t : Text} (h : load toml file = .ok (pure before))
    (hmay : file.mayWrite = true) (hwrite : toml.write fields = .ok t) :
    store toml file notices fields = ⟨.ok true, notices, { file with content := .text t }⟩ := by
  have hopens : opensForWriting file = true := by
    rcases content_of_load h with hcontent | ⟨-, u, hcontent⟩ <;>
      simp only [opensForWriting, hcontent, hmay]
  rw [store, if_pos hopens, hwrite]

/-- One save is done, and leaves a file with nothing changed but the setting. -/
theorem exists_load_save (hmay : MayUse file) (hload : load toml file = .ok (pure before))
    (htable : HasTable before) (hback : ∀ fields ∈ saved? toml file n v, ReadsBack toml fields) :
    ∃ after, (save toml file n.key v).result = .ok true ∧
      MayUse (save toml file n.key v).file ∧
      load toml (save toml file n.key v).file = .ok (pure after) ∧ HasTable after ∧
      Changed [(n, v)] before after := by
  obtain ⟨fields, hput, hfields, hchanged⟩ := exists_putSetting htable n v
  -- the fields with the one key put in are what is written
  have hsaved : saved? toml file n v = some fields := by
    rw [saved?, hload]
    show (putSetting n.key v before).toOption = _
    rw [hput]
    rfl
  -- the library's promise: what it wrote it reads back with the same meaning
  obtain ⟨t, found, hwrite, hread, hmeaning⟩ := hback fields hsaved
  have hsave : save toml file n.key v =
      ⟨.ok true, [], { file with content := .text t }⟩ := by
    unfold save
    rw [ofKey?_key]
    simp only [Option.isNone_some, Bool.false_eq_true, if_false, hload, Logged.value_pure, hput,
      Logged.notices_pure]
    exact store_of_load hload hmay.writing hwrite
  rw [hsave]
  exact ⟨found, rfl, ⟨hmay.reading, hmay.writing⟩, load_of_read hmay.reading rfl hread,
    hfields.of_meaning hmeaning, hchanged.of_meaning hmeaning⟩

/-- Saves of any number are all done, and leave a file with nothing changed but their settings. -/
theorem exists_load_saveAll (hmay : MayUse file) (hload : load toml file = .ok (pure before))
    (htable : HasTable before) (hback : ∀ fields ∈ written toml file saves, ReadsBack toml fields) :
    ∃ after, (∀ answer ∈ answers toml file saves, answer = .ok true) ∧
      load toml (saveAll toml file saves) = .ok (pure after) ∧ HasTable after ∧
      Changed saves before after := by
  -- each save leaves another file, so the induction is for all files
  induction saves generalizing file before with
  | nil => exact ⟨before, nofun, hload, htable, Changed.refl before⟩
  | cons s more ih =>
    obtain ⟨n, v⟩ := s
    rw [written, List.forall_mem_append] at hback
    obtain ⟨between, hdone, hmayAgain, hfirst, hkept, hchanged⟩ :=
      exists_load_save hmay hload htable fun fields h => hback.1 fields (Option.mem_toList.mpr h)
    obtain ⟨after, hall, hlast, hkeptAll, hchangedAll⟩ := ih hmayAgain hfirst hkept hback.2
    exact ⟨after, List.forall_mem_cons.mpr ⟨hdone, hall⟩, hlast, hkeptAll,
      hchanged.trans hchangedAll⟩

/-! ## What is read behind saves -/

/-- What a setting takes of a value is known from the meaning. -/
theorem filter_takes_of_meaning {entry other : Option Value}
    (h : entry.map Value.meaning = other.map Value.meaning) :
    entry.filter n.takes = other.filter n.takes := by
  cases entry with
  | none =>
    cases other with
    | none => rfl
    | some w => cases h
  | some v =>
    cases other with
    | none => cases h
    | some w =>
      have hmeaning := Option.some.inj h
      -- a value that the setting takes has no fields whose order could differ
      by_cases hw : n.takes w = true
      · rw [Value.eq_of_meaning_eq (isPlain_of_takes hw) hmeaning]
      · by_cases hv : n.takes v = true
        · rw [Value.eq_of_meaning_eq (isPlain_of_takes hv) hmeaning.symm]
        · rw [Bool.not_eq_true] at hv hw
          rw [Option.filter_some_neg hv, Option.filter_some_neg hw]

/-- From a table, or without one, the settings are read. -/
theorem exists_loadAnalysis (hload : load toml file = .ok (pure fields))
    (htable : HasTable fields) :
    ∃ found, loadAnalysis toml file = .ok found ∧ ∀ n, valueOf found.value n =
      ((setting? n.key fields).filter n.takes).getD (valueOf .standard n) := by
  -- the analysis entry is missing or a table, so reading it cannot fail
  have hread : ∃ found, analysisIn (Fields.get? analysisKey fields) = .ok found := by
    cases hentry : Fields.get? analysisKey fields with
    | none => exact ⟨_, rfl⟩
    | some v =>
      obtain ⟨table, rfl⟩ := htable v hentry
      exact ⟨_, rfl⟩
  obtain ⟨found, hfound⟩ := hread
  refine ⟨.withNotices found.notices found.value, ?_, valueOf_analysisIn hfound⟩
  unfold loadAnalysis
  rw [hload]
  show (analysisIn (Fields.get? analysisKey fields) >>= _) = _
  rw [hfound]
  rfl

/-- The operator lists are those of the record that is read. -/
theorem loadOperators_of_load (hload : load toml file = .ok (pure fields)) :
    loadOperators toml file =
      (operatorsIn (Fields.get? operatorsKey fields)).map fun operators =>
        .withNotices operators.notices operators.value := by
  unfold loadOperators
  rw [hload]
  show (operatorsIn (Fields.get? operatorsKey fields) >>= _) = _
  cases operatorsIn (Fields.get? operatorsKey fields) <;> rfl

/-! ## Values in print -/

/-- An integer can be printed when it has no more digits than are read. -/
def Printable (v : Value) : Prop := ∀ k, v = .int k → k.natAbs < 10 ^ Text.digitLimit

/-- A setting takes back what it prints. -/
theorem coerce_shown (htakes : n.takes v = true) (hprint : Printable v) :
    coerce n.key v.shown = .ok v := by
  unfold coerce
  rw [ofKey?_key]
  -- one switch and three numbers; a printed value reads back as itself
  cases n with
  | enabled =>
    cases v with
    | bool b => cases b <;> decide
    | _ => cases htakes
  | queryTimeout | maxFileLines | cacheSize =>
    cases v with
    | int k =>
      have hread : Text.readInt (Value.int k).shown = .ok k := Text.readInt_ofInt (hprint k rfl)
      simp only [hread]
    | _ => cases htakes

/-! ## The file behind saves -/

/-- Behind some saves the file has the settings that were saved, and all else is as it was. -/
structure ChangesOnly (toml : Toml.Library) (file : SettingsFile) (saves : List (Name × Value)) :
    Prop where
  /-- Every save is done. -/
  done : ∀ answer ∈ answers toml file saves, answer = .ok true
  /-- A saved setting has the value that was saved last, and another one the value that it had. -/
  settings : ∃ old new, loadAnalysis toml file = .ok old ∧
    loadAnalysis toml (saveAll toml file saves) = .ok new ∧
    ∀ n, valueOf new.value n = (lastSaved n.key saves).getD (valueOf old.value n)
  /-- The operator lists are the same. -/
  operators : loadOperators toml (saveAll toml file saves) = loadOperators toml file
  /-- Every other section is still there with its value, and so is every other key of the analysis
  settings, known or not. What was not there is still missing. -/
  others : ∃ old new, load toml file = .ok (pure old) ∧
    load toml (saveAll toml file saves) = .ok (pure new) ∧
    (∀ name, name ≠ analysisKey →
      (Fields.get? name new).map Value.meaning = (Fields.get? name old).map Value.meaning) ∧
    ∀ key, (∀ s ∈ saves, s.1.key ≠ key) →
      (setting? key new).map Value.meaning = (setting? key old).map Value.meaning
  /-- A value is saved in the same way when it is given in print. -/
  printed : ∀ s ∈ saves, Printable s.2 → coerce s.1.key s.2.shown = .ok s.2

/-- Saves of values of the right kinds change the settings that they save and nothing else, in
every file whose analysis settings are a table or missing, if the library reads back what they
write. -/
theorem saveAll_changes_only (toml : Toml.Library) (hmay : MayUse file)
    (hload : load toml file = .ok (pure before)) (htable : HasTable before)
    (htakes : ∀ s ∈ saves, s.1.takes s.2 = true)
    (hback : ∀ fields ∈ written toml file saves, ReadsBack toml fields) :
    ChangesOnly toml file saves := by
  obtain ⟨after, hdone, hafter, hkept, hchanged⟩ := exists_load_saveAll hmay hload htable hback
  refine ⟨hdone, ?_, ?_, ⟨before, after, hload, hafter, hchanged.others, ?_⟩, ?_⟩
  · obtain ⟨old, hold, holdValues⟩ := exists_loadAnalysis hload htable
    obtain ⟨new, hnew, hnewValues⟩ := exists_loadAnalysis hafter hkept
    refine ⟨old, new, hold, hnew, fun n => ?_⟩
    -- what the file has of the wrong kind is ignored before and behind the saves
    rw [hnewValues, holdValues, filter_takes_of_meaning (hchanged.settings n.key)]
    cases hlast : lastSaved n.key saves with
    | none => rw [Option.none_or, Option.getD_none]
    | some v =>
      have hv : n.takes v = true := htakes (n, v) (exists_of_lastSaved hlast)
      rw [Option.some_or, Option.filter_some_pos hv]
      rfl
  · have hsame := hchanged.others operatorsKey (by decide)
    rw [loadOperators_of_load hload, loadOperators_of_load hafter, operatorsIn_of_meaning hsame]
  · intro key hkey
    rw [hchanged.settings, lastSaved_eq_none hkey, Option.none_or]
  · intro s hs hprint
    exact coerce_shown (htakes s hs) hprint

/-- A settings file with an unknown key, a value of the wrong kind and an operator list. -/
def mixedFile : SettingsFile :=
  ⟨"config.toml".text, .text
    ("[analysis]\nenabled = 3\ncache_size = 5\nlimit = 1.5\n\n".text ++
      "[operators]\nsink = [ \"sink\",]\n".text), true, true⟩

/-- What stands in the file. -/
def mixedFields : Fields :=
  [(analysisKey, .record
      [("enabled".text, .int 3), ("cache_size".text, .int 5),
        ("limit".text, .double (.ofDecimal false 15 (-1)))]),
    (operatorsKey, .record [("sink".text, .list [.text "sink".text])])]

/-- One setting is saved twice, and another one that the file has of the wrong kind. -/
def threeSaves : List (Name × Value) :=
  [(.cacheSize, .int 7), (.enabled, .bool false), (.cacheSize, .int 9)]

/-- The setting saved twice has the later value, and the value of the wrong kind is replaced by the
saved one. -/
theorem saveAll_changes_only_three_saves :
    (MayUse mixedFile ∧ load .standard mixedFile = .ok (pure mixedFields) ∧
      HasTable mixedFields ∧ (∀ s ∈ threeSaves, s.1.takes s.2 = true) ∧
      ∀ fields ∈ written .standard mixedFile threeSaves, ReadsBack .standard fields) ∧
    ChangesOnly .standard mixedFile threeSaves := by
  have hmay : MayUse mixedFile := ⟨rfl, rfl⟩
  have hload : load .standard mixedFile = .ok (pure mixedFields) :=
    load_of_read rfl rfl (by decide +kernel)
  have htable : HasTable mixedFields := by
    intro v hv
    cases hv
    exact ⟨_, rfl⟩
  have htakes : ∀ s ∈ threeSaves, s.1.takes s.2 = true := by decide
  -- of the records that are written the library reads back every one as it was
  have hsame : ∀ fields ∈ written .standard mixedFile threeSaves,
      (Toml.write fields).bind (fun t => Toml.read (normalizeLines t)) = .ok fields := by
    decide +kernel
  have hback : ∀ fields ∈ written .standard mixedFile threeSaves,
      ReadsBack .standard fields := by
    intro fields h
    have hread := hsame fields h
    cases hwrite : Toml.write fields with
    | ok t =>
      rw [hwrite] at hread
      exact ⟨t, fields, hwrite, hread, rfl⟩
    | error fault =>
      rw [hwrite] at hread
      cases hread
  exact ⟨⟨hmay, hload, htable, htakes, hback⟩,
    saveAll_changes_only .standard hmay hload htable htakes hback⟩

end Placement.Settings
