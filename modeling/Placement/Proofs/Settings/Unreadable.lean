import Mathlib.Data.List.Basic
import Placement.Proofs.Settings.Reading
import Placement.Toml.Library

/-!
# Placement.Proofs.Settings.Unreadable — saving to a file that cannot be read

A file that may not be opened, or whose text breaks the rules of its format, counts as
an empty one (`CountsAsEmpty`), and a save writes what was read and one setting more. So
of such a file nothing is kept but the setting that is saved, if the file can be opened
for writing (`file_save_of_empty`). Where reading fails in another way, the save fails
with it and writes nothing (`file_save_of_fault`). A save therefore keeps a file that it
cannot read exactly when the file is not of the first sort, cannot be written, or holds
already what is written (`save_keeps_unreadable_iff`).
-/

namespace Placement.Settings

variable {toml : Toml.Library} {file : SettingsFile}

/-! ## Files that cannot be read -/

/-- The file is there, but no record is read from it. -/
def Unreadable (toml : Toml.Library) (file : SettingsFile) : Prop :=
  match file.content with
  | .missing => False
  | .directory => True
  | .bytes _ => True
  | .text t => file.mayRead = false ∨ ∃ fault, toml.read (normalizeLines t) = .error fault

/-- The file may not be read, or the library says that its text breaks the rules of its format. -/
def CountsAsEmpty (toml : Toml.Library) (file : SettingsFile) : Prop :=
  file.mayRead = false ∨
    ∃ t, file.content = .text t ∧ toml.read (normalizeLines t) = .error .malformed

theorem load_of_directory (h : file.content = .directory) :
    load toml file = .ok (unreadable file) := by
  rw [load, h]

/-- A file that is there and counts as empty is read without a record, with a notice. -/
theorem load_of_countsAsEmpty (h : CountsAsEmpty toml file) (hthere : file.content ≠ .missing) :
    load toml file = .ok (unreadable file) := by
  rw [load]
  rcases h with hmay | ⟨t, hcontent, hread⟩
  · cases hcontent : file.content with
    | missing => exact absurd hcontent hthere
    | directory => rfl
    | text t | bytes bs => simp only [hmay, Bool.false_eq_true, if_false]
  · rw [hcontent]
    cases hmay : file.mayRead with
    | false => simp only [Bool.false_eq_true, if_false]
    | true => simp only [if_true, readText, hread]

/-- Any other file that cannot be read makes the reading fail. -/
theorem exists_fault_of_not_countsAsEmpty (h : Unreadable toml file)
    (hnot : ¬ CountsAsEmpty toml file) (hplain : file.content ≠ .directory) :
    ∃ fault, load toml file = .error fault := by
  rw [CountsAsEmpty, not_or, Bool.not_eq_false] at hnot
  obtain ⟨hmay, htext⟩ := hnot
  rw [Unreadable] at h
  rw [load]
  -- of the unreadable contents only those whose fault is caught count as empty
  cases hcontent : file.content with
  | missing =>
    rw [hcontent] at h
    exact h.elim
  | directory => exact absurd hcontent hplain
  | bytes bs => exact ⟨.notText, by simp only [hmay, if_true]⟩
  | text t =>
    rw [hcontent] at h
    rcases h with hclosed | ⟨fault, hread⟩
    · rw [hmay] at hclosed
      cases hclosed
    · have hfault : fault ≠ .malformed := by
        rintro rfl
        exact htext ⟨t, hcontent, hread⟩
      refine ⟨.file fault, ?_⟩
      simp only [hmay, if_true, readText, hread]

/-! ## What a save leaves of them -/

/-- The record with one setting of the analysis and nothing else. -/
def alone (n : Name) (v : Value) : Fields := [(analysisKey, .record [(n.key, v)])]

/-- What a record leaves in a file that is emptied and then written. -/
def remains (toml : Toml.Library) (fields : Fields) : FileContent :=
  .text ((toml.write fields).toOption.getD [])

/-- A record is written when the file can be opened for writing, and else the file stays as it is.
-/
theorem file_store (notices : List Notice) (fields : Fields) :
    (store toml file notices fields).file =
      if opensForWriting file then { file with content := remains toml fields } else file := by
  unfold store remains
  cases opensForWriting file with
  | false => rfl
  | true => cases toml.write fields <;> rfl

/-- A file that is read without a record is replaced by the saved setting, if it can be written. -/
theorem file_save_of_empty (hload : load toml file = .ok (unreadable file)) (n : Name)
    (v : Value) :
    (save toml file n.key v).file =
      if opensForWriting file then { file with content := remains toml (alone n v) }
      else file := by
  unfold save
  rw [ofKey?_key, hload]
  exact file_store _ (alone n v)

/-- Where reading fails, nothing is written. -/
theorem file_save_of_fault {fault : Fault} (hload : load toml file = .error fault) (n : Name)
    (v : Value) : (save toml file n.key v).file = file := by
  unfold save
  rw [ofKey?_key, hload]
  rfl

/-- A save keeps a file that it cannot read exactly when the file does not count as empty, or cannot
be opened for writing, or has already what is written for the saved setting alone. Otherwise it is
replaced by that, or by nothing when that cannot be written. -/
theorem save_keeps_unreadable_iff (toml : Toml.Library) (h : Unreadable toml file) (n : Name)
    (v : Value) :
    ((save toml file n.key v).file = file ↔
      (CountsAsEmpty toml file → opensForWriting file = true →
        file.content = remains toml (alone n v))) ∧
    ((save toml file n.key v).file ≠ file →
      (save toml file n.key v).file = { file with content := remains toml (alone n v) }) := by
  have hthere : file.content ≠ .missing := by
    intro hmissing
    rw [Unreadable, hmissing] at h
    exact h
  by_cases hempty : CountsAsEmpty toml file ∨ file.content = .directory
  · have hload : load toml file = .ok (unreadable file) := by
      rcases hempty with hempty | hdirectory
      · exact load_of_countsAsEmpty hempty hthere
      · exact load_of_directory hdirectory
    rw [file_save_of_empty hload]
    cases hopens : opensForWriting file with
    | false =>
      rw [if_neg Bool.false_ne_true]
      exact ⟨⟨fun _ _ hopen => (nomatch hopen), fun _ => rfl⟩, fun hne => absurd rfl hne⟩
    | true =>
      -- a directory is not opened for writing, so the file counts as empty
      have hcounts : CountsAsEmpty toml file := by
        refine hempty.resolve_right fun hdirectory => ?_
        rw [opensForWriting, hdirectory] at hopens
        cases hopens
      rw [if_pos rfl]
      refine ⟨⟨fun hsame _ _ => (congrArg SettingsFile.content hsame).symm, fun hsame => ?_⟩,
        fun _ => rfl⟩
      rw [← hsame hcounts rfl]
  · rw [not_or] at hempty
    obtain ⟨fault, hload⟩ := exists_fault_of_not_countsAsEmpty h hempty.1 hempty.2
    -- where reading fails otherwise, the save does not come to write
    have hkeeps := file_save_of_fault hload n v
    exact ⟨⟨fun _ hcounts => absurd hcounts hempty.1, fun _ => hkeeps⟩,
      fun hne => absurd hkeeps hne⟩

/-- A settings file with an operator list, in which the last header is not closed. -/
def damagedFile : SettingsFile :=
  ⟨"config.toml".text, .text "[operators]\nsink = [ \"dest_sink\",]\n[analysis\n".text, true, true⟩

/-- The open header breaks the rules of the format. -/
theorem malformed_damagedFile :
    Toml.read (normalizeLines "[operators]\nsink = [ \"dest_sink\",]\n[analysis\n".text) =
      .error .malformed := by
  decide +kernel

/-- The file is read without a record, and a save does not keep it. -/
theorem save_keeps_unreadable_iff_damaged :
    Unreadable .standard damagedFile ∧
      (save .standard damagedFile Name.cacheSize.key (.int 5)).file ≠ damagedFile ∧
      (save .standard damagedFile Name.cacheSize.key (.int 5)).file =
        { damagedFile with content := remains .standard (alone .cacheSize (.int 5)) } := by
  have hbroken : Unreadable .standard damagedFile := Or.inr ⟨_, malformed_damagedFile⟩
  have hcounts : CountsAsEmpty .standard damagedFile := Or.inr ⟨_, rfl, malformed_damagedFile⟩
  obtain ⟨hkeeps, hleft⟩ := save_keeps_unreadable_iff .standard hbroken .cacheSize (.int 5)
  have hne : (save .standard damagedFile Name.cacheSize.key (.int 5)).file ≠ damagedFile := by
    intro hsame
    have hcontent := hkeeps.mp hsame hcounts rfl
    revert hcontent
    decide +kernel
  exact ⟨hbroken, hne, hleft hne⟩

/-- A save that reports success replaces the file, and the operator list in it is lost. -/
theorem save_loses_operator_list :
    Unreadable .standard damagedFile ∧
    (save .standard damagedFile Name.cacheSize.key (.int 5)).result = .ok true ∧
    (save .standard damagedFile Name.cacheSize.key (.int 5)).file.content =
      .text "[analysis]\ncache_size = 5\n".text ∧
    (save .standard damagedFile Name.cacheSize.key (.int 5)).file ≠ damagedFile := by
  refine ⟨Or.inr ⟨_, malformed_damagedFile⟩, ?_, ?_, ?_⟩ <;> decide +kernel

end Placement.Settings
