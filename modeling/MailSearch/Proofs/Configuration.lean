import Mathlib.Algebra.Group.Nat.Defs
import MailSearch.Configuration
import MailSearch.Proofs.Data.IdMap
import MailSearch.Proofs.Storage.Folder
import MailSearch.Proofs.Text.Utf8
import MailSearch.Proofs.Toml.Document

/-!
# Saved configurations

A configuration that was saved is loaded as it was.  One with a number that
cannot be written is not saved, and no file changes.
-/

namespace MailSearch
namespace Configuration

open Storage (Folder)

/-! ## Sections -/

/-- The entries about the log. -/
def generalEntries (configuration : Configuration) : List (String × Toml) :=
  (configuration.cacheDir.map fun directory =>
      ("cache_dir", Toml.string directory)).toList ++
    [("log_level", .string configuration.logLevel)]

/-- The entries about queries. -/
def queryEntries (query : Query.Settings) : List (String × Toml) :=
  [("default_limit", .integer query.defaultLimit),
    ("max_filter_depth", .integer query.maxFilterDepth),
    ("default_sort", .array (query.defaultSort.map .string)),
    ("preview_length", .integer query.previewLength)]

theorem sections_eq
    (configuration : Configuration) :
    configuration.sections =
      [("general", configuration.generalEntries),
        ("query", queryEntries configuration.query)] :=
  rfl

/-- The names in a configuration. -/
def usedNames : List String :=
  ["general", "cache_dir", "log_level", "query", "default_limit",
    "max_filter_depth", "default_sort", "preview_length"]

/-- No name in a configuration needs quotes. -/
theorem isName_of_mem :
    ∀ name ∈ usedNames, Toml.IsName name := by
  have bare : ∀ name ∈ usedNames, name.toList ≠ [] ∧
      name.toList.all Toml.isBare = true := by
    decide
  exact fun name isUsed => (bare name isUsed).imp_right List.all_eq_true.mp

theorem isSection_general
    (configuration : Configuration) :
    Toml.IsSection ("general", configuration.generalEntries) := by
  obtain ⟨cacheDir, logLevel, query⟩ := configuration
  refine ⟨isName_of_mem _ (by simp [usedNames]), ?_, ?_, ?_⟩
  · have names : Toml.IsName "cache_dir" ∧ Toml.IsName "log_level" :=
      ⟨isName_of_mem _ (by simp [usedNames]),
        isName_of_mem _ (by simp [usedNames])⟩
    cases cacheDir <;> simp [generalEntries, names]
  · cases cacheDir <;> simp [generalEntries, Toml.Written.string]
  · cases cacheDir <;> simp [generalEntries]

theorem isSection_query
    {query : Query.Settings}
    (fits : ∀ number ∈
        [query.defaultLimit, query.maxFilterDepth, query.previewLength],
      Toml.isInteger number = true) :
    Toml.IsSection ("query", queryEntries query) := by
  have texts :
      Toml.Written Toml.bound (.array (query.defaultSort.map .string)) := by
    refine @Toml.Written.array 78 _ fun item isItem => ?_
    obtain ⟨text, -, rfl⟩ := List.mem_map.mp isItem
    exact .string text
  simp only [List.forall_mem_cons] at fits
  obtain ⟨limit, depth, preview, -⟩ := fits
  refine ⟨isName_of_mem _ (by simp [usedNames]), ?_, ?_, ?_⟩
  · have listed : ∀ entry ∈ queryEntries query, entry.1 ∈ usedNames := by
      simp [queryEntries, usedNames]
    exact fun entry isEntry => isName_of_mem _ (listed entry isEntry)
  · simp [queryEntries, Toml.Written.integer, limit, depth, preview, texts]
  · simp [queryEntries]

/-- The sections of a configuration can be written if its numbers can. -/
theorem isSection_of_isWritable
    {configuration : Configuration}
    (writable : configuration.isWritable = true) :
    ∀ part ∈ configuration.sections, Toml.IsSection part := by
  rw [isWritable, List.all_eq_true] at writable
  rw [sections_eq, List.forall_mem_cons, List.forall_mem_singleton]
  exact ⟨isSection_general configuration, isSection_query writable⟩

/-! ## Reading what was written -/

theorem count?_integer
    (number : Nat) :
    count? (.integer number) = some number := by
  rw [count?, if_neg (Int.not_lt.mpr (Int.natCast_nonneg number)),
    Int.toNat_natCast]

theorem texts?_map_string
    (texts : List String) :
    texts? (.array (texts.map .string)) = some texts := by
  have each : (text? ∘ Toml.string) = (some : String -> Option String) := rfl
  rw [texts?, List.mapM_map, each]
  exact List.mapM_pure.trans (congrArg some (List.map_id texts))

theorem general?_generalEntries
    (configuration : Configuration) :
    general? (.table configuration.generalEntries) =
      some (configuration.cacheDir, configuration.logLevel) := by
  obtain ⟨cacheDir, logLevel, query⟩ := configuration
  cases cacheDir with
  | none =>
      simp [general?, members?, generalEntries, IdMap.lookup_cons_eq_ite,
        member, text?]
  | some directory =>
      simp [general?, members?, generalEntries, IdMap.lookup_cons_eq_ite,
        member, text?]

theorem query?_queryEntries
    (query : Query.Settings) :
    query? (.table (queryEntries query)) = some query := by
  have limit : (queryEntries query).lookup "default_limit" =
      some (.integer query.defaultLimit) := by
    simp [queryEntries]
  have depth : (queryEntries query).lookup "max_filter_depth" =
      some (.integer query.maxFilterDepth) := by
    simp [queryEntries, IdMap.lookup_cons_eq_ite]
  have sort : (queryEntries query).lookup "default_sort" =
      some (.array (query.defaultSort.map .string)) := by
    simp [queryEntries, IdMap.lookup_cons_eq_ite]
  have preview : (queryEntries query).lookup "preview_length" =
      some (.integer query.previewLength) := by
    simp [queryEntries, IdMap.lookup_cons_eq_ite]
  simp only [query?, members?, bind, Option.bind_some, limit, depth, sort,
    preview, member, count?_integer, texts?_map_string]
  rfl

/-- The table of the sections of a configuration denotes it. -/
theorem ofToml?_sections
    (configuration : Configuration) :
    ofToml? (.table (configuration.sections.map fun part =>
        (part.1, .table part.2))) =
      some configuration := by
  simp [sections_eq, ofToml?, members?, IdMap.lookup_cons_eq_ite, member,
    general?_generalEntries, query?_queryEntries]

/-- The text of a configuration is read as the configuration. -/
theorem ofChars?_print
    {configuration : Configuration}
    (writable : configuration.isWritable = true) :
    ofChars? configuration.print = some configuration := by
  have distinct : (configuration.sections.map Prod.fst).Nodup := by
    rw [sections_eq]
    simp
  rw [ofChars?, print,
    Toml.read?_sections (isSection_of_isWritable writable) distinct,
    Option.bind_some, ofToml?_sections]

/-- The numbers that can be written are those below half of what 64 bits
hold. -/
theorem isWritable_iff
    {configuration : Configuration} :
    configuration.isWritable = true ↔
      configuration.query.defaultLimit < 2 ^ 63 ∧
        configuration.query.maxFilterDepth < 2 ^ 63 ∧
        configuration.query.previewLength < 2 ^ 63 := by
  have isInteger_iff : ∀ number : Nat, Toml.isInteger number = true ↔
      number < 2 ^ 63 := by
    intro number
    simp only [Toml.isInteger, Bool.and_eq_true, decide_eq_true_eq]
    omega
  simp [isWritable, isInteger_iff]

/-! ## Saving -/

/-- A file can be written at a path, in directories that are made if they are
not there. -/
def CanWrite (folder : Folder) (path : String) : Prop :=
  ∃ made place, makeRoom Folder.access path folder = (.ok (), made) ∧
    made.writable path = .ok place

section Saving

variable {folder made after : Folder} {path : String}
  {configuration : Configuration}

/-- Making room only adds directories. -/
theorem extends_makeRoom
    {result : Except Storage.FileError Unit}
    (makes : makeRoom Folder.access path folder = (result, made)) :
    made.Extends folder := by
  unfold makeRoom at makes
  cases isParent : Storage.Path.parent? path.toList with
  | none =>
      rw [isParent] at makes
      cases makes
      exact .refl folder
  | some directory =>
      rw [isParent] at makes
      dsimp only at makes
      rw [Folder.access_makeDirectories] at makes
      cases grown : folder.makeDirectories (String.ofList directory) with
      | error cause =>
          rw [grown] at makes
          cases makes
          exact .refl folder
      | ok changed =>
          rw [grown] at makes
          cases makes
          exact Folder.extends_makeLineage grown

theorem save_of_noRoom
    {cause : Storage.FileError}
    (makes : makeRoom Folder.access path folder = (.error cause, made)) :
    save Folder.access path configuration folder =
      (.error (.unwritable cause), made) := by
  unfold save
  simp only [bind, StateT.bind, makes]
  rfl

theorem save_of_outOfRange
    (makes : makeRoom Folder.access path folder = (.ok (), made))
    (unwritable : configuration.isWritable = false) :
    save Folder.access path configuration folder =
      (.error .outOfRange, made) := by
  have noText : configuration.toChars? = none := by
    rw [toChars?, unwritable, if_neg Bool.false_ne_true]
  unfold save
  -- Behind a variable nothing evaluates the comparisons with the bounds of
  -- integers.
  generalize configuration.toChars? = result at noText ⊢
  subst noText
  simp only [bind, StateT.bind, makes]
  rfl

theorem save_of_write
    (makes : makeRoom Folder.access path folder = (.ok (), made))
    (writable : configuration.isWritable = true)
    (writes : made.write path (Text.Utf8.encode configuration.print) =
      .ok after) :
    save Folder.access path configuration folder = (.ok (), after) := by
  have isText : configuration.toChars? = some configuration.print := by
    rw [toChars?, if_pos writable]
  have written :=
    Folder.access_write made path (Text.Utf8.encode configuration.print)
  rw [writes] at written
  unfold save
  generalize configuration.toChars? = result at isText ⊢
  subst isText
  simp only [bind, StateT.bind, makes, written]
  rfl

/-- A configuration is loaded from a file with its text. -/
theorem load_eq
    (writable : configuration.isWritable = true)
    (read : folder.read path = .ok (Text.Utf8.encode configuration.print)) :
    load Folder.access path folder = (configuration, folder) := by
  have text : Folder.access.readText path folder =
      (.ok configuration.print, folder) := by
    unfold Storage.Files.readText
    simp only [bind, StateT.bind, Folder.access, read, Text.Utf8.decode?_encode]
    rfl
  unfold load
  simp only [bind, StateT.bind, text, ofChars?_print writable]
  rfl

/-- A file that is read is there. -/
theorem loadUsual_eq
    (read : folder.read path = .ok (Text.Utf8.encode configuration.print)) :
    loadUsual Folder.access (some path) folder =
      load Folder.access path folder := by
  obtain ⟨place, resolves, -⟩ := Folder.read_eq_ok_iff.mp read
  have there : folder.leadsSomewhere path = true := by
    rw [Folder.leadsSomewhere, resolves]
    rfl
  unfold loadUsual
  simp only [bind, StateT.bind, Folder.access, there]
  rfl

end Saving

/--
A configuration that was saved is loaded as it was, whatever its texts are.  If
one of its numbers is too great it is not saved, and every file is read as
before.
-/
theorem saved_loads_back
    (folder : Folder)
    (path : String)
    (configuration : Configuration) :
    (configuration.query.defaultLimit < 2 ^ 63 →
      configuration.query.maxFilterDepth < 2 ^ 63 →
      configuration.query.previewLength < 2 ^ 63 →
      CanWrite folder path →
      ∃ after, save Folder.access path configuration folder = (.ok (), after) ∧
        load Folder.access path after = (configuration, after) ∧
        loadUsual Folder.access (some path) after = (configuration, after)) ∧
    (2 ^ 63 ≤ configuration.query.defaultLimit ∨
      2 ^ 63 ≤ configuration.query.maxFilterDepth ∨
      2 ^ 63 ≤ configuration.query.previewLength →
      ∃ cause after,
          save Folder.access path configuration folder = (.error cause, after) ∧
        (CanWrite folder path → cause = .outOfRange) ∧
        ∀ file bytes, folder.read file = .ok bytes →
          after.read file = .ok bytes) := by
  constructor
  · rintro limit depth preview ⟨made, place, makes, canWrite⟩
    have writable := isWritable_iff.mpr ⟨limit, depth, preview⟩
    obtain ⟨after, writes⟩ :
        ∃ after, made.write path (Text.Utf8.encode configuration.print) =
          .ok after :=
      ⟨_, Folder.write_eq_ok_iff.mpr ⟨place, canWrite, rfl⟩⟩
    have read := Folder.read_of_write writes
    have loads := load_eq writable read
    exact ⟨_, save_of_write makes writable writes, loads,
      (loadUsual_eq read).trans loads⟩
  · intro tooGreat
    have unwritable : configuration.isWritable = false := by
      rw [Bool.eq_false_iff, ne_eq, isWritable_iff]
      omega
    obtain ⟨⟨cause | done, made⟩, makes⟩ :
        ∃ outcome, makeRoom Folder.access path folder = outcome :=
      ⟨_, rfl⟩
    · refine ⟨_, made, save_of_noRoom makes, ?_,
        fun file bytes => (extends_makeRoom makes).read_eq_ok⟩
      rintro ⟨grown, place, grows, -⟩
      rw [makes] at grows
      cases grows
    · exact ⟨_, made, save_of_outOfRange makes unwritable, fun _ => rfl,
        fun file bytes => (extends_makeRoom makes).read_eq_ok⟩

namespace Odd

/-- A configuration with quotes, backslashes, a line break, control characters
and empty texts. -/
def texts : Configuration :=
  ⟨some "C:\\\"mail\"\n\x00", "", ⟨2 ^ 63 - 1, 0, ["'\t'", ""], 1⟩⟩

/-- A configuration with the least number that is too great. -/
def limit : Configuration :=
  ⟨none, "warn", ⟨2 ^ 63, 10, [], 256⟩⟩

/-- A folder with a saved file. -/
def folder : Folder :=
  Folder.empty.set ["saved".toList, "config.toml".toList] [0x23]

theorem canWrite :
    CanWrite folder "saved/config.toml" :=
  ⟨folder, ["saved".toList, "config.toml".toList], rfl, rfl⟩

/-- The odd texts take the place of what was saved, and the great number does
not. -/
theorem only_texts_saved :
    (∃ after,
      save Folder.access "saved/config.toml" texts folder = (.ok (), after) ∧
        load Folder.access "saved/config.toml" after = (texts, after) ∧
        loadUsual Folder.access (some "saved/config.toml") after =
          (texts, after)) ∧
    ∃ cause after,
      save Folder.access "saved/config.toml" limit folder =
          (.error cause, after) ∧
        (CanWrite folder "saved/config.toml" → cause = .outOfRange) ∧
        ∀ file bytes, folder.read file = .ok bytes →
          after.read file = .ok bytes :=
  ⟨(saved_loads_back folder "saved/config.toml" texts).1 (by decide) (by decide)
      (by decide)
      canWrite,
    (saved_loads_back folder "saved/config.toml" limit).2
      (.inl (Nat.le_refl _))⟩

end Odd

end Configuration
end MailSearch
