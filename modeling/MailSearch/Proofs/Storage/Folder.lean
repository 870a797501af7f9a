import Mathlib.Data.List.Basic
import MailSearch.Proofs.Data.Outcome
import MailSearch.Storage.Folder

/-!
# Folders that change

Directories and files are only added to a folder: what a path leads to stays
there when directories are made, and a file that was written is read as it is.
-/

namespace MailSearch
namespace Storage
namespace Folder

/-! ## Single names -/

/-- A name leads from a place to the next one. -/
inductive Enters (folder : Folder) (here : Place) :
    List Char -> Place -> Prop where
  /-- An empty name and a single dot lead nowhere else. -/
  | stay
      {name : List Char}
      (noFile : folder.file? here = none)
      (noName : name = [] ∨ name = ['.']) :
      Enters folder here name here
  /-- Two dots lead to the directory in front. -/
  | up
      (noFile : folder.file? here = none)
      (notTop : here ≠ []) :
      Enters folder here ['.', '.'] here.dropLast
  /-- Another name leads to what has this name. -/
  | down
      {name : List Char}
      (noFile : folder.file? here = none)
      (nonempty : name ≠ [])
      (ordinary : isDots name = false)
      (short : Text.Utf8.size name ≤ longestName)
      (taken : folder.isTaken (here ++ [name]) = true) :
      Enters folder here name (here ++ [name])

theorem isDots_eq_false_iff
    {name : List Char} :
    isDots name = false ↔ name ≠ ['.'] ∧ name ≠ ['.', '.'] := by
  simp [isDots]

/-- Behind a name that leads on the other names are followed. -/
theorem Enters.follow_cons
    {folder : Folder}
    {here next : Place}
    {name : List Char}
    (enters : folder.Enters here name next)
    (later : List (List Char)) :
    folder.follow here (name :: later) = folder.follow next later := by
  cases enters with
  | stay noFile noName =>
      rw [follow, noFile, Option.isSome_none, if_neg Bool.false_ne_true,
        if_pos noName]
  | up noFile notTop =>
      rw [follow, noFile, Option.isSome_none, if_neg Bool.false_ne_true,
        if_neg (by decide),
        if_pos rfl, if_neg (by simpa using notTop)]
  | down noFile nonempty ordinary short taken =>
      obtain ⟨notDot, notUp⟩ := isDots_eq_false_iff.mp ordinary
      rw [follow, noFile, Option.isSome_none, if_neg Bool.false_ne_true,
        if_neg (not_or.mpr ⟨nonempty, notDot⟩), if_neg notUp,
          if_neg (Nat.not_lt.mpr short),
        if_pos taken]

/-- Names can be followed only if the first of them leads on. -/
theorem exists_enters_of_follow
    {folder : Folder}
    {here there : Place}
    {name : List Char}
    {later : List (List Char)}
    (follows : folder.follow here (name :: later) = .ok there) :
    ∃ next, folder.Enters here name next ∧
      folder.follow next later = .ok there := by
  rw [follow] at follows
  split at follows
  · cases follows
  · rename_i noFile
    rw [Option.isSome_iff_ne_none, not_not] at noFile
    split at follows
    · rename_i noName
      exact ⟨here, .stay noFile noName, follows⟩
    · rename_i someName
      obtain ⟨nonempty, notDot⟩ := not_or.mp someName
      split at follows
      · rename_i isUp
        subst isUp
        split at follows
        · cases follows
        · rename_i notTop
          exact ⟨here.dropLast, .up noFile (by simpa using notTop), follows⟩
      · rename_i notUp
        split at follows
        · cases follows
        · rename_i short
          split at follows
          · rename_i taken
            have ordinary := isDots_eq_false_iff.mpr ⟨notDot, notUp⟩
            exact ⟨here ++ [name],
              .down noFile nonempty ordinary (Nat.not_lt.mp short) taken,
              follows⟩
          · cases follows

/-- Names behind others are followed from where these lead to. -/
theorem follow_append
    {folder : Folder}
    {names : List (List Char)}
    {here there : Place}
    (follows : folder.follow here names = .ok there)
    (later : List (List Char)) :
    folder.follow here (names ++ later) = folder.follow there later := by
  induction names generalizing here with
  | nil =>
      cases follows
      rfl
  | cons name others inductionHypothesis =>
      obtain ⟨next, enters, rest⟩ := exists_enters_of_follow follows
      rw [List.cons_append, enters.follow_cons, inductionHypothesis rest]

/-! ## Following names in a changed folder -/

/--
Whatever could be reached in a folder can be reached in another one: nothing is
gone from its place, and no directory became a file.
-/
structure LeadsOn (folder after : Folder) : Prop where
  /-- What is there stays there. -/
  stays : ∀ place, folder.isTaken place = true → after.isTaken place = true
  /-- A directory is no file. -/
  opens : ∀ place, folder.isDirectory place = true → folder.file? place = none →
    after.file? place = none

/-- Everything on the way to a place is there. -/
def Reached (folder : Folder) (here : Place) : Prop :=
  ∀ front, front <+: here → folder.isTaken front = true

theorem reached_nil
    (folder : Folder) :
    folder.Reached [] := by
  intro front isFront
  rw [List.prefix_nil.mp isFront]
  simp [isTaken, isDirectory]

theorem Reached.isDirectory
    {folder : Folder}
    {here : Place}
    (reached : folder.Reached here)
    (noFile : folder.file? here = none) :
    folder.isDirectory here = true := by
  have taken := reached here (List.prefix_refl here)
  rw [isTaken, noFile] at taken
  exact taken

theorem Reached.enters
    {folder : Folder}
    {here next : Place}
    {name : List Char}
    (reached : folder.Reached here)
    (enters : folder.Enters here name next) :
    folder.Reached next := by
  cases enters with
  | stay => exact reached
  | up =>
      exact fun front isFront =>
        reached front (isFront.trans (List.dropLast_prefix here))
  | down noFile nonempty ordinary short taken =>
      intro front isFront
      rcases List.prefix_concat_iff.mp isFront with rfl | before
      · exact taken
      · exact reached front before

/-- A name leads to the same place as before. -/
theorem LeadsOn.enters
    {folder after : Folder}
    (leadsOn : LeadsOn folder after)
    {here next : Place}
    {name : List Char}
    (reached : folder.Reached here)
    (enters : folder.Enters here name next) :
    after.Enters here name next := by
  have opens : folder.file? here = none → after.file? here = none :=
    fun noFile => leadsOn.opens here (reached.isDirectory noFile) noFile
  cases enters with
  | stay noFile noName => exact .stay (opens noFile) noName
  | up noFile notTop => exact .up (opens noFile) notTop
  | down noFile nonempty ordinary short taken =>
      exact .down (opens noFile) nonempty ordinary short (leadsOn.stays _ taken)

/-- Names lead to the same place as before. -/
theorem LeadsOn.follow_eq_ok
    {folder after : Folder}
    (leadsOn : LeadsOn folder after)
    {names : List (List Char)}
    {here there : Place}
    (reached : folder.Reached here)
    (follows : folder.follow here names = .ok there) :
    after.follow here names = .ok there := by
  -- All places on the way are carried along, since two dots lead back to one of
  -- them.
  induction names generalizing here with
  | nil => exact follows
  | cons name later inductionHypothesis =>
      obtain ⟨next, enters, rest⟩ := exists_enters_of_follow follows
      rw [(leadsOn.enters reached enters).follow_cons]
      exact inductionHypothesis (reached.enters enters) rest

/-- A path leads where its names lead from the folder itself. -/
theorem resolve_eq_ok_iff
    {folder : Folder}
    {path : String}
    {place : Place} :
    folder.resolve path = .ok place ↔
      ∃ parts, names path = .ok parts ∧ folder.follow [] parts = .ok place := by
  unfold resolve
  cases names path with
  | error error => simp [bind, Except.bind]
  | ok parts => simp [bind, Except.bind]

/-- A path leads where its last name leads from the directory in front. -/
theorem Enters.resolve_eq_ok
    {folder : Folder}
    {path : String}
    {parts : List (List Char)}
    {here next : Place}
    {name : List Char}
    (enters : folder.Enters here name next)
    (isPath : names path = .ok (parts ++ [name]))
    (follows : folder.follow [] parts = .ok here) :
    folder.resolve path = .ok next := by
  refine resolve_eq_ok_iff.mpr ⟨parts ++ [name], isPath, ?_⟩
  rw [follow_append follows, enters.follow_cons]
  rfl

theorem read_eq_ok_iff
    {folder : Folder}
    {path : String}
    {bytes : List UInt8} :
    folder.read path = .ok bytes ↔
      ∃ place, folder.resolve path = .ok place ∧
        folder.file? place = some bytes := by
  unfold read
  cases folder.resolve path with
  | error error => simp [bind, Except.bind]
  | ok place =>
      cases held : folder.file? place with
      | none =>
          simp [bind, Except.bind, held, throw, throwThe, MonadExceptOf.throw]
      | some present => simp [bind, Except.bind, held, pure, Except.pure]

/-- A path leads to the same place as before. -/
theorem LeadsOn.resolve_eq_ok
    {folder after : Folder}
    (leadsOn : LeadsOn folder after)
    {path : String}
    {place : Place}
    (resolves : folder.resolve path = .ok place) :
    after.resolve path = .ok place := by
  obtain ⟨parts, isPath, follows⟩ := resolve_eq_ok_iff.mp resolves
  exact resolve_eq_ok_iff.mpr ⟨parts, isPath,
    leadsOn.follow_eq_ok folder.reached_nil follows⟩

theorem access_makeDirectories
    (folder : Folder)
    (path : String) :
    access.makeDirectories path folder =
      match folder.makeDirectories path with
      | .ok made => (.ok (), made)
      | .error error => (.error error, folder) :=
  rfl

theorem access_write
    (folder : Folder)
    (path : String)
    (bytes : List UInt8) :
    access.write path bytes folder =
      match folder.write path bytes with
      | .ok after => (.ok (), after)
      | .error error => (.error error, folder) :=
  rfl

/-! ## Directories that are made -/

/-- A folder has the files of another one, and all its directories. -/
structure Extends (after folder : Folder) : Prop where
  /-- The files are the same. -/
  files : after.files = folder.files
  /-- The directories are there. -/
  directories : ∀ place ∈ folder.directories, place ∈ after.directories

namespace Extends

variable {folder made after : Folder}

theorem refl
    (folder : Folder) :
    Extends folder folder :=
  ⟨rfl, fun _ isPlace => isPlace⟩

theorem trans
    (later : Extends after made)
    (first : Extends made folder) :
    Extends after folder :=
  ⟨later.files.trans first.files,
    fun place isPlace =>
      later.directories place (first.directories place isPlace)⟩

theorem file?_eq
    (grown : Extends after folder)
    (place : Place) :
    after.file? place = folder.file? place := by
  rw [file?, file?, grown.files]

theorem leadsOn
    (grown : Extends after folder) :
    LeadsOn folder after where
  stays := by
    intro place taken
    have directories := grown.directories place
    simp only [isTaken, isDirectory, grown.file?_eq, grown.files,
      Bool.or_eq_true, List.contains_iff_mem] at taken directories ⊢
    tauto
  opens := by
    intro place _ noFile
    rw [grown.file?_eq, noFile]

/-- Every file is read as it was. -/
theorem read_eq_ok
    (grown : Extends after folder)
    {path : String}
    {bytes : List UInt8}
    (read : folder.read path = .ok bytes) :
    after.read path = .ok bytes := by
  obtain ⟨place, resolves, held⟩ := read_eq_ok_iff.mp read
  refine read_eq_ok_iff.mpr ⟨place, grown.leadsOn.resolve_eq_ok resolves, ?_⟩
  rw [grown.file?_eq, held]

end Extends

theorem extends_makeDirectory
    {folder made : Folder}
    {path : String}
    (makes : folder.makeDirectory path = .ok made) :
    Extends made folder := by
  unfold makeDirectory at makes
  obtain ⟨target, -, makes⟩ := Outcome.exists_of_bind_eq_ok makes
  obtain ⟨-, makes⟩ := Outcome.of_refusal_eq_ok makes
  obtain ⟨-, makes⟩ := Outcome.of_refusal_eq_ok makes
  obtain ⟨-, makes⟩ := Outcome.of_refusal_eq_ok makes
  cases makes
  exact ⟨rfl, fun place isPlace => List.mem_cons_of_mem _ isPlace⟩

/-- Making directories only adds some. -/
theorem extends_makeLineage
    {folder made : Folder}
    {lineage : List (List Char)}
    (makes : folder.makeLineage lineage = .ok made) :
    Extends made folder := by
  induction lineage generalizing made with
  | nil =>
      cases makes
      exact .refl folder
  | cons text outer inductionHypothesis =>
      cases text with
      | nil =>
          cases makes
          exact .refl folder
      | cons c later =>
          rw [makeLineage.eq_3 folder (c :: later) outer
            (List.cons_ne_nil c later)] at makes
          split at makes
          · rename_i first made
            cases makes
            exact extends_makeDirectory made
          · obtain ⟨grown, inner, makes⟩ := Outcome.exists_of_bind_eq_ok makes
            have grows := inductionHypothesis inner
            split at makes
            · rename_i again made
              cases makes
              exact (extends_makeDirectory made).trans grows
            · split at makes
              · cases makes
                exact grows
              · cases makes
          · split at makes
            · cases makes
              exact .refl folder
            · cases makes

/-! ## Files that are written -/

section Set

variable (folder : Folder) (place : Place) (bytes : List UInt8)

theorem file?_set_self :
    (folder.set place bytes).file? place = some bytes := by
  simp [file?, set]

theorem file?_set_of_ne
    {other : Place}
    (different : other ≠ place) :
    (folder.set place bytes).file? other = folder.file? other := by
  have kept : ∀ entries : List (Place × List UInt8),
      (entries.filter fun entry => entry.1 != place).lookup other =
        entries.lookup other := by
    intro entries
    induction entries with
    | nil => rfl
    | cons entry later inductionHypothesis =>
        obtain ⟨held, content⟩ := entry
        by_cases same : held = place
        · have unlike : (other == held) = false := by
            rw [same]
            exact beq_eq_false_iff_ne.mpr different
          rw [List.filter_cons_of_neg (by simp [same]), inductionHypothesis,
            List.lookup_cons, unlike]
        · rw [List.filter_cons_of_pos (by simp [same]), List.lookup_cons,
            List.lookup_cons, inductionHypothesis]
  rw [file?, set, List.lookup_cons, beq_eq_false_iff_ne.mpr different]
  exact kept folder.files

theorem isDirectory_set
    {other : Place}
    (directory : folder.isDirectory other = true) :
    (folder.set place bytes).isDirectory other = true := by
  simp only [isDirectory, Bool.or_eq_true, List.any_eq_true] at directory ⊢
  refine directory.imp_right ?_
  rintro ⟨entry, isEntry, inFront⟩
  by_cases same : entry.1 = place
  · exact ⟨(place, bytes), List.mem_cons_self, same ▸ inFront⟩
  · exact ⟨entry,
      List.mem_cons_of_mem _ (List.mem_filter.mpr ⟨isEntry, by simp [same]⟩),
      inFront⟩

/-- A file leads nowhere else, and none stands in the place of a directory. -/
theorem leadsOn_set
    (noDirectory : folder.isDirectory place = false) :
    LeadsOn folder (folder.set place bytes) where
  stays := by
    intro other taken
    rw [isTaken, Bool.or_eq_true] at taken ⊢
    by_cases same : other = place
    · subst same
      exact .inl (by rw [file?_set_self, Option.isSome_some])
    · rw [file?_set_of_ne folder place bytes same]
      exact taken.imp_right (isDirectory_set folder place bytes)
  opens := by
    intro other directory noFile
    have different : other ≠ place := by
      rintro rfl
      rw [noDirectory] at directory
      cases directory
    rw [file?_set_of_ne folder place bytes different, noFile]

end Set

theorem target_eq_ok
    {folder : Folder}
    {path : String}
    {target : Target}
    (aims : folder.target path = .ok target) :
    ∃ parts before, names path = .ok parts ∧
      parts.reverse.dropWhile List.isEmpty = target.name :: before ∧
      folder.follow [] before.reverse = .ok target.directory ∧
      folder.file? target.directory = none ∧
      target.slashed = (parts.getLast? == some []) := by
  unfold Folder.target at aims
  obtain ⟨parts, isPath, aims⟩ := Outcome.exists_of_bind_eq_ok aims
  split at aims
  · cases aims
  · rename_i name before split
    obtain ⟨directory, follows, aims⟩ := Outcome.exists_of_bind_eq_ok aims
    obtain ⟨noFile, aims⟩ := Outcome.of_refusal_eq_ok aims
    cases aims
    exact ⟨parts, before, isPath, split, follows, by simpa using noFile, rfl⟩

/-- Without a slash at its end a path ends in the name it asks for. -/
theorem eq_concat_of_notSlashed
    {parts before : List (List Char)}
    {name : List Char}
    (split : parts.reverse.dropWhile List.isEmpty = name :: before)
    (notSlashed : (parts.getLast? == some []) = false) :
    parts = before.reverse ++ [name] ∧ name ≠ [] := by
  rw [← List.head?_reverse, beq_eq_false_iff_ne] at notSlashed
  cases reversed : parts.reverse with
  | nil =>
      rw [reversed] at split
      cases split
  | cons last front =>
      rw [reversed, List.head?_cons] at notSlashed
      have nonempty : last ≠ [] := fun same => notSlashed (congrArg some same)
      rw [reversed, List.dropWhile_cons_of_neg (by simpa using nonempty)]
        at split
      obtain ⟨rfl, rfl⟩ := List.cons.inj split
      exact ⟨by rw [List.reverse_eq_iff.mp reversed, List.reverse_cons],
        nonempty⟩

/-- What it takes to write a file at a path. -/
theorem writable_eq_ok
    {folder : Folder}
    {path : String}
    {place : Place}
    (canWrite : folder.writable path = .ok place) :
    folder.isDirectory place = false ∧
      ∃ parts directory name, names path = .ok (parts ++ [name]) ∧
        folder.follow [] parts = .ok directory ∧ folder.file? directory = none ∧
        name ≠ [] ∧ isDots name = false ∧ Text.Utf8.size name ≤ longestName ∧
        place = directory ++ [name] := by
  unfold writable at canWrite
  obtain ⟨target, aims, canWrite⟩ := Outcome.exists_of_bind_eq_ok canWrite
  obtain ⟨ordinary, canWrite⟩ := Outcome.of_refusal_eq_ok canWrite
  obtain ⟨short, canWrite⟩ := Outcome.of_refusal_eq_ok canWrite
  obtain ⟨noDirectory, canWrite⟩ := Outcome.of_refusal_eq_ok canWrite
  cases canWrite
  obtain ⟨parts, before, isPath, split, follows, noFile, slashed⟩ :=
    target_eq_ok aims
  simp only [Bool.or_eq_true, not_or, Bool.not_eq_true] at ordinary
  rw [slashed] at ordinary
  obtain ⟨rfl, nonempty⟩ := eq_concat_of_notSlashed split ordinary.1
  exact ⟨by simpa using noDirectory, before.reverse, target.directory,
    target.name, isPath, follows, noFile, nonempty, ordinary.2,
    Nat.not_lt.mp short, rfl⟩

theorem write_eq_ok_iff
    {folder after : Folder}
    {path : String}
    {bytes : List UInt8} :
    folder.write path bytes = .ok after ↔
      ∃ place, folder.writable path = .ok place ∧
        folder.set place bytes = after := by
  unfold write
  cases folder.writable path with
  | error error => simp [bind, Except.bind]
  | ok place => simp [bind, Except.bind, pure, Except.pure]

/-- A file that was written is read as it is. -/
theorem read_of_write
    {folder after : Folder}
    {path : String}
    {bytes : List UInt8}
    (writes : folder.write path bytes = .ok after) :
    after.read path = .ok bytes := by
  obtain ⟨place, canWrite, rfl⟩ := write_eq_ok_iff.mp writes
  obtain ⟨noDirectory, parts, directory, name, isPath, follows, noFile,
    nonempty, ordinary, short,
    rfl⟩ := writable_eq_ok canWrite
  have leadsOn := leadsOn_set folder (directory ++ [name]) bytes noDirectory
  have inFront := leadsOn.follow_eq_ok folder.reached_nil follows
  have written := file?_set_self folder (directory ++ [name]) bytes
  have stillOpen : (folder.set (directory ++ [name]) bytes).file? directory =
      none := by
    rw [file?_set_of_ne, noFile]
    simp
  have taken : (folder.set (directory ++ [name]) bytes).isTaken
      (directory ++ [name]) = true := by
    rw [isTaken, written, Option.isSome_some, Bool.true_or]
  have enters := Enters.down stillOpen nonempty ordinary short taken
  exact read_eq_ok_iff.mpr ⟨directory ++ [name],
    enters.resolve_eq_ok isPath inFront, written⟩

/-- A path leads to the file that it asks to write, if this is there. -/
theorem resolve_of_writable
    {folder : Folder}
    {path : String}
    {place : Place}
    (canWrite : folder.writable path = .ok place)
    (isThere : (folder.file? place).isSome = true) :
    folder.resolve path = .ok place := by
  obtain ⟨-, parts, directory, name, isPath, follows, noFile, nonempty,
      ordinary, short, rfl⟩ :=
    writable_eq_ok canWrite
  have taken : folder.isTaken (directory ++ [name]) = true := by
    rw [isTaken, isThere, Bool.true_or]
  have enters := Enters.down noFile nonempty ordinary short taken
  exact enters.resolve_eq_ok isPath follows

/-- A file that is written leaves the files alone to which other paths lead. -/
theorem read_of_write_elsewhere
    {folder after : Folder}
    {path other : String}
    {bytes held : List UInt8}
    (writes : folder.write path bytes = .ok after)
    (elsewhere : folder.resolve other ≠ folder.resolve path)
    (reads : folder.read other = .ok held) :
    after.read other = .ok held := by
  obtain ⟨place, canWrite, rfl⟩ := write_eq_ok_iff.mp writes
  obtain ⟨noDirectory, -⟩ := writable_eq_ok canWrite
  obtain ⟨otherPlace, resolves, present⟩ := read_eq_ok_iff.mp reads
  have different : otherPlace ≠ place := by
    rintro rfl
    refine elsewhere (resolves.trans (resolve_of_writable canWrite ?_).symm)
    rw [present, Option.isSome_some]
  have leadsOn := leadsOn_set folder place bytes noDirectory
  refine read_eq_ok_iff.mpr ⟨otherPlace, leadsOn.resolve_eq_ok resolves, ?_⟩
  rw [file?_set_of_ne folder place bytes different, present]

end Folder
end Storage
end MailSearch
