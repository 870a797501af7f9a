import MailSearch.Proofs.Storage.Folder

/-!
# Tasks that read

A folder keeps another one if whatever can be read there is read as it was.
Making directories and files keeps a folder.  A task that only reads files, and
fails where it cannot read one, has the same result in every folder that keeps
the one in which it succeeds.
-/

namespace MailSearch
namespace Storage

/-! ## Tasks in steps -/

section Steps

variable {σ ε α β : Type}

theorem run_bind
    (first : ExceptT ε (StateM σ) α)
    (next : α -> ExceptT ε (StateM σ) β)
    (state : σ) :
    (first >>= next).run state =
      match first.run state with
      | (.ok value, later) => (next value).run later
      | (.error error, later) => (.error error, later) := by
  change (match first.run state with
    | (outcome, later) => (ExceptT.bindCont next outcome).run later) = _
  rcases first.run state with ⟨outcome, later⟩
  cases outcome <;> rfl

theorem run_lift_bind
    (look : StateM σ β)
    (next : β -> ExceptT ε (StateM σ) α)
    (state : σ) :
    ((liftM look : ExceptT ε (StateM σ) β) >>= next).run state =
      (next (look state).1).run (look state).2 :=
  rfl

end Steps

namespace Folder

/-! ## Folders that keep others -/

/-- What can be read in a folder is read in another one as it was. -/
structure Keeps (folder after : Folder) : Prop where
  /-- Every file that can be read is read as it was. -/
  read : ∀ path bytes, folder.read path = .ok bytes →
    after.read path = .ok bytes
  /-- Every path that leads somewhere still does. -/
  leadsSomewhere : ∀ path, folder.leadsSomewhere path = true →
    after.leadsSomewhere path = true

namespace Keeps

variable {folder made after : Folder}

theorem refl
    (folder : Folder) :
    Keeps folder folder :=
  ⟨fun _ _ read => read, fun _ leads => leads⟩

theorem trans
    (first : Keeps folder made)
    (later : Keeps made after) :
    Keeps folder after :=
  ⟨fun path bytes read => later.read path bytes (first.read path bytes read),
    fun path leads =>
      later.leadsSomewhere path (first.leadsSomewhere path leads)⟩

end Keeps

theorem LeadsOn.leadsSomewhere
    {folder after : Folder}
    (leadsOn : LeadsOn folder after)
    {path : String}
    (leads : folder.leadsSomewhere path = true) :
    after.leadsSomewhere path = true := by
  unfold Folder.leadsSomewhere at leads ⊢
  cases resolves : folder.resolve path with
  | error error =>
      rw [resolves] at leads
      cases leads
  | ok place =>
      rw [leadsOn.resolve_eq_ok resolves]
      rfl

/-- Further directories change nothing in the files. -/
theorem Extends.keeps
    {folder after : Folder}
    (grown : Extends after folder) :
    Keeps folder after where
  read := fun _ _ read => grown.read_eq_ok read
  leadsSomewhere := fun _ leads => grown.leadsOn.leadsSomewhere leads

/-- A new file changes nothing in the others. -/
theorem keeps_set
    {folder : Folder}
    {place : Place}
    (noFile : folder.file? place = none)
    (noDirectory : folder.isDirectory place = false)
    (bytes : List UInt8) :
    Keeps folder (folder.set place bytes) where
  read := by
    intro path held read
    obtain ⟨other, resolves, present⟩ := read_eq_ok_iff.mp read
    have different : other ≠ place := by
      rintro rfl
      rw [noFile] at present
      cases present
    have leadsOn := leadsOn_set folder place bytes noDirectory
    refine read_eq_ok_iff.mpr ⟨other, leadsOn.resolve_eq_ok resolves, ?_⟩
    rw [file?_set_of_ne folder place bytes different, present]
  leadsSomewhere := fun _ leads =>
    (leadsOn_set folder place bytes noDirectory).leadsSomewhere leads

/-- A change that succeeds only if what it makes keeps the folder, keeps it
anyway. -/
theorem keeps_change
    {step : Folder -> Except FileError Folder}
    {folder : Folder}
    (keeps : ∀ made, step folder = .ok made → Keeps folder made) :
    Keeps folder (change step folder).2 := by
  unfold change
  cases made : step folder with
  | error error => exact .refl folder
  | ok after => exact keeps after made

theorem keeps_makeDirectories
    (path : String)
    (folder : Folder) :
    Keeps folder (access.makeDirectories path folder).2 :=
  keeps_change fun _ makes => (extends_makeLineage makes).keeps

theorem keeps_create
    (path : String)
    (folder : Folder) :
    Keeps folder (access.create path folder).2 := by
  apply keeps_change
  intro made creates
  unfold create at creates
  obtain ⟨place, canWrite, creates⟩ := Outcome.exists_of_bind_eq_ok creates
  obtain ⟨noDirectory, -⟩ := writable_eq_ok canWrite
  cases creates
  split
  · exact .refl folder
  · rename_i noFile
    exact keeps_set (by simpa using noFile) noDirectory []

/-! ## Tasks that only read -/

section Tasks

variable {ε α β : Type}

/-- A task that succeeds in a folder has the same result in every folder that
keeps it. -/
def OnlyReads (task : ExceptT ε (StateM Folder) α) : Prop :=
  ∀ ⦃folder after : Folder⦄ ⦃value : α⦄, Keeps folder after →
    (task.run folder).1 = .ok value → task.run after = (.ok value, after)

theorem onlyReads_pure
    (value : α) :
    OnlyReads (pure value : ExceptT ε (StateM Folder) α) := by
  intro folder after other keeps succeeds
  cases succeeds
  rfl

theorem onlyReads_throw
    (error : ε) :
    OnlyReads (throw error : ExceptT ε (StateM Folder) α) := by
  intro folder after value keeps succeeds
  cases succeeds

theorem OnlyReads.bind
    {first : ExceptT ε (StateM Folder) α}
    {next : α -> ExceptT ε (StateM Folder) β}
    (reads : OnlyReads first)
    (readsNext : ∀ value, OnlyReads (next value)) :
    OnlyReads (first >>= next) := by
  intro folder after result keeps succeeds
  rw [run_bind] at succeeds ⊢
  rcases ran : first.run folder with ⟨outcome, later⟩
  cases outcome with
  | error error =>
      rw [ran] at succeeds
      cases succeeds
  | ok value =>
      have ended : (first.run folder).1 = .ok value := by rw [ran]
      rw [reads (.refl folder) ended] at succeeds
      rw [reads keeps ended]
      exact readsNext value keeps succeeds

theorem onlyReads_foldlM
    {step : β -> α -> ExceptT ε (StateM Folder) β}
    (reads : ∀ state item, OnlyReads (step state item))
    (items : List α)
    (state : β) :
    OnlyReads (items.foldlM step state) := by
  induction items generalizing state with
  | nil => exact onlyReads_pure state
  | cons item rest inductionHypothesis =>
      rw [List.foldlM_cons]
      exact (reads state item).bind inductionHypothesis

/-- Something is looked up that is found again in every folder that keeps this
one. -/
def Looks (look : StateM Folder β) (found : β -> Prop) : Prop :=
  ∀ ⦃folder after : Folder⦄, Keeps folder after → found (look folder).1 →
    look after = ((look folder).1, after)

/-- A task that fails unless it finds what it looks for, and only reads then. -/
theorem Looks.onlyReads
    {look : StateM Folder β}
    {found : β -> Prop}
    (looks : Looks look found)
    {next : β -> ExceptT ε (StateM Folder) α}
    (fails : ∀ value, ¬ found value → ∀ folder result,
      ((next value).run folder).1 ≠ .ok result)
    (reads : ∀ value, found value → OnlyReads (next value)) :
    OnlyReads ((liftM look : ExceptT ε (StateM Folder) β) >>= next) := by
  intro folder after result keeps succeeds
  rw [run_lift_bind] at succeeds ⊢
  by_cases isFound : found (look folder).1
  · have same := looks (.refl folder) isFound
    rw [same] at succeeds
    rw [looks keeps isFound]
    exact reads _ isFound keeps succeeds
  · exact absurd succeeds (fails _ isFound _ _)

/-- A task that fails as what it looks at has failed, and only reads
otherwise. -/
theorem Looks.onlyReads_ok
    {δ : Type}
    {look : StateM Folder (Except δ β)}
    (looks : Looks look fun outcome => ∃ value, outcome = .ok value)
    {next : Except δ β -> ExceptT ε (StateM Folder) α}
    (fails : ∀ error folder result, ((next (.error error)).run folder).1 ≠
      .ok result)
    (reads : ∀ value, OnlyReads (next (.ok value))) :
    OnlyReads ((liftM look : ExceptT ε (StateM Folder) (Except δ β)) >>=
      next) := by
  apply looks.onlyReads
  · intro outcome unfound folder result
    cases outcome with
    | error error => exact fails error folder result
    | ok value => exact absurd ⟨value, rfl⟩ unfound
  · rintro outcome ⟨value, rfl⟩
    exact reads value

/-- The result of a task that only reads is found again. -/
theorem OnlyReads.looks
    {task : ExceptT ε (StateM Folder) α}
    (reads : OnlyReads task) :
    Looks task.run fun outcome => ∃ value, outcome = .ok value := by
  rintro folder after keeps ⟨value, succeeds⟩
  rw [reads keeps succeeds, succeeds]

theorem looks_read
    (path : String) :
    Looks (access.read path) fun found => ∃ bytes, found = .ok bytes := by
  rintro folder after keeps ⟨bytes, read⟩
  change (after.read path, after) = (folder.read path, after)
  change folder.read path = .ok bytes at read
  rw [keeps.read path bytes read, read]

theorem looks_leadsSomewhere
    (path : String) :
    Looks (access.leadsSomewhere path) fun found => found = true := by
  intro folder after keeps leads
  change (after.leadsSomewhere path, after) =
      (folder.leadsSomewhere path, after)
  change folder.leadsSomewhere path = true at leads
  rw [keeps.leadsSomewhere path leads, leads]

/-- The text of a file is that of its bytes. -/
theorem access_readText
    (path : String)
    (folder : Folder) :
    access.readText path folder =
      (folder.read path >>= fun bytes =>
          ((Text.Utf8.decode? bytes).map Except.ok).getD
        (.error .notText), folder) := by
  have read : access.read path folder = (folder.read path, folder) := rfl
  unfold Files.readText
  simp only [bind, StateT.bind, read]
  cases folder.read path with
  | error error => rfl
  | ok bytes =>
      simp only [Except.bind]
      cases Text.Utf8.decode? bytes <;> rfl

theorem looks_readText
    (path : String) :
    Looks (access.readText path) fun found => ∃ text, found = .ok text := by
  rintro folder after keeps ⟨text, read⟩
  rw [access_readText] at read
  obtain ⟨bytes, readBytes, -⟩ := Outcome.exists_of_bind_eq_ok read
  rw [access_readText, access_readText, keeps.read path bytes readBytes,
    readBytes]

end Tasks

end Folder
end Storage
end MailSearch
