import MailSearch.Proofs.Data.IdSet
import MailSearch.Proofs.Data.Outcome
import MailSearch.Proofs.Storage.Reading
import MailSearch.Proofs.Store.History
import MailSearch.Store.Loading

/-!
# Snapshot files

Where reading a file changes nothing, loading an account comes down to what can
be read: the snapshot, and for each message that it describes a content.  The
messages are filed one after the other, and the first of them that cannot be
filed ends the loading, with an error that names a file, or because the program
breaks down over HTML that cannot be converted.
-/

namespace MailSearch
namespace Store

open Storage

/-- A snapshot file among files that do not change when they are read. -/
structure SnapshotFile where
  /-- What the files are kept on. -/
  Disk : Type
  /-- Access to the files. -/
  files : Files (StateM Disk)
  /-- The files as they are. -/
  disk : Disk
  /-- The path of the snapshot. -/
  path : String
  /-- Reading a file changes nothing. -/
  steady : ∀ path, (files.read path disk).2 = disk

/-- A described message as it is handed in with a content. -/
def DescribedMessage.filed (message : DescribedMessage)
    (content : Mime.Document) : Filed :=
  ⟨message.withContent content, content.attachmentText⟩

/-- The change of an account that a message is handed in for. -/
def Filed.change (filed : Filed) : Change :=
  .addMessage filed.message filed.attachmentText

namespace Account

theorem messages_change_filed
    {account : Account}
    {filed : Filed}
    (fresh : account.messages.get? filed.message.id = none)
    (readable : filed.message.body.IsReadable) :
    (account.change filed.change).messages =
      account.messages.insert filed.message.id filed.message := by
  obtain ⟨text, indexed⟩ :=
    Option.isSome_iff_exists.mp (Filed.isSome_indexed_iff.mpr readable)
  rw [Filed.change, Account.change, addMessage_of_fresh fresh indexed]

end Account

namespace Loading

/-- An account in the course of loading, in which all messages that were met are
stored. -/
def of (account : Account) : Loading :=
  ⟨.ofList account.messages.keys, account⟩

theorem contains_seen_of
    (account : Account)
    (id : String) :
    (of account).seen.contains id = account.messages.contains id := by
  rw [Bool.eq_iff_iff, IdSet.contains_iff, of, IdSet.mem_ofList,
    IdMap.mem_keys_iff, IdMap.contains_iff, Option.isSome_iff_exists]

/-- With a message its identifier is met. -/
theorem of_change_filed
    {account : Account}
    {filed : Filed}
    (fresh : account.messages.get? filed.message.id = none)
    (readable : filed.message.body.IsReadable) :
    of (account.change filed.change) =
      ⟨(of account).seen.insert filed.message.id,
        account.change filed.change⟩ := by
  refine congrArg (mk · _) (IdSet.eq_of_mem_iff fun id => ?_)
  rw [IdSet.mem_ofList, IdMap.mem_keys_iff,
    Account.messages_change_filed fresh readable, IdMap.get?_insert,
    IdSet.mem_insert, of, IdSet.mem_ofList, IdMap.mem_keys_iff]
  split <;> simp_all

end Loading

namespace SnapshotFile

/-- What comes of loading the account. -/
def load (file : SnapshotFile) : Except (Stop Query.Error) Account :=
  ((loadAccount file.files file.path).run file.disk).1

/-- The directory that the paths of raw messages are relative to. -/
def directory (file : SnapshotFile) : List Char :=
  (Path.parent? file.path.toList).getD ['.']

/-- The bytes of the file at a path. -/
def bytes (file : SnapshotFile) (path : String) :
    Except FileError (List UInt8) :=
  (file.files.read path file.disk).1

/-- The text of the file at a path. -/
def text (file : SnapshotFile) (path : String) :
    Except FileError (List Char) := do
  match Text.Utf8.decode? (← file.bytes path) with
  | some text => return text
  | none => throw .notText

/-- The snapshot. -/
def snapshot (file : SnapshotFile) : Except (Stop Query.Error) Snapshot := do
  let text ← (file.text file.path).mapError fun cause =>
      .failed (.unreadable file.path cause)
  (Snapshot.ofChars text).mapError fun cause =>
    .failed (.malformed file.path cause)

/-- The raw message in the file at a path. -/
def rawMessage (file : SnapshotFile) (path : String) :
    Except (Stop Query.Error) Mime.Document := do
  let raw ← (file.bytes path).mapError fun cause =>
      .failed (.unreadable path cause)
  match Mime.Document.ofBytes? raw with
  | some (some content) => return content
  | some none => throw .brokenDown
  | none => throw (.failed (.malformed path .emptyMessage))

/-- The path of a raw message that is named in the snapshot. -/
def rawPath (file : SnapshotFile) (name : String) : String :=
  String.ofList (Path.join file.directory name.toList)

/-- The content of a message that the snapshot describes. -/
def content (file : SnapshotFile) (message : DescribedMessage) :
    Except (Stop Query.Error) Mime.Document :=
  match message.file with
  | none => .ok message.content
  | some name => file.rawMessage (file.rawPath name)

/-- A message that the snapshot describes, as it is handed in and stored. -/
def filed (file : SnapshotFile) (message : DescribedMessage) :
    Except (Stop Query.Error) Filed := do
  let content ← file.content message
  if content.body.IsReadable then return message.filed content
  else throw .brokenDown

/-- The account with one more message that the snapshot describes. -/
def add (file : SnapshotFile) (account : Account) (message : DescribedMessage) :
    Except (Stop Query.Error) Account :=
  if account.messages.contains message.id then
    .error (.failed (.malformed file.path (.duplicateMessage message.id)))
  else (file.filed message).map fun filed => account.change filed.change

/-! ## What comes of loading -/

theorem run_orUnreadable
    {σ α : Type}
    {look : StateM σ (Except FileError α)}
    {state later : σ}
    {outcome : Except FileError α}
    (looked : look state = (outcome, later))
    (path : String) :
    (orUnreadable path look).run state =
      (outcome.mapError fun cause =>
        .failed (.unreadable path cause), later) := by
  rw [orUnreadable, run_lift_bind, looked]
  cases outcome <;> rfl

section Running

variable (file : SnapshotFile)

theorem read_eq
    (path : String) :
    file.files.read path file.disk = (file.bytes path, file.disk) :=
  Prod.ext rfl (file.steady path)

theorem readText_eq
    (path : String) :
    file.files.readText path file.disk = (file.text path, file.disk) := by
  unfold Files.readText text
  simp only [bind, StateT.bind, file.read_eq path]
  cases file.bytes path with
  | error error => rfl
  | ok bytes =>
      simp only [Except.bind]
      cases Text.Utf8.decode? bytes <;> rfl

theorem run_loadMessage
    (path : String) :
    (loadMessage file.files path).run file.disk =
      (file.rawMessage path, file.disk) := by
  rw [loadMessage, run_bind, run_orUnreadable (file.read_eq path), rawMessage]
  cases file.bytes path with
  | error cause => rfl
  | ok raw =>
      dsimp only [Except.mapError, bind, Except.bind]
      rcases Mime.Document.ofBytes? raw with _ | _ | content <;> rfl

theorem run_loadContent
    (message : DescribedMessage) :
    (loadContent file.files file.directory message).run file.disk =
      (file.content message, file.disk) := by
  unfold loadContent content
  cases message.file with
  | none => rfl
  | some name => exact file.run_loadMessage (file.rawPath name)

theorem run_addDescribed
    (account : Account)
    (message : DescribedMessage) :
    (addDescribed file.files file.path file.directory (.of account) message).run
        file.disk =
      ((file.add account message).map .of, file.disk) := by
  unfold addDescribed add
  rw [Loading.contains_seen_of]
  cases taken : account.messages.contains message.id with
  | true => rfl
  | false =>
      have fresh := IdMap.contains_eq_false_iff.mp taken
      rw [if_neg Bool.false_ne_true, if_neg Bool.false_ne_true, run_bind,
        file.run_loadContent, filed]
      cases file.content message with
      | error error => rfl
      | ok content =>
          dsimp only [bind, Except.bind]
          by_cases readable : content.body.IsReadable
          · have added : (Account.addMessage (message.withContent content)
                content.attachmentText).run account =
                  (.ok (), account.change (message.filed content).change) :=
              Account.addMessage_of_readable fresh readable _
            have stored :=
              @Loading.of_change_filed _ (message.filed content) fresh readable
            rw [if_pos readable,
              show (Loading.of account).account = account from rfl, added]
            exact congrArg
              (fun loading => (Except.ok loading, file.disk)) stored.symm
          · have ended : (Account.addMessage (message.withContent content)
                content.attachmentText).run account =
                  (.error .brokenDown, account) :=
              Account.addMessage_of_unreadable fresh readable _
            rw [if_neg readable,
              show (Loading.of account).account = account from rfl, ended]
            rfl

theorem run_foldlM_addDescribed
    (messages : List DescribedMessage)
    (account : Account) :
    (messages.foldlM (addDescribed file.files file.path file.directory)
        (.of account)).run
        file.disk =
      ((messages.foldlM file.add account).map .of, file.disk) := by
  induction messages generalizing account with
  | nil => rfl
  | cons message rest inductionHypothesis =>
      rw [List.foldlM_cons, List.foldlM_cons, run_bind, file.run_addDescribed]
      cases file.add account message with
      | error error => rfl
      | ok added => exact inductionHypothesis added

/-- At the start there are no messages, and none was met. -/
theorem of_withoutMessages
    (snapshot : Snapshot) :
    Loading.of snapshot.withoutMessages =
      ⟨.empty, snapshot.withoutMessages⟩ := by
  have unchanged : ∀ (mailboxes : List Mailbox) (account : Account),
      (mailboxes.foldl Account.addMailbox account).messages =
        account.messages := by
    intro mailboxes
    induction mailboxes with
    | nil => exact fun account => rfl
    | cons mailbox rest inductionHypothesis =>
        exact fun account => inductionHypothesis _
  rw [Loading.of, Snapshot.withoutMessages, unchanged]
  rfl

theorem run_loadDescribed
    (snapshot : Snapshot) :
    (do
      let loaded ← snapshot.messages.foldlM
          (addDescribed file.files file.path file.directory)
        ⟨.empty, snapshot.withoutMessages⟩
      return loaded.account :
          ExceptT (Stop Query.Error) (StateM file.Disk) Account).run
        file.disk =
      (snapshot.messages.foldlM file.add snapshot.withoutMessages,
        file.disk) := by
  rw [run_bind, ← of_withoutMessages, file.run_foldlM_addDescribed]
  cases snapshot.messages.foldlM file.add snapshot.withoutMessages <;> rfl

/-- The snapshot is read, and then its messages are filed one after the
other. -/
theorem load_eq :
    file.load = (do
      let snapshot ← file.snapshot
      snapshot.messages.foldlM file.add snapshot.withoutMessages) := by
  rw [load, loadAccount, run_bind,
    run_orUnreadable (file.readText_eq file.path), snapshot]
  cases file.text file.path with
  | error cause => rfl
  | ok text =>
      dsimp only [Except.mapError, bind, Except.bind]
      cases Snapshot.ofChars text with
      | error cause => rfl
      | ok snapshot =>
          exact congrArg Prod.fst (file.run_loadDescribed snapshot)

end Running

/-! ## Failures -/

/-- An error says which file cannot be read, or does not hold what it should. -/
def ConcernsFile (error : Query.Error) : Prop :=
  (∃ path cause, error = .unreadable path cause) ∨ ∃ path cause,
    error = .malformed path cause

variable {file : SnapshotFile}

theorem concernsFile_of_unreadable
    {α : Type}
    {outcome : Except FileError α}
    {path : String}
    {error : Query.Error}
    (fails : (outcome.mapError fun cause =>
        Stop.failed (.unreadable path cause)) =
      .error (.failed error)) :
    ConcernsFile error := by
  cases outcome with
  | error cause =>
      cases fails
      exact .inl ⟨path, cause, rfl⟩
  | ok value => cases fails

theorem concernsFile_of_snapshot
    {error : Query.Error}
    (fails : file.snapshot = .error (.failed error)) :
    ConcernsFile error := by
  rcases Outcome.or_of_bind_eq_error fails
    with unreadable | ⟨text, -, malformed⟩
  · exact concernsFile_of_unreadable unreadable
  · cases decoded : Snapshot.ofChars text with
    | error cause =>
        rw [decoded] at malformed
        cases malformed
        exact .inr ⟨file.path, cause, rfl⟩
    | ok snapshot =>
        rw [decoded] at malformed
        cases malformed

theorem concernsFile_of_content
    {message : DescribedMessage}
    {error : Query.Error}
    (fails : file.content message = .error (.failed error)) :
    ConcernsFile error := by
  unfold SnapshotFile.content at fails
  split at fails
  · cases fails
  · rcases Outcome.or_of_bind_eq_error fails
      with unreadable | ⟨bytes, -, malformed⟩
    · exact concernsFile_of_unreadable unreadable
    · split at malformed
      · cases malformed
      · cases malformed
      · cases malformed
        exact .inr ⟨_, .emptyMessage, rfl⟩

theorem concernsFile_of_add
    {account : Account}
    {message : DescribedMessage}
    {error : Query.Error}
    (fails : file.add account message = .error (.failed error)) :
    ConcernsFile error := by
  unfold add at fails
  split at fails
  · cases fails
    exact .inr ⟨file.path, _, rfl⟩
  · rcases Outcome.or_of_bind_eq_error (Outcome.map_eq_error_iff.mp fails) with
      noContent | ⟨content, -, unreadable⟩
    · exact concernsFile_of_content noContent
    · split at unreadable <;> cases unreadable

theorem concernsFile_of_foldlM_add
    {messages : List DescribedMessage}
    {account : Account}
    {error : Query.Error}
    (fails : messages.foldlM file.add account = .error (.failed error)) :
    ConcernsFile error := by
  induction messages generalizing account with
  | nil => cases fails
  | cons message rest inductionHypothesis =>
      rw [List.foldlM_cons] at fails
      rcases Outcome.or_of_bind_eq_error fails with first | ⟨added, -, later⟩
      · exact concernsFile_of_add first
      · exact inductionHypothesis later

/-- Whatever loading fails for, it is one of the files. -/
theorem concernsFile_of_load
    {error : Query.Error}
    (fails : file.load = .error (.failed error)) :
    ConcernsFile error := by
  rw [load_eq] at fails
  rcases Outcome.or_of_bind_eq_error fails with first | ⟨snapshot, -, later⟩
  · exact concernsFile_of_snapshot first
  · exact concernsFile_of_foldlM_add later

end SnapshotFile
end Store
end MailSearch
