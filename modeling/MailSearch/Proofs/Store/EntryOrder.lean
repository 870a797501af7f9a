import Mathlib.Data.List.Perm.Basic
import MailSearch.Proofs.Store.SnapshotHistory

/-!
# The order of messages in a snapshot

If the messages of a snapshot stand in another order, the same messages are
decoded in that order, and nothing else changes.  The account that is loaded is
then the same, provided that the contents of the messages are.
-/

namespace MailSearch

/-- Items in another order have the same results in another order. -/
theorem Outcome.exists_mapM_perm
    {ε α β : Type}
    {test : α -> Except ε β}
    {items others : List α}
    (perm : items.Perm others)
    {results : List β}
    (ended : items.mapM test = .ok results) :
    ∃ rearranged, others.mapM test = .ok rearranged ∧
      results.Perm rearranged := by
  obtain ⟨rearranged, each, same⟩ :=
    List.perm_comp_forall₂ perm.symm (mapM_eq_ok_iff.mp ended)
  exact ⟨rearranged, mapM_eq_ok_iff.mpr each, same.symm⟩

namespace Store

open Storage

namespace Snapshot

/-- Two values describe an account alike but for the order of the messages. -/
inductive Rearranged : Json -> Json -> Prop where
  /-- The messages are a member of an object. -/
  | object (front back : List (String × Json)) {items others : List Json}
      (perm : items.Perm others) :
      Rearranged (.obj (front ++ ("messages", .arr items) :: back))
        (.obj (front ++ ("messages", .arr others) :: back))
  /-- The messages are the last item of a list. -/
  | list (principal mailboxes : Json) {items others : List Json}
        (perm : items.Perm others) :
      Rearranged (.arr [principal, mailboxes, .arr items])
        (.arr [principal, mailboxes, .arr others])

/-! ## Reading members -/

/-- The same members with other messages. -/
def Members.withMessages (messages : List DescribedMessage)
    (members : Members) : Members :=
  { members with messages := some messages }

section Other

variable {members : Members} {held : List DescribedMessage}
  (there : members.messages = some held) (messages : List DescribedMessage)

include there

/-- Once there are messages, they stay, and it does not matter for the other
members which. -/
theorem read_withMessages
    (name : String)
    (value : Json) :
    read (members.withMessages messages) name value =
        (read members name value).map (Members.withMessages messages) ∧
      ∀ next, read members name value = .ok next →
        next.messages = some held := by
  obtain ⟨principal, mailboxes, _⟩ := members
  cases there
  unfold read
  split
  · dsimp only [Members.withMessages]
    cases Json.once "principal" principal Json.string value with
    | error error => exact ⟨rfl, nofun⟩
    | ok given => exact ⟨rfl, fun next isNext => by cases isNext; rfl⟩
  · dsimp only [Members.withMessages]
    cases Json.once "mailboxes" mailboxes (Json.list Mailbox.decode) value with
    | error error => exact ⟨rfl, nofun⟩
    | ok given => exact ⟨rfl, fun next isNext => by cases isNext; rfl⟩
  · exact ⟨rfl, nofun⟩
  · exact ⟨rfl, fun next isNext => by cases isNext; rfl⟩

theorem foldlM_read_withMessages
    (items : List (String × Json)) :
    items.foldlM (fun members (name, value) => read members name value)
          (members.withMessages messages) =
        (items.foldlM (fun members (name, value) => read members name value)
            members).map
          (Members.withMessages messages) ∧
      ∀ last, items.foldlM
          (fun members (name, value) => read members name value) members =
        .ok last → last.messages = some held := by
  induction items generalizing members with
  | nil => exact ⟨rfl, fun last isLast => by cases isLast; exact there⟩
  | cons item rest inductionHypothesis =>
      obtain ⟨same, stillThere⟩ :=
        read_withMessages there messages item.1 item.2
      rw [List.foldlM_cons, List.foldlM_cons]
      dsimp only
      rw [same]
      cases first : read members item.1 item.2 with
      | error error => exact ⟨rfl, nofun⟩
      | ok next => exact inductionHypothesis (stillThere next first)

end Other

/-- Messages that are read first may be in any order. -/
theorem exists_read_messages
    {members next : Members}
    {items others : List Json}
    (perm : items.Perm others)
    (isRead : read members "messages" (.arr items) = .ok next) :
    ∃ messages rearranged, next.messages = some messages ∧
      messages.Perm rearranged ∧
      read members "messages" (.arr others) =
        .ok (next.withMessages rearranged) := by
  obtain ⟨principal, mailboxes, held⟩ := members
  change (Json.once "messages" held (Json.list DescribedMessage.decode)
      (.arr items)).map _ = _
    at isRead
  cases held with
  | some held => cases isRead
  | none =>
      obtain ⟨given, isGiven, rfl⟩ := Outcome.exists_of_map_eq_ok isRead
      obtain ⟨messages, decoded, rfl⟩ := Outcome.exists_of_map_eq_ok isGiven
      obtain ⟨rearranged, decodedOthers, same⟩ :=
        Outcome.exists_mapM_perm perm decoded
      refine ⟨messages, rearranged, rfl, same, ?_⟩
      have isOther : Json.list DescribedMessage.decode (.arr others) =
          .ok rearranged :=
        decodedOthers
      change (Json.once "messages" none (Json.list DescribedMessage.decode)
          (.arr others)).map _ = _
      rw [Json.once, isOther]
      rfl

/-! ## Decoding -/

/-- Two snapshots describe accounts alike but for the order of the messages. -/
structure SameButOrder (snapshot other : Snapshot) : Prop where
  /-- The owner is the same. -/
  principal_eq : other.principal = snapshot.principal
  /-- The mailboxes are the same. -/
  mailboxes_eq : other.mailboxes = snapshot.mailboxes
  /-- The messages are the same, perhaps in another order. -/
  messages_perm : snapshot.messages.Perm other.messages

theorem exists_record_rearranged
    (front back : List (String × Json))
    {items others : List Json}
    (perm : items.Perm others)
    {initial members : Members}
    (decoded : Json.record layout read initial
      (.obj (front ++ ("messages", .arr items) :: back)) = .ok members) :
    ∃ messages rearranged, members.messages = some messages ∧
      messages.Perm rearranged ∧
      Json.record layout read initial
          (.obj (front ++ ("messages", .arr others) :: back)) =
        .ok (members.withMessages rearranged) := by
  -- In front of the messages nothing differs, and behind them only the messages
  -- do.
  rw [Json.record, List.foldlM_append] at decoded
  obtain ⟨before, isBefore, decoded⟩ := Outcome.exists_of_bind_eq_ok decoded
  rw [List.foldlM_cons] at decoded
  obtain ⟨next, isNext, decoded⟩ := Outcome.exists_of_bind_eq_ok decoded
  obtain ⟨messages, rearranged, there, same, isOther⟩ :=
    exists_read_messages perm isNext
  obtain ⟨goesOn, stillThere⟩ := foldlM_read_withMessages there rearranged back
  refine ⟨messages, rearranged, stillThere members decoded, same, ?_⟩
  rw [Json.record, List.foldlM_append, isBefore]
  change (read before "messages" (.arr others) >>= _) = _
  rw [isOther]
  change back.foldlM _ _ = _
  rw [goesOn, decoded]
  rfl

/-- Items in their places are read as members. -/
theorem record_list
    (principal mailboxes messages : Json)
    (initial : Members) :
    Json.record layout read initial (.arr [principal, mailboxes, messages]) =
      Json.record layout read initial
        (.obj ([("principal", principal), ("mailboxes", mailboxes)] ++
          ("messages", messages) :: [])) := rfl

theorem exists_decode_rearranged
    {value other : Json}
    (rearranged : Rearranged value other)
    {snapshot : Snapshot}
    (decoded : decode value = .ok snapshot) :
    ∃ otherSnapshot, decode other = .ok otherSnapshot ∧
      SameButOrder snapshot otherSnapshot := by
  obtain ⟨members, isRecord, decoded⟩ := Outcome.exists_of_bind_eq_ok decoded
  obtain ⟨principal, isThere, decoded⟩ := Outcome.exists_of_bind_eq_ok decoded
  cases decoded
  have alike : ∃ messages rearranged, members.messages = some messages ∧
      messages.Perm rearranged ∧
          Json.record layout read ⟨none, none, none⟩ other =
        .ok (members.withMessages rearranged) := by
    cases rearranged with
    | object front back perm =>
        exact exists_record_rearranged front back perm isRecord
    | list principal mailboxes perm =>
        rw [record_list] at isRecord ⊢
        exact exists_record_rearranged _ _ perm isRecord
  obtain ⟨messages, others, held, same, isOther⟩ := alike
  refine ⟨⟨principal, members.mailboxes.getD [], others⟩, ?_, rfl, rfl, ?_⟩
  · rw [decode, isOther]
    change (Json.required "principal" members.principal >>= _) = _
    rw [isThere]
    rfl
  · rw [held]
    exact same

end Snapshot

/-! ## Accounts -/

namespace Account

/-- Accounts with the same mailboxes are the same if their histories hold the
same messages. -/
theorem eq_of_records
    {owner : String}
    {history otherHistory : History}
    {account other : Account}
    (records : Records owner history account)
    (otherRecords : Records owner otherHistory other)
    (mailboxes : account.mailboxes = other.mailboxes)
    (filed : ∀ id, history.filed? id = otherHistory.filed? id) :
    account = other := by
  have messages : account.messages = other.messages :=
    IdMap.eq_of_get? fun id => by
    rw [records.get?_messages, otherRecords.get?_messages, filed]
  have documents : account.index.documents = other.index.documents :=
    IdMap.eq_of_get? fun id => by
    rw [records.documents, otherRecords.documents, filed]
  obtain ⟨_, _, _, ⟨_⟩⟩ := account
  obtain ⟨_, _, _, ⟨_⟩⟩ := other
  cases records.owner_eq
  cases otherRecords.owner_eq
  cases mailboxes
  cases messages
  cases documents
  rfl

/-- Messages leave the mailboxes as they are. -/
theorem mailboxes_foldl_filed
    (account : Account)
    (filed : List Filed) :
    ((filed.map Filed.change).foldl change account).mailboxes =
      account.mailboxes := by
  induction filed generalizing account with
  | nil => rfl
  | cons one rest inductionHypothesis =>
      rw [List.map_cons, List.foldl_cons, inductionHypothesis]
      exact (change_addMessage account one.message one.attachmentText).2

end Account

namespace SnapshotFile

/-- The raw messages that the messages of a snapshot name are read elsewhere as
they are here. -/
def KeepsRawMessages (file other : SnapshotFile) (snapshot : Snapshot) : Prop :=
  ∀ message ∈ snapshot.messages, ∀ name, message.file = some name →
    ∀ bytes, file.bytes (file.rawPath name) = .ok bytes →
      other.bytes (other.rawPath name) = .ok bytes

variable {file other : SnapshotFile} {snapshot otherSnapshot : Snapshot}

theorem KeepsRawMessages.filed_eq_ok
    (keeps : KeepsRawMessages file other snapshot)
    {message : DescribedMessage}
    (isMessage : message ∈ snapshot.messages)
    {filed : Filed}
    (isFiled : file.filed message = .ok filed) :
    other.filed message = .ok filed := by
  obtain ⟨content, isContent, readable, rfl⟩ := filed_eq_ok_iff.mp isFiled
  refine filed_eq_ok_iff.mpr ⟨content, content_eq_ok_iff.mpr ?_, readable, rfl⟩
  refine (content_eq_ok_iff.mp isContent).imp_right ?_
  rintro ⟨name, isNamed, isRaw⟩
  obtain ⟨bytes, areBytes, isDocument⟩ := rawMessage_eq_ok_iff.mp isRaw
  exact ⟨name, isNamed, rawMessage_eq_ok_iff.mpr
    ⟨bytes, keeps message isMessage name isNamed bytes areBytes, isDocument⟩⟩

/-- The order of the messages makes no difference to the account that is
loaded. -/
theorem load_of_sameButOrder
    (isSnapshot : file.snapshot = .ok snapshot)
    (isOther : other.snapshot = .ok otherSnapshot)
    (same : snapshot.SameButOrder otherSnapshot)
    (keeps : KeepsRawMessages file other snapshot)
    {account : Account}
    (loads : file.load = .ok account) :
    other.load = .ok account := by
  obtain ⟨found, isFound, distinct, filed, isFiled, rfl⟩ :=
    load_eq_ok_iff.mp loads
  rw [isSnapshot] at isFound
  cases isFound
  obtain ⟨principal, mailboxes, messages⟩ := otherSnapshot
  obtain ⟨samePrincipal, sameMailboxes, perm⟩ := same
  cases samePrincipal
  cases sameMailboxes
  have otherDistinct : (messages.map DescribedMessage.id).Nodup :=
    ((perm.map _).nodup_iff).mp distinct
  have filedThere : snapshot.messages.mapM other.filed = .ok filed :=
    Outcome.mapM_eq_ok_of_confirmed
      (fun _ isMessage _ => keeps.filed_eq_ok isMessage) isFiled
  obtain ⟨rearranged, areFiled, filedPerm⟩ :=
    Outcome.exists_mapM_perm perm filedThere
  have distinctFiled : (filed.map fun one => one.message.id).Nodup :=
    ids_of_filed isFiled ▸ distinct
  have distinctRearranged : (rearranged.map fun one => one.message.id).Nodup :=
    ((filedPerm.map _).nodup_iff).mp distinctFiled
  refine load_eq_ok_iff.mpr ⟨_, isOther, otherDistinct, rearranged,
    areFiled, ?_⟩
  refine Account.eq_of_records (Account.records_ofHistory _ _)
    (Account.records_ofHistory _ _) ?_ ?_
  · rw [Snapshot.ofHistory_history, Snapshot.ofHistory_history,
      Account.mailboxes_foldl_filed, Account.mailboxes_foldl_filed]
    rfl
  · intro id
    refine Option.ext fun one => ?_
    rw [Snapshot.filed?_history_eq_some_iff _ (readable_of_mapM_filed areFiled)
        distinctRearranged,
      Snapshot.filed?_history_eq_some_iff _ (readable_of_mapM_filed isFiled)
        distinctFiled,
      filedPerm.mem_iff]

/-! ## Texts that are rearranged -/

/-- The text of a snapshot is that of a value. -/
def ReadsAs (file : SnapshotFile) (value : Json) : Prop :=
  ∃ text, file.text file.path = .ok text ∧ Json.readLoosely? text = some value

theorem ReadsAs.eq
    {value otherValue : Json}
    (reads : file.ReadsAs value)
    (readsOther : file.ReadsAs otherValue) :
    value = otherValue := by
  obtain ⟨text, isText, isValue⟩ := reads
  obtain ⟨otherText, isOtherText, isOtherValue⟩ := readsOther
  cases isText.symm.trans isOtherText
  exact Option.some.inj (isValue.symm.trans isOtherValue)

/-- The text of another snapshot differs from that of this one only in the order
of messages. -/
def RearrangedIn (file other : SnapshotFile) : Prop :=
  ∃ value otherValue, file.ReadsAs value ∧ other.ReadsAs otherValue ∧
    Snapshot.Rearranged value otherValue

theorem snapshot_eq_ok_iff
    {value : Json}
    (reads : file.ReadsAs value) :
    file.snapshot = .ok snapshot ↔ Snapshot.decode value = .ok snapshot := by
  obtain ⟨text, isText, isValue⟩ := reads
  rw [SnapshotFile.snapshot, isText]
  change (Snapshot.ofChars text).mapError _ = _ ↔ _
  rw [Snapshot.ofChars, isValue]
  dsimp only
  cases Snapshot.decode value with
  | error error =>
      constructor <;>
        · intro failed
          cases failed
  | ok found =>
      change Except.ok found = .ok snapshot ↔ Except.ok found = .ok snapshot
      rw [Except.ok.injEq, Except.ok.injEq]

/-- A snapshot is the decoded value of the text of the file. -/
theorem exists_readsAs_of_snapshot
    (isSnapshot : file.snapshot = .ok snapshot) :
    ∃ value, file.ReadsAs value ∧ Snapshot.decode value = .ok snapshot := by
  obtain ⟨text, isText, decoded⟩ := Outcome.exists_of_bind_eq_ok isSnapshot
  have isText : file.text file.path = .ok text := by
    cases found : file.text file.path with
    | error cause =>
        rw [found] at isText
        cases isText
    | ok value =>
        rw [found] at isText
        cases isText
        rfl
  cases isValue : Json.readLoosely? text with
  | none =>
      rw [Snapshot.ofChars, isValue] at decoded
      cases decoded
  | some value =>
      have reads : file.ReadsAs value := ⟨text, isText, isValue⟩
      exact ⟨value, reads, (snapshot_eq_ok_iff reads).mp isSnapshot⟩

/-- Rearranged, a snapshot is loaded as the same account if its raw messages are
kept. -/
theorem load_of_rearrangedIn
    (rearranged : file.RearrangedIn other)
    (keeps : ∀ snapshot, file.snapshot = .ok snapshot →
      KeepsRawMessages file other snapshot)
    {account : Account}
    (loads : file.load = .ok account) :
    other.load = .ok account := by
  obtain ⟨value, otherValue, reads, readsOther, alike⟩ := rearranged
  obtain ⟨snapshot, isSnapshot, -⟩ := load_eq_ok_iff.mp loads
  obtain ⟨otherSnapshot, decoded, same⟩ :=
    Snapshot.exists_decode_rearranged alike
      ((snapshot_eq_ok_iff reads).mp isSnapshot)
  exact load_of_sameButOrder isSnapshot
      ((snapshot_eq_ok_iff readsOther).mpr decoded) same
    (keeps snapshot isSnapshot) loads

/-! ## Snapshots in folders -/

/-- The snapshot at a path of a folder. -/
def inFolder (folder : Folder) (path : String) : SnapshotFile :=
  ⟨Folder, Folder.access, folder, path, fun _ => rfl⟩

/-- A snapshot that is written anew keeps its raw messages unless it is one of
them. -/
theorem keepsRawMessages_of_write
    {folder rewritten : Folder}
    {path : String}
    {bytes : List UInt8}
    (writes : folder.write path bytes = .ok rewritten)
    (elsewhere : ∀ message ∈ snapshot.messages, ∀ name,
        message.file = some name →
      folder.resolve ((inFolder folder path).rawPath name) ≠
        folder.resolve path) :
    KeepsRawMessages (inFolder folder path) (inFolder rewritten path)
      snapshot := by
  intro message isMessage name isNamed held reads
  exact Folder.read_of_write_elsewhere writes
    (elsewhere message isMessage name isNamed) reads

/-- In a folder the messages may be rearranged unless one of them names the
snapshot itself. -/
theorem load_of_write
    {folder rewritten : Folder}
    {path : String}
    {bytes : List UInt8}
    (writes : folder.write path bytes = .ok rewritten)
    (rearranged : (inFolder folder path).RearrangedIn (inFolder rewritten path))
    (elsewhere : ∀ snapshot, (inFolder folder path).snapshot = .ok snapshot →
      ∀ message ∈ snapshot.messages, ∀ name, message.file = some name →
        folder.resolve ((inFolder folder path).rawPath name) ≠
          folder.resolve path)
    {account : Account}
    (loads : (inFolder folder path).load = .ok account) :
    (inFolder rewritten path).load = .ok account :=
  load_of_rearrangedIn rearranged
    (fun snapshot isSnapshot =>
      keepsRawMessages_of_write writes (elsewhere snapshot isSnapshot))
    loads

end SnapshotFile
end Store
end MailSearch
