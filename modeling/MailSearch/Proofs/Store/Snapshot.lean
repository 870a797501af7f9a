import MailSearch.Proofs.Query.FieldSearch
import MailSearch.Proofs.Store.Description
import MailSearch.Proofs.Store.EntryOrder
import MailSearch.Proofs.Store.FullText
import MailSearch.Proofs.Store.Invariant

/-!
# Accounts that snapshots describe

A snapshot is loaded as a whole or not at all.  The account that is loaded holds
what the snapshot describes: its mailboxes and its messages, each with the
content that stands in the snapshot or in the file that is named there.  The
order of the messages counts only if the snapshot is itself one of the raw
messages that it names.
-/

namespace MailSearch
namespace Store

open Storage

/-! ## What a loaded account holds -/

/-- An account holds what a snapshot describes, with the raw messages that it
names. -/
structure Account.Represents (account : Account) (file : SnapshotFile)
    (snapshot : Snapshot) :
    Prop where
  /-- The account belongs to the owner. -/
  owner_eq : account.owner = snapshot.principal
  /-- No two mailboxes have the same identifier. -/
  nodup_mailboxes : (account.mailboxes.map Mailbox.id).Nodup
  /-- Of the mailboxes with an identifier the last one counts. -/
  mem_mailboxes_iff : ∀ mailbox, mailbox ∈ account.mailboxes ↔
    ∃ before after, snapshot.mailboxes = before ++ mailbox :: after ∧
      ∀ other ∈ after, other.id ≠ mailbox.id
  /-- No two messages of the snapshot have the same identifier. -/
  nodup_messages : (snapshot.messages.map DescribedMessage.id).Nodup
  /-- There are as many messages as the snapshot describes. -/
  size_eq : account.size = snapshot.messages.length
  /-- There is no other message. -/
  isSome_message?_iff : ∀ id,
    (account.message? id).isSome = true ↔
      id ∈ snapshot.messages.map DescribedMessage.id
  /-- Every message is there with its content, in which all texts are found. -/
  holds : ∀ entry ∈ snapshot.messages, ∃ content text,
    file.content entry = .ok content ∧
    account.message? entry.id = some (entry.withContent content) ∧
    Query.IndexedText.ofMessage (entry.withContent content)
      content.attachmentText = some text ∧
    ∀ scope term, account.search scope term entry.id =
      text.contains scope (Text.lower term.toList)
  /-- A message whose content stands in the snapshot says what is said there. -/
  renders : ∀ entry ∈ snapshot.messages, entry.file = none →
    ∃ message, account.message? entry.id = some message ∧ entry.Renders message
  /-- Of such a message the given texts of attached parts are found, one a
  line. -/
  search_iff : ∀ entry ∈ snapshot.messages, entry.file = none → ∀ term,
    (account.search .attachments term entry.id = true ↔
      Text.lower term.toList <:+: Query.searchable entry.attachmentTexts)
  /-- What is found on one line is found in one of these texts. -/
  search_line_iff : ∀ entry ∈ snapshot.messages, entry.file = none →
    ∀ term, term ≠ "" → '\n' ∉ term.toList →
      (account.search .attachments term entry.id = true ↔
        ∃ text ∈ entry.attachmentTexts,
          Text.lower term.toList <:+: Text.lower text.toList)

/-- Another account answers every query as this one does. -/
def Account.AnswersLike (account other : Account) : Prop :=
  ∀ settings principal request,
    (other.engine settings).query principal request =
      (account.engine settings).query principal request

namespace SnapshotFile

variable {file : SnapshotFile}

section Loaded

variable {snapshot : Snapshot} {filed : List Filed}
  (distinct : (snapshot.messages.map DescribedMessage.id).Nodup)
  (isFiled : snapshot.messages.mapM file.filed = .ok filed)

include distinct isFiled

theorem isSome_message?_ofHistory
    (id : String) :
    ((Account.ofHistory snapshot.principal (snapshot.history filed)).message?
        id).isSome = true ↔
      id ∈ snapshot.messages.map DescribedMessage.id := by
  have records := Account.records_ofHistory snapshot.principal
    (snapshot.history filed)
  rw [Account.message?, records.get?_messages, Option.isSome_map,
    Option.isSome_iff_exists, List.mem_map]
  simp only [filed?_eq_some_iff distinct isFiled]
  constructor
  · rintro ⟨one, entry, isEntry, isNamed, -⟩
    exact ⟨entry, isEntry, isNamed⟩
  · rintro ⟨entry, isEntry, isNamed⟩
    obtain ⟨one, isOne⟩ := Outcome.exists_of_mapM_eq_ok isFiled entry isEntry
    exact ⟨one, entry, isEntry, isNamed, isOne⟩

theorem size_ofHistory :
    (Account.ofHistory snapshot.principal (snapshot.history filed)).size =
      snapshot.messages.length := by
  have present := isSome_message?_ofHistory distinct isFiled
  generalize Account.ofHistory snapshot.principal (snapshot.history filed) =
    account at present ⊢
  have keys : account.messages.keys.Perm
      (snapshot.messages.map DescribedMessage.id) := by
    have nodup : account.messages.keys.Nodup :=
      account.messages.pairwise_keys.imp fun less => Std.ne_of_lt less
    refine (List.perm_ext_iff_of_nodup nodup distinct).mpr fun id => ?_
    rw [IdMap.mem_keys_iff]
    exact present id
  rw [Account.size, IdMap.size, ← List.length_map, ← IdMap.keys,
    keys.length_eq, List.length_map]

theorem holds_ofHistory
    {entry : DescribedMessage}
    (isEntry : entry ∈ snapshot.messages) :
    ∃ content text, file.content entry = .ok content ∧
      (Account.ofHistory snapshot.principal (snapshot.history filed)).message?
          entry.id = some (entry.withContent content) ∧
      Query.IndexedText.ofMessage (entry.withContent content)
        content.attachmentText = some text ∧
      ∀ scope term,
        (Account.ofHistory snapshot.principal (snapshot.history filed)).search
            scope term entry.id =
          text.contains scope (Text.lower term.toList) := by
  have records := Account.records_ofHistory snapshot.principal
    (snapshot.history filed)
  obtain ⟨one, isOne⟩ := Outcome.exists_of_mapM_eq_ok isFiled entry isEntry
  obtain ⟨content, isContent, -, rfl⟩ := filed_eq_ok_iff.mp isOne
  have found : (snapshot.history filed).filed? entry.id =
      some (entry.filed content) :=
    (filed?_eq_some_iff distinct isFiled).mpr ⟨entry, isEntry, rfl, isOne⟩
  obtain ⟨text, indexed, finds⟩ :
      ∃ text, Query.IndexedText.ofMessage (entry.withContent content)
          content.attachmentText = some text ∧
        ∀ scope term, (snapshot.history filed).contains scope term entry.id =
          text.contains scope (Text.lower term.toList) :=
    History.exists_indexed found
  refine ⟨content, text, isContent, ?_, indexed, fun scope term => ?_⟩
  · rw [Account.message?, records.get?_messages, found]
    rfl
  · rw [records.search_eq]
    exact finds scope term

/-- A message whose content stands in the snapshot has that content. -/
theorem holds_inline_ofHistory
    {entry : DescribedMessage}
    (isEntry : entry ∈ snapshot.messages)
    (isInline : entry.file = none) :
    (Account.ofHistory snapshot.principal (snapshot.history filed)).message?
        entry.id = some (entry.withContent entry.content) ∧
      ∃ text, Query.IndexedText.ofMessage (entry.withContent entry.content)
          entry.attachmentTexts = some text ∧
        ∀ scope term,
          (Account.ofHistory snapshot.principal
              (snapshot.history filed)).search scope term entry.id =
            text.contains scope (Text.lower term.toList) := by
  obtain ⟨content, text, isContent, held, indexed, finds⟩ :=
    holds_ofHistory distinct isFiled isEntry
  have inline : file.content entry = .ok entry.content :=
    content_eq_ok_iff.mpr (.inl ⟨isInline, rfl⟩)
  rw [inline] at isContent
  cases isContent
  exact ⟨held, text, indexed, finds⟩

end Loaded

/-- A search of attached parts looks into their texts. -/
theorem contains_attachments_iff
    {message : Message}
    {texts : List String}
    {text : Query.IndexedText}
    (indexed : Query.IndexedText.ofMessage message texts = some text)
    (term : List Char) :
    text.contains .attachments term = true ↔
      term <:+: Query.searchable texts := by
  obtain ⟨body, -, rfl⟩ := Option.map_eq_some_iff.mp indexed
  exact Text.occursIn_iff _ _

/--
A term without line feeds stands in the texts of attached parts if it stands in
one of them.
-/
theorem isInfix_searchable_iff
    {texts : List String}
    {term : String}
    (nonempty : term ≠ "")
    (unbroken : '\n' ∉ term.toList) :
    Text.lower term.toList <:+: Query.searchable texts ↔
      ∃ text ∈ texts, Text.lower term.toList <:+: Text.lower text.toList := by
  have folded : ∀ text, Query.Predicate.occursFolded term text = true ↔
      Text.lower term.toList <:+: Text.lower text.toList := by
    intro text
    rw [Query.Predicate.occursFolded, if_neg nonempty, Text.occursIn_iff]
  simp only [← folded, ← Text.occursIn_iff]
  constructor
  · exact Query.exists_of_occursIn_searchable nonempty unbroken
  · rintro ⟨text, isText, found⟩
    exact Query.occursIn_searchable_of_mem isText found

theorem represents_of_load
    {account : Account}
    (loads : file.load = .ok account) :
    ∃ snapshot, file.snapshot = .ok snapshot ∧
      account.Represents file snapshot := by
  obtain ⟨snapshot, isSnapshot, distinct, filed, isFiled, rfl⟩ :=
    load_eq_ok_iff.mp loads
  have records := Account.records_ofHistory snapshot.principal
    (snapshot.history filed)
  have searches : ∀ entry ∈ snapshot.messages, entry.file = none → ∀ term,
      ((Account.ofHistory snapshot.principal (snapshot.history filed)).search
          .attachments term entry.id = true ↔
        Text.lower term.toList <:+:
          Query.searchable entry.attachmentTexts) := by
    intro entry isEntry isInline term
    obtain ⟨-, text, indexed, finds⟩ :=
      holds_inline_ofHistory distinct isFiled isEntry isInline
    rw [finds, contains_attachments_iff indexed]
  refine ⟨snapshot, isSnapshot, {
    owner_eq := records.owner_eq
    nodup_mailboxes := (Account.inOrderOfAddition_ofHistory _ _).nodup_ids
    mem_mailboxes_iff := fun mailbox =>
      (records.mem_mailboxes_iff mailbox).trans
        snapshot.mailbox?_history_eq_some_iff
    nodup_messages := distinct
    size_eq := size_ofHistory distinct isFiled
    isSome_message?_iff := isSome_message?_ofHistory distinct isFiled
    holds := fun entry isEntry => holds_ofHistory distinct isFiled isEntry
    renders := ?_
    search_iff := searches
    search_line_iff := ?_ }⟩
  · intro entry isEntry isInline
    obtain ⟨found, -⟩ :=
      holds_inline_ofHistory distinct isFiled isEntry isInline
    exact ⟨_, found, entry.renders_withContent⟩
  · intro entry isEntry isInline term nonempty unbroken
    rw [searches entry isEntry isInline]
    exact isInfix_searchable_iff nonempty unbroken

/-! ## Loading as a whole -/

/--
The loading of an account fails for one of the files, or the program breaks down
over the first message that has a new identifier and HTML that cannot be
converted, or else the account holds what the snapshot describes, and the
snapshot is what its text says.  It succeeds if the messages have different
identifiers and contents; a repeated identifier is reported if the messages in
front of it have contents.  Rearranged, the messages make the same account,
provided that their raw messages are kept, as they are in a folder unless one of
them is the snapshot itself.
-/
theorem snapshot_loads_as_a_whole
    (file : SnapshotFile) :
    (∀ error, file.load = .error (.failed error) → ConcernsFile error) ∧
    (file.load = .error .brokenDown ↔
      ∃ snapshot, file.snapshot = .ok snapshot ∧
        ∃ earlier entry later, snapshot.messages = earlier ++ entry :: later ∧
          ((earlier ++ [entry]).map DescribedMessage.id).Nodup ∧
          (∀ other ∈ earlier, file.HasContent other) ∧
          file.BreaksDownOver entry) ∧
    (∀ account, file.load = .ok account →
      ∃ value snapshot, file.ReadsAs value ∧
        Snapshot.DescribedBy value snapshot ∧
        file.snapshot = .ok snapshot ∧ account.Represents file snapshot) ∧
    (∀ snapshot, file.snapshot = .ok snapshot →
      ((snapshot.messages.map DescribedMessage.id).Nodup →
        (∀ entry ∈ snapshot.messages, file.HasContent entry) →
          ∃ account, file.load = .ok account) ∧
      ∀ earlier entry later, snapshot.messages = earlier ++ entry :: later →
        entry.id ∈ earlier.map DescribedMessage.id →
        (∀ other ∈ earlier, file.HasContent other) →
          ∃ id, file.load = .error (.failed
              (.malformed file.path (.duplicateMessage id))) ∧
            (Query.Malformed.duplicateMessage id).message =
              "duplicate message id '" ++ id ++ "'" ∧
            ((earlier.map DescribedMessage.id).Nodup → id = entry.id)) ∧
    (∀ other, file.RearrangedIn other →
      (∀ snapshot, file.snapshot = .ok snapshot →
        KeepsRawMessages file other snapshot) →
        ∀ account, file.load = .ok account → other.load = .ok account) ∧
    ∀ folder rewritten path bytes, folder.write path bytes = .ok rewritten →
      (inFolder folder path).RearrangedIn (inFolder rewritten path) →
      (∀ snapshot, (inFolder folder path).snapshot = .ok snapshot →
        ∀ entry ∈ snapshot.messages, ∀ name, entry.file = some name →
          folder.resolve ((inFolder folder path).rawPath name) ≠
            folder.resolve path) →
        ∀ account, (inFolder folder path).load = .ok account →
          (inFolder rewritten path).load = .ok account := by
  refine ⟨fun _ fails => concernsFile_of_load fails, load_eq_brokenDown_iff, ?_,
    fun snapshot isSnapshot => ⟨exists_load isSnapshot, ?_⟩,
    fun _ rearranged keeps _ loads =>
      load_of_rearrangedIn rearranged keeps loads,
    fun _ _ _ _ writes rearranged elsewhere _ loads =>
      load_of_write writes rearranged elsewhere loads⟩
  · intro account loads
    obtain ⟨snapshot, isSnapshot, represents⟩ := represents_of_load loads
    obtain ⟨value, reads, decoded⟩ := exists_readsAs_of_snapshot isSnapshot
    exact ⟨value, snapshot, reads, Snapshot.describedBy_of_decode decoded,
      isSnapshot, represents⟩
  · intro earlier entry later parted repeated contents
    obtain ⟨id, fails, isEntry⟩ :=
      load_of_repeated isSnapshot parted repeated contents
    exact ⟨id, fails, rfl, isEntry⟩

/-!
## A snapshot with a raw message

The texts are made of short pieces, whose characters are quickly computed.
-/

/-- The text of a snapshot of two messages. -/
def textOfPair (first second : List Char) : List Char :=
  "\x7b\"principal\":\"a\",".toList ++
    "\"mailboxes\":[\x7b\"id\":\"i\"\x7d],".toList ++
    "\"messages\":\n[".toList ++ first ++ ",\n".toList ++ second ++
      "]\x7d\n".toList

/-- What such a snapshot says. -/
def valueOfPair (first second : Json) : Json :=
  .obj ([("principal", .str "a"),
      ("mailboxes", .arr [.obj [("id", .str "i")]])] ++
    ("messages", .arr [first, second]) :: [])

/-- A message whose content stands in the snapshot. -/
def detailed : List Char :=
  "\x7b\"id\":\"m\",\"mailboxIds\":[\"i\"],".toList ++
    "\"keywords\":[\"$Seen\",\"$SEEN\"],".toList ++
    "\"receivedAt\":\"2024-01-01T00:00:00Z\",".toList ++
    "\"headers\":\x7b\"To\":[\"b@x\",\"a@x\"],".toList ++
    "\"Subject\":\"Plan\"\x7d,".toList ++
    "\"textBody\":\"text\",\"htmlBody\":\"<p>x</p>\",".toList ++
    "\"attachments\":[\x7b\"filename\":\"r.pdf\",".toList ++
    "\"size\":10,\"text\":\"Revenue\"\x7d,".toList ++
    "\x7b\"contentType\":\"image/png\",".toList ++
    "\"isInline\":true\x7d]\x7d".toList

/-- A message whose content stands in a file of its own. -/
def onDisk : List Char :=
  "\x7b\"id\":\"n\",\"mailboxIds\":[\"i\"],".toList ++
    "\"receivedAt\":\"2024-01-01T00:00:00Z\",".toList ++
    "\"threadId\":\"t\",\"size\":4242,".toList ++
    "\"eml\":\"n.eml\"\x7d".toList

/-- The raw message in that file. -/
def rawOnDisk : List Char :=
  "Subject: From disk\n".toList ++ "To: c@x\n\nDisk body\n".toList

/-- A folder with a snapshot of two messages and the raw message. -/
def folderWithRaw (first second : List Char) : Folder :=
  ⟨[], [(["s.json".toList], Text.Utf8.encode (textOfPair first second)),
    (["n.eml".toList], Text.Utf8.encode rawOnDisk)]⟩

/-- What the first message says. -/
def detailedValue : Json :=
  .obj [("id", .str "m"), ("mailboxIds", .arr [.str "i"]),
    ("keywords", .arr [.str "$Seen", .str "$SEEN"]),
    ("receivedAt", .str "2024-01-01T00:00:00Z"),
    ("headers", .obj [("To", .arr [.str "b@x", .str "a@x"]),
      ("Subject", .str "Plan")]),
    ("textBody", .str "text"), ("htmlBody", .str "<p>x</p>"),
    ("attachments", .arr [
      .obj [("filename", .str "r.pdf"), ("size", .nat 10),
        ("text", .str "Revenue")],
      .obj [("contentType", .str "image/png"), ("isInline", .bool true)]])]

/-- What the second message says. -/
def onDiskValue : Json :=
  .obj [("id", .str "n"), ("mailboxIds", .arr [.str "i"]),
    ("receivedAt", .str "2024-01-01T00:00:00Z"), ("threadId", .str "t"),
    ("size", .nat 4242), ("eml", .str "n.eml")]

/-- The first message as it is stored. -/
def detailedMessage : Message where
  id := "m"
  threadId := "m"
  blobId := "m"
  mailboxIds := .ofList ["i"]
  keywords := ⟨[⟨"$Seen", by decide⟩]⟩
  headers := [("Subject", "Plan"), ("To", "b@x"), ("To", "a@x")]
  size := 55
  receivedAt := ⟨1704067200, 0⟩
  attachments :=
    [⟨"r.pdf", "application/octet-stream", 10, false⟩,
      ⟨"", "image/png", 0, true⟩]
  body := ⟨some "text", some "<p>x</p>"⟩

/-- The second message as it is stored. -/
def onDiskMessage : Message where
  id := "n"
  threadId := "t"
  blobId := "n"
  mailboxIds := .ofList ["i"]
  keywords := .empty
  headers := [("Subject", "From disk"), ("To", "c@x")]
  size := 4242
  receivedAt := ⟨1704067200, 0⟩
  attachments := []
  body := ⟨some "Disk body\n",
    some "<html><body>Disk body<br/></body></html>"⟩

theorem readsAs_of_same
    {value : Json}
    (same : (file.text file.path).toOption.any
      (fun text => (Json.readLoosely? text).any value.same) = true) :
    file.ReadsAs value := by
  obtain ⟨text, isText, same⟩ := (Option.any_eq_true _ _).mp same
  obtain ⟨read, isRead, same⟩ := (Option.any_eq_true _ _).mp same
  refine ⟨text, Outcome.eq_ok_of_toOption isText, ?_⟩
  rw [isRead, Json.eq_of_same value read same]

/-- What is found in the account that is loaded. -/
def shown {α : Type} (file : SnapshotFile) (look : Account → α) : Option α :=
  file.load.toOption.map look

theorem exists_load_of_shown
    {α : Type}
    {look : Account → α}
    {seen : α}
    (isShown : file.shown look = some seen) :
    ∃ account, file.load = .ok account ∧ look account = seen := by
  obtain ⟨account, loads, looks⟩ := Option.map_eq_some_iff.mp isShown
  exact ⟨account, Outcome.eq_ok_of_toOption loads, looks⟩

/--
The first message has its header fields by ascending names, and its keywords,
attached parts and defaults; the second one has the content of its file; their
texts are found, and in the other order they make the same account.
-/
theorem detailed_snapshot_loaded :
    ∃ account snapshot,
      (inFolder (folderWithRaw detailed onDisk) "s.json").load = .ok account ∧
      Snapshot.DescribedBy (valueOfPair detailedValue onDiskValue) snapshot ∧
      account.Represents (inFolder (folderWithRaw detailed onDisk) "s.json")
        snapshot ∧
      account.message? "m" = some detailedMessage ∧
      account.message? "n" = some onDiskMessage ∧
      account.search .attachments "REVENUE" "m" = true ∧
      account.search .body "disk BODY" "n" = true ∧
      (inFolder (folderWithRaw onDisk detailed) "s.json").load =
        .ok account := by
  have isShown : (inFolder (folderWithRaw detailed onDisk) "s.json").shown
      (fun account => (account.message? "m", account.message? "n",
        account.search .attachments "REVENUE" "m",
        account.search .body "disk BODY" "n")) =
      some (some detailedMessage, some onDiskMessage, true, true) := by
    decide +kernel
  obtain ⟨account, loads, looks⟩ := exists_load_of_shown isShown
  simp only [Prod.mk.injEq] at looks
  obtain ⟨first, second, inAttachment, inBody⟩ := looks
  obtain ⟨-, -, represents, -, -, rearranges⟩ :=
    snapshot_loads_as_a_whole
      (inFolder (folderWithRaw detailed onDisk) "s.json")
  obtain ⟨value, snapshot, reads, describes, -, represents⟩ :=
    represents account loads
  have writes : (folderWithRaw detailed onDisk).write "s.json"
      (Text.Utf8.encode (textOfPair onDisk detailed)) =
        .ok (folderWithRaw onDisk detailed) := by
    refine Folder.write_eq_ok_iff.mpr
      ⟨["s.json".toList], Outcome.eq_ok_of_toOption ?_, rfl⟩
    decide +kernel
  have readsHere : (inFolder (folderWithRaw detailed onDisk) "s.json").ReadsAs
      (valueOfPair detailedValue onDiskValue) :=
    readsAs_of_same (by decide +kernel)
  have readsThere : (inFolder (folderWithRaw onDisk detailed) "s.json").ReadsAs
      (valueOfPair onDiskValue detailedValue) :=
    readsAs_of_same (by decide +kernel)
  have named : ((inFolder (folderWithRaw detailed onDisk)
      "s.json").snapshot.toOption.map fun snapshot =>
        snapshot.messages.map DescribedMessage.file) =
      some [none, some "n.eml"] := by
    decide +kernel
  have elsewhere : (folderWithRaw detailed onDisk).resolve
      ((inFolder (folderWithRaw detailed onDisk) "s.json").rawPath "n.eml") ≠
      (folderWithRaw detailed onDisk).resolve "s.json" := by
    decide +kernel
  refine ⟨account, snapshot, loads, reads.eq readsHere ▸ describes, represents,
    first, second, inAttachment, inBody, rearranges _ _ _ _ writes
      ⟨_, _, readsHere, readsThere, .object _ _ (.swap _ _ _)⟩ ?_ account loads⟩
  intro snapshot isSnapshot entry isEntry name isNamed
  rw [isSnapshot] at named
  have isFile : entry.file ∈ [none, some "n.eml"] :=
    Option.some.inj named ▸ List.mem_map_of_mem isEntry
  rw [isNamed] at isFile
  obtain rfl : name = "n.eml" := by simpa using isFile
  exact elsewhere

/-!
## A snapshot that names itself

A line of the text is a header field if there is a colon in it.
-/

/-- A message whose raw message is the snapshot in which it is described. -/
def selfNaming : List Char :=
  "\x7b\"id\":\"m\",\n\"mailboxIds\":[\"i\"],".toList ++
    "\"receivedAt\":\"2024-01-01T00:00:00Z\",".toList ++
      "\"eml\":\"s.json\"\x7d".toList

/-- A message whose content stands in the snapshot. -/
def ordinary : List Char :=
  "\x7b\"id\":\"n\",\n\"mailboxIds\":[\"i\"],".toList ++
    "\"receivedAt\":\"2024-01-01T00:00:00Z\"\x7d".toList

/-- A folder with a snapshot of two messages and nothing else. -/
def folderOfPair (first second : List Char) : Folder :=
  ⟨[], [(["s.json".toList], Text.Utf8.encode (textOfPair first second))]⟩

/-- What the first message says. -/
def selfNamingValue : Json :=
  .obj [("id", .str "m"), ("mailboxIds", .arr [.str "i"]),
    ("receivedAt", .str "2024-01-01T00:00:00Z"), ("eml", .str "s.json")]

/-- What the second message says. -/
def ordinaryValue : Json :=
  .obj [("id", .str "n"), ("mailboxIds", .arr [.str "i"]),
    ("receivedAt", .str "2024-01-01T00:00:00Z")]

/-- A query for the identifier that the second line of the raw message shows. -/
def headerQuery : Json :=
  .obj [("filter", .obj [("header", .arr [.str "[\x7b\"id\"", .str "m"])])]

/-- How many messages the query finds. -/
def found (file : SnapshotFile) : Option Nat :=
  file.load.toOption.bind fun account =>
    ((account.engine .standard).query "a" headerQuery).toOption.join.map
      Query.Answer.total

theorem exists_load_of_found
    {count : Nat}
    (isFound : file.found = some count) :
    ∃ account, file.load = .ok account := by
  obtain ⟨account, loads, -⟩ := Option.bind_eq_some_iff.mp isFound
  exact ⟨account, Outcome.eq_ok_of_toOption loads⟩

/-- In another order the messages make another header field of the one that
names them. -/
theorem order_counts_in_self_naming_snapshot :
    ¬ ∀ (folder rewritten : Folder) (path : String) (bytes : List UInt8)
        (account : Account),
      folder.write path bytes = .ok rewritten →
      (inFolder folder path).RearrangedIn (inFolder rewritten path) →
      (inFolder folder path).load = .ok account →
        ∃ other, (inFolder rewritten path).load = .ok other ∧
          account.AnswersLike other := by
  intro agrees
  have writes : (folderOfPair selfNaming ordinary).write "s.json"
      (Text.Utf8.encode (textOfPair ordinary selfNaming)) =
        .ok (folderOfPair ordinary selfNaming) := by
    refine Folder.write_eq_ok_iff.mpr ⟨["s.json".toList],
      Outcome.eq_ok_of_toOption ?_, rfl⟩
    decide +kernel
  have reads : (inFolder (folderOfPair selfNaming ordinary) "s.json").ReadsAs
      (valueOfPair selfNamingValue ordinaryValue) :=
        readsAs_of_same (by decide +kernel)
  have readsOther :
      (inFolder (folderOfPair ordinary selfNaming) "s.json").ReadsAs
      (valueOfPair ordinaryValue selfNamingValue) :=
        readsAs_of_same (by decide +kernel)
  have rearranged :
      (inFolder (folderOfPair selfNaming ordinary) "s.json").RearrangedIn
      (inFolder (folderOfPair ordinary selfNaming) "s.json") :=
    ⟨_, _, reads, readsOther, .object _ _ (.swap _ _ _)⟩
  have one : found (inFolder (folderOfPair selfNaming ordinary) "s.json") =
      some 1 := by
    decide +kernel
  have nothing : found (inFolder (folderOfPair ordinary selfNaming) "s.json") =
      some 0 := by
    decide +kernel
  obtain ⟨account, loads⟩ := exists_load_of_found one
  obtain ⟨other, loadsOther, alike⟩ :=
    agrees _ _ _ _ account writes rearranged loads
  rw [found, loads] at one
  rw [found, loadsOther] at nothing
  have same : some 0 = some 1 := by
    rw [← nothing, ← one]
    exact congrArg
        (fun answered => answered.toOption.join.map Query.Answer.total)
      (alike .standard "a" headerQuery)
  cases same

end SnapshotFile
end Store
end MailSearch
