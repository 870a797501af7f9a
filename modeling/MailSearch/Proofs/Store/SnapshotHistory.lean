import MailSearch.Proofs.Store.SnapshotFile

/-!
# The history of a loaded account

A message can be added if its identifier is new, and its content is there and
can be shown as text.  So a snapshot is loaded if its messages have different
identifiers and such contents, and the account is then the one after a history,
in which the mailboxes of the snapshot are added first and then its messages.
-/

namespace MailSearch

/-- A list of steps stops at the first one that cannot be taken. -/
theorem Outcome.foldlM_eq_error_iff
    {ε α β : Type}
    {step : β -> α -> Except ε β}
    {items : List α}
    {start : β}
    {error : ε} :
    items.foldlM step start = .error error ↔
      ∃ earlier item later reached, items = earlier ++ item :: later ∧
        earlier.foldlM step start = .ok reached ∧
          step reached item = .error error := by
  constructor
  · intro fails
    induction items generalizing start with
    | nil => cases fails
    | cons item rest inductionHypothesis =>
        rw [List.foldlM_cons] at fails
        rcases or_of_bind_eq_error fails with first | ⟨next, isNext, fails⟩
        · exact ⟨[], item, rest, start, rfl, rfl, first⟩
        · obtain ⟨earlier, last, later, reached, rfl, reaches, stops⟩ :=
            inductionHypothesis fails
          refine ⟨item :: earlier, last, later, reached, rfl, ?_, stops⟩
          rw [List.foldlM_cons, isNext]
          exact reaches
  · rintro ⟨earlier, item, later, reached, rfl, reaches, stops⟩
    rw [List.foldlM_append, reaches]
    change (step reached item >>= _) = _
    rw [stops]
    rfl

namespace Store

open Storage

/-! ## Messages in a row -/

namespace Account

/-- A readable message that is handed in is there afterwards, and so is what was
there before. -/
theorem contains_change_filed
    {account : Account}
    {filed : Filed}
    (readable : filed.message.body.IsReadable)
    {id : String} :
    (account.change filed.change).messages.contains id = true ↔
      id = filed.message.id ∨ account.messages.contains id = true := by
  cases found : account.messages.get? filed.message.id with
  | some taken =>
      rw [Filed.change, change, addMessage_of_taken found]
      refine (or_iff_right_of_imp ?_).symm
      rintro rfl
      exact IdMap.contains_iff.mpr ⟨taken, found⟩
  | none =>
      rw [messages_change_filed found readable]
      simp only [IdMap.contains_iff, IdMap.get?_insert]
      by_cases same : id = filed.message.id <;> simp [same]

/-- All readable messages that are handed in are there afterwards. -/
theorem contains_foldl_filed
    {account : Account}
    {filed : List Filed}
    (readable : ∀ one ∈ filed, one.message.body.IsReadable)
    {id : String} :
    ((filed.map Filed.change).foldl change account).messages.contains
        id = true ↔
      (id ∈ filed.map fun one => one.message.id) ∨
        account.messages.contains id = true := by
  induction filed generalizing account with
  | nil => simp
  | cons one rest inductionHypothesis =>
      obtain ⟨first, others⟩ := List.forall_mem_cons.mp readable
      rw [List.map_cons, List.foldl_cons, inductionHypothesis others,
        contains_change_filed first, List.map_cons, List.mem_cons]
      tauto

end Account

namespace SnapshotFile

variable {file : SnapshotFile}

theorem rawMessage_eq_ok_iff
    {path : String}
    {content : Mime.Document} :
    file.rawMessage path = .ok content ↔
      ∃ bytes, file.bytes path = .ok bytes ∧
        Mime.Document.ofBytes? bytes = some (some content) := by
  unfold rawMessage
  cases file.bytes path with
  | error cause => exact ⟨nofun, nofun⟩
  | ok bytes =>
      simp only [Except.ok.injEq, exists_eq_left']
      dsimp only [Except.mapError, bind, Except.bind]
      rcases Mime.Document.ofBytes? bytes with _ | _ | found
      · exact ⟨nofun, nofun⟩
      · exact ⟨nofun, nofun⟩
      · change Except.ok found = .ok content ↔
            some (some found) = some (some content)
        rw [Except.ok.injEq, Option.some.injEq, Option.some.injEq]

/-- A content stands in the snapshot, or in the file that is named there. -/
theorem content_eq_ok_iff
    {message : DescribedMessage}
    {content : Mime.Document} :
    file.content message = .ok content ↔
      message.file = none ∧ message.content = content ∨
        ∃ name, message.file = some name ∧ file.rawMessage (file.rawPath name) =
          .ok content := by
  unfold SnapshotFile.content
  cases message.file <;> simp

/-- A message is filed if its content is there and can be shown as text. -/
theorem filed_eq_ok_iff
    {message : DescribedMessage}
    {filed : Filed} :
    file.filed message = .ok filed ↔
      ∃ content, file.content message = .ok content ∧ content.body.IsReadable ∧
        message.filed content = filed := by
  rw [SnapshotFile.filed]
  cases file.content message with
  | error stop =>
      constructor
      · intro isFiled
        cases isFiled
      · rintro ⟨content, isContent, -⟩
        cases isContent
  | ok content =>
      simp only [Except.ok.injEq, exists_eq_left']
      exact Outcome.ite_eq_ok_iff

theorem id_of_filed
    {message : DescribedMessage}
    {filed : Filed}
    (isFiled : file.filed message = .ok filed) :
    filed.message.id = message.id := by
  obtain ⟨content, -, -, rfl⟩ := filed_eq_ok_iff.mp isFiled
  rfl

theorem readable_of_filed
    {message : DescribedMessage}
    {filed : Filed}
    (isFiled : file.filed message = .ok filed) :
    filed.message.body.IsReadable := by
  obtain ⟨content, -, readable, rfl⟩ := filed_eq_ok_iff.mp isFiled
  exact readable

theorem add_of_taken
    {account : Account}
    {message : DescribedMessage}
    (taken : account.messages.contains message.id = true) :
    file.add account message =
      .error (.failed
        (.malformed file.path (.duplicateMessage message.id))) := by
  rw [add, if_pos taken]

theorem add_of_fresh
    {account : Account}
    {message : DescribedMessage}
    (fresh : account.messages.contains message.id = false) :
    file.add account message =
      (file.filed message).map fun filed => account.change filed.change := by
  rw [add, if_neg (Bool.eq_false_iff.mp fresh)]

theorem add_eq_ok_iff
    {account added : Account}
    {message : DescribedMessage} :
    file.add account message = .ok added ↔
      account.messages.contains message.id = false ∧
        ∃ filed, file.filed message = .ok filed ∧
          account.change filed.change = added := by
  cases known : account.messages.contains message.id with
  | true => simp [add_of_taken known]
  | false => rw [add_of_fresh known, Outcome.map_eq_ok_iff, and_iff_right rfl]

theorem ids_of_filed
    {messages : List DescribedMessage}
    {filed : List Filed}
    (isFiled : messages.mapM file.filed = .ok filed) :
    (filed.map fun one => one.message.id) =
      messages.map DescribedMessage.id := by
  have related := Outcome.mapM_eq_ok_iff.mp isFiled
  clear isFiled
  induction related with
  | nil => rfl
  | cons first _ inductionHypothesis =>
      rw [List.map_cons, List.map_cons, inductionHypothesis, id_of_filed first]

theorem readable_of_mapM_filed
    {messages : List DescribedMessage}
    {filed : List Filed}
    (isFiled : messages.mapM file.filed = .ok filed) :
    ∀ one ∈ filed, one.message.body.IsReadable := by
  intro one isOne
  obtain ⟨message, -, isFiled⟩ := (Outcome.mem_results_iff isFiled).mp isOne
  exact readable_of_filed isFiled

/-- The content of a described message is there and can be shown as text. -/
def HasContent (file : SnapshotFile) (message : DescribedMessage) : Prop :=
  ∃ content, file.content message = .ok content ∧ content.body.IsReadable

theorem exists_filed_iff
    {message : DescribedMessage} :
    (∃ filed, file.filed message = .ok filed) ↔ file.HasContent message := by
  simp only [filed_eq_ok_iff, HasContent]
  exact ⟨fun ⟨_, content, isContent, readable, _⟩ =>
      ⟨content, isContent, readable⟩,
    fun ⟨content, isContent, readable⟩ =>
      ⟨_, content, isContent, readable, rfl⟩⟩

theorem exists_filed_of_contents
    {messages : List DescribedMessage}
    (contents : ∀ message ∈ messages, file.HasContent message) :
    ∃ filed, messages.mapM file.filed = .ok filed :=
  Outcome.exists_mapM_eq_ok fun message isMessage =>
    exists_filed_iff.mpr (contents message isMessage)

/-- Messages can be added if their identifiers are new and different and all can
be filed. -/
theorem foldlM_add_eq_ok_iff
    {messages : List DescribedMessage}
    {account loaded : Account} :
    messages.foldlM file.add account = .ok loaded ↔
      (∀ message ∈ messages, account.messages.contains message.id = false) ∧
        (messages.map DescribedMessage.id).Nodup ∧
          ∃ filed, messages.mapM file.filed = .ok filed ∧
            (filed.map Filed.change).foldl Account.change account = loaded := by
  -- The account to which the rest is added holds the first message as well.
  induction messages generalizing account with
  | nil =>
      constructor
      · intro ended
        cases ended
        exact ⟨fun _ => nofun, List.nodup_nil, [], rfl, rfl⟩
      · rintro ⟨-, -, filed, isFiled, rfl⟩
        cases isFiled
        rfl
  | cons message rest inductionHypothesis =>
      rw [List.foldlM_cons, List.map_cons, List.nodup_cons,
        List.forall_mem_cons]
      constructor
      · intro ended
        obtain ⟨added, isAdded, ended⟩ := Outcome.exists_of_bind_eq_ok ended
        obtain ⟨fresh, first, isFirst, rfl⟩ := add_eq_ok_iff.mp isAdded
        obtain ⟨restFresh, distinct, others, areOthers, rfl⟩ :=
          inductionHypothesis.mp ended
        have apart : ∀ other ∈ rest,
            other.id ≠ message.id ∧ account.messages.contains other.id =
              false := by
          intro other isOther
          have unknown := restFresh other isOther
          rw [← Bool.not_eq_true,
            Account.contains_change_filed (readable_of_filed isFirst), not_or,
            id_of_filed isFirst, Bool.not_eq_true] at unknown
          exact unknown
        refine ⟨⟨fresh, fun other isOther => (apart other isOther).2⟩,
          ⟨?_, distinct⟩, first :: others,
          Outcome.mapM_cons_eq_ok_iff.mpr
            ⟨first, others, isFirst, areOthers, rfl⟩,
          rfl⟩
        intro repeated
        obtain ⟨other, isOther, same⟩ := List.mem_map.mp repeated
        exact (apart other isOther).1 same
      · rintro ⟨⟨fresh, restFresh⟩, ⟨apart, distinct⟩, filed, isFiled, rfl⟩
        obtain ⟨first, others, isFirst, areOthers, rfl⟩ :=
          Outcome.mapM_cons_eq_ok_iff.mp isFiled
        have isAdded : file.add account message =
            .ok (account.change first.change) :=
          add_eq_ok_iff.mpr ⟨fresh, first, isFirst, rfl⟩
        rw [isAdded]
        refine inductionHypothesis.mpr
          ⟨fun other isOther => ?_, distinct, others, areOthers, rfl⟩
        rw [← Bool.not_eq_true,
          Account.contains_change_filed (readable_of_filed isFirst), not_or,
          id_of_filed isFirst, Bool.not_eq_true]
        refine ⟨fun same => apart ?_, restFresh other isOther⟩
        rw [← same]
        exact List.mem_map_of_mem isOther

end SnapshotFile

/-! ## The history of a loaded account -/

namespace Snapshot

/-- What an account is asked for: the mailboxes of a snapshot, and then some
messages. -/
def history (snapshot : Snapshot) (filed : List Filed) : History :=
  snapshot.mailboxes.map .addMailbox ++ filed.map Filed.change

variable (snapshot : Snapshot)

theorem withoutMessages_eq :
    snapshot.withoutMessages =
      Account.ofHistory snapshot.principal
        (snapshot.mailboxes.map .addMailbox) := by
  rw [Account.ofHistory, List.foldl_map]
  rfl

theorem ofHistory_history
    (filed : List Filed) :
    Account.ofHistory snapshot.principal (snapshot.history filed) =
      (filed.map Filed.change).foldl Account.change
        snapshot.withoutMessages := by
  rw [history, Account.ofHistory, List.foldl_append, withoutMessages_eq]
  rfl

theorem filed?_history
    {filed : List Filed}
    (readable : ∀ one ∈ filed, one.message.body.IsReadable)
    (id : String) :
    (snapshot.history filed).filed? id = filed.find? fun one =>
      one.message.id == id := by
  have noMessage :
      (snapshot.mailboxes.map Change.addMailbox).findSome? (Change.filed? id) =
      none := by
    rw [List.findSome?_eq_none_iff]
    intro change isAdded
    obtain ⟨mailbox, -, rfl⟩ := List.mem_map.mp isAdded
    rfl
  rw [history, History.filed?, List.findSome?_append, noMessage, Option.none_or,
    List.findSome?_map, ← List.findSome?_guard]
  clear noMessage
  induction filed with
  | nil => rfl
  | cons one rest inductionHypothesis =>
      obtain ⟨first, others⟩ := List.forall_mem_cons.mp readable
      have same : Change.filed? id one.change =
          Option.guard (fun one => one.message.id == id) one := by
        simp only [Change.filed?, Filed.change, Option.guard, beq_iff_eq,
          and_iff_left first]
      rw [List.findSome?_cons, List.findSome?_cons, inductionHypothesis others,
        Function.comp_apply, same]

/-- Under an identifier stands the message that has it, if no two messages have
the same. -/
theorem filed?_history_eq_some_iff
    {filed : List Filed}
    (readable : ∀ one ∈ filed, one.message.body.IsReadable)
    (distinct : (filed.map fun one => one.message.id).Nodup)
    {id : String}
    {one : Filed} :
    (snapshot.history filed).filed? id = some one ↔ one ∈ filed ∧
      one.message.id = id := by
  rw [snapshot.filed?_history readable]
  constructor
  · intro found
    exact ⟨List.mem_of_find?_eq_some found,
      by simpa using List.find?_some found⟩
  · rintro ⟨isOne, rfl⟩
    obtain ⟨other, found⟩ : ∃ other,
        (filed.find? fun each => each.message.id == one.message.id) =
          some other :=
      Option.isSome_iff_exists.mp (List.find?_isSome.mpr ⟨one, isOne,
        beq_self_eq_true _⟩)
    have same : other.message.id = one.message.id := by
      simpa using List.find?_some found
    rw [found,
      List.inj_on_of_nodup_map distinct (List.mem_of_find?_eq_some found)
      isOne same]

theorem contains_withoutMessages
    (id : String) :
    snapshot.withoutMessages.messages.contains id = false := by
  have records :=
    Account.records_ofHistory snapshot.principal (snapshot.history [])
  rw [ofHistory_history] at records
  refine IdMap.contains_eq_false_iff.mpr ?_
  rw [List.map_nil, List.foldl_nil] at records
  rw [records.get?_messages, snapshot.filed?_history (List.forall_mem_nil _)]
  rfl

/-- Of the mailboxes with an identifier the last one counts. -/
theorem mailbox?_history_eq_some_iff
    {filed : List Filed}
    {mailbox : Mailbox} :
    (snapshot.history filed).mailbox? mailbox.id = some mailbox ↔
      ∃ before after, snapshot.mailboxes = before ++ mailbox :: after ∧
        ∀ other ∈ after, other.id ≠ mailbox.id := by
  have noMailbox :
      (filed.map Filed.change).reverse.findSome? (Change.mailbox? mailbox.id) =
      none := by
    rw [List.findSome?_eq_none_iff]
    intro change isHandedIn
    obtain ⟨one, -, rfl⟩ := List.mem_map.mp (List.mem_reverse.mp isHandedIn)
    rfl
  have each : Change.mailbox? mailbox.id ∘ Change.addMailbox =
      Option.guard fun other => other.id == mailbox.id := by
    funext other
    simp only [Function.comp_apply, Change.mailbox?, Option.guard, beq_iff_eq]
  rw [history, History.mailbox?, List.reverse_append, List.findSome?_append,
    noMailbox, Option.none_or, ← List.map_reverse, List.findSome?_map, each,
    List.findSome?_guard,
    List.find?_eq_some_iff_append]
  simp only [beq_self_eq_true, true_and, Bool.not_eq_true', beq_eq_false_iff_ne]
  constructor
  · rintro ⟨later, earlier, parted, others⟩
    refine ⟨earlier.reverse, later.reverse, ?_, fun other isLater =>
      others other (List.mem_reverse.mp isLater)⟩
    rw [← List.reverse_reverse snapshot.mailboxes, parted]
    simp
  · rintro ⟨before, after, parted, others⟩
    refine ⟨after.reverse, before.reverse, ?_, fun other isLater =>
      others other (List.mem_reverse.mp isLater)⟩
    rw [parted]
    simp

end Snapshot

namespace SnapshotFile

variable {file : SnapshotFile}

/--
An account is loaded if the snapshot is there, its messages have different
identifiers, and all can be filed.
-/
theorem load_eq_ok_iff
    {account : Account} :
    file.load = .ok account ↔
      ∃ snapshot, file.snapshot = .ok snapshot ∧
        (snapshot.messages.map DescribedMessage.id).Nodup ∧
          ∃ filed, snapshot.messages.mapM file.filed = .ok filed ∧
            Account.ofHistory snapshot.principal (snapshot.history filed) =
              account := by
  rw [load_eq]
  constructor
  · intro loads
    obtain ⟨snapshot, isSnapshot, loads⟩ := Outcome.exists_of_bind_eq_ok loads
    obtain ⟨-, distinct, filed, isFiled, rfl⟩ := foldlM_add_eq_ok_iff.mp loads
    exact ⟨snapshot, isSnapshot, distinct, filed, isFiled,
      snapshot.ofHistory_history filed⟩
  · rintro ⟨snapshot, isSnapshot, distinct, filed, isFiled, rfl⟩
    rw [isSnapshot, snapshot.ofHistory_history]
    exact foldlM_add_eq_ok_iff.mpr
      ⟨fun message _ => snapshot.contains_withoutMessages message.id,
        distinct, filed, isFiled, rfl⟩

/-- A loaded account lists only messages whose bodies can be shown as text. -/
theorem isReadable_of_load
    {account : Account}
    (loads : file.load = .ok account)
    (settings : Query.Settings) :
    (account.engine settings).IsReadable := by
  obtain ⟨snapshot, -, -, filed, -, rfl⟩ := load_eq_ok_iff.mp loads
  exact (Account.records_ofHistory _ _).isReadable_engine settings

/-- A snapshot is loaded if its messages have different identifiers and
contents. -/
theorem exists_load
    {snapshot : Snapshot}
    (isSnapshot : file.snapshot = .ok snapshot)
    (distinct : (snapshot.messages.map DescribedMessage.id).Nodup)
    (contents : ∀ message ∈ snapshot.messages, file.HasContent message) :
    ∃ account, file.load = .ok account := by
  obtain ⟨filed, isFiled⟩ := exists_filed_of_contents contents
  exact ⟨_, load_eq_ok_iff.mpr ⟨snapshot, isSnapshot, distinct, filed,
    isFiled, rfl⟩⟩

/-! ## Where the loading stops -/

/--
A message is the first one that cannot be added: those in front of it have
different identifiers and contents, and it repeats an identifier or cannot be
filed.
-/
structure StopsAt (file : SnapshotFile) (earlier : List DescribedMessage)
    (entry : DescribedMessage) (stop : Stop Query.Error) : Prop where
  /-- The messages in front of it have different identifiers. -/
  distinct : (earlier.map DescribedMessage.id).Nodup
  /-- The messages in front of it can be filed. -/
  contents : ∀ other ∈ earlier, file.HasContent other
  /-- The message itself cannot be added. -/
  reason : entry.id ∈ earlier.map DescribedMessage.id ∧
      stop = .failed (.malformed file.path (.duplicateMessage entry.id)) ∨
    entry.id ∉ earlier.map DescribedMessage.id ∧ file.filed entry = .error stop

/-- When some messages were added to the mailboxes, their identifiers are taken,
and no others. -/
theorem contains_foldl_withoutMessages_iff
    (snapshot : Snapshot)
    {messages : List DescribedMessage}
    {filed : List Filed}
    (isFiled : messages.mapM file.filed = .ok filed)
    {id : String} :
    ((filed.map Filed.change).foldl Account.change
        snapshot.withoutMessages).messages.contains id =
        true ↔
      id ∈ messages.map DescribedMessage.id := by
  rw [Account.contains_foldl_filed (readable_of_mapM_filed isFiled),
    ids_of_filed isFiled, snapshot.contains_withoutMessages]
  exact or_iff_left Bool.false_ne_true

/-- The messages of a snapshot are added up to the first one that cannot be. -/
theorem foldlM_add_withoutMessages_eq_error_iff
    {snapshot : Snapshot}
    {messages : List DescribedMessage}
    {stop : Stop Query.Error} :
    messages.foldlM file.add snapshot.withoutMessages = .error stop ↔
      ∃ earlier entry later, messages = earlier ++ entry :: later ∧
        file.StopsAt earlier entry stop := by
  rw [Outcome.foldlM_eq_error_iff]
  refine exists_congr fun earlier => exists_congr fun entry =>
    exists_congr fun later => ?_
  rw [exists_and_left]
  refine and_congr_right fun _ => ?_
  constructor
  · rintro ⟨reached, reaches, stops⟩
    obtain ⟨-, distinct, filed, isFiled, rfl⟩ := foldlM_add_eq_ok_iff.mp reaches
    refine ⟨distinct, fun other isOther =>
      exists_filed_iff.mp (Outcome.exists_of_mapM_eq_ok isFiled other isOther),
        ?_⟩
    by_cases repeated : entry.id ∈ earlier.map DescribedMessage.id
    · rw [add_of_taken
        ((contains_foldl_withoutMessages_iff snapshot isFiled).mpr repeated)]
        at stops
      cases stops
      exact .inl ⟨repeated, rfl⟩
    · have fresh := Bool.eq_false_iff.mpr
        (mt (contains_foldl_withoutMessages_iff snapshot isFiled).mp repeated)
      rw [add_of_fresh fresh, Outcome.map_eq_error_iff] at stops
      exact .inr ⟨repeated, stops⟩
  · rintro ⟨distinct, contents, reason⟩
    obtain ⟨filed, isFiled⟩ := exists_filed_of_contents contents
    refine ⟨_, foldlM_add_eq_ok_iff.mpr ⟨fun message _ =>
      snapshot.contains_withoutMessages message.id, distinct, filed,
        isFiled, rfl⟩, ?_⟩
    rcases reason with ⟨repeated, rfl⟩ | ⟨unlike, fails⟩
    · exact add_of_taken
        ((contains_foldl_withoutMessages_iff snapshot isFiled).mpr repeated)
    · have fresh := Bool.eq_false_iff.mpr
        (mt (contains_foldl_withoutMessages_iff snapshot isFiled).mp unlike)
      rw [add_of_fresh fresh, fails]
      rfl

/-- Loading stops because the snapshot cannot be read, or at the first message
that it cannot add. -/
theorem load_eq_error_iff
    {stop : Stop Query.Error} :
    file.load = .error stop ↔
      file.snapshot = .error stop ∨
        ∃ snapshot, file.snapshot = .ok snapshot ∧
          ∃ earlier entry later, snapshot.messages = earlier ++ entry :: later ∧
            file.StopsAt earlier entry stop := by
  rw [load_eq]
  constructor
  · intro stops
    refine (Outcome.or_of_bind_eq_error stops).imp_right ?_
    rintro ⟨snapshot, isSnapshot, stops⟩
    exact ⟨snapshot, isSnapshot,
      foldlM_add_withoutMessages_eq_error_iff.mp stops⟩
  · rintro (stops | ⟨snapshot, isSnapshot, stops⟩)
    · rw [stops]
      rfl
    · rw [isSnapshot]
      exact foldlM_add_withoutMessages_eq_error_iff.mpr stops

theorem id_notMem_of_nodup
    {earlier later : List DescribedMessage}
    {entry : DescribedMessage}
    (distinct : ((earlier ++ entry :: later).map DescribedMessage.id).Nodup) :
    entry.id ∉ earlier.map DescribedMessage.id := by
  rw [List.map_append, List.map_cons, List.nodup_middle] at distinct
  exact fun repeated =>
    (List.nodup_cons.mp distinct).1 (List.mem_append_left _ repeated)

/-- If the items in front of one are not repeated and another repeats one, it is
not behind it. -/
theorem inFront_or_eq_of_parted
    {front back earlier later : List DescribedMessage}
    {first entry : DescribedMessage}
    (same : front ++ first :: back = earlier ++ entry :: later)
    (distinct : (front.map DescribedMessage.id).Nodup)
    (repeated : entry.id ∈ earlier.map DescribedMessage.id) :
    (∃ between, earlier = front ++ first :: between) ∨ front = earlier ∧
      first = entry := by
  rcases List.append_eq_append_iff.mp same with
    ⟨_ | ⟨other, between⟩, inFront, behind⟩ | ⟨_ | ⟨other, between⟩,
      inFront, behind⟩
  · cases behind
    exact .inr ⟨by simpa using inFront.symm, rfl⟩
  · cases behind
    exact .inl ⟨between, inFront⟩
  · cases behind
    exact .inr ⟨by simpa using inFront, rfl⟩
  · cases behind
    rw [inFront] at distinct
    exact absurd repeated (id_notMem_of_nodup distinct)

/-- A repeated identifier ends the loading if the messages in front of it have
contents. -/
theorem load_of_repeated
    {snapshot : Snapshot}
    (isSnapshot : file.snapshot = .ok snapshot)
    {earlier later : List DescribedMessage}
    {entry : DescribedMessage}
    (parted : snapshot.messages = earlier ++ entry :: later)
    (repeated : entry.id ∈ earlier.map DescribedMessage.id)
    (contents : ∀ message ∈ earlier, file.HasContent message) :
    ∃ id, file.load =
        .error (.failed (.malformed file.path (.duplicateMessage id))) ∧
      ((earlier.map DescribedMessage.id).Nodup → id = entry.id) := by
  cases loads : file.load with
  | ok account =>
      obtain ⟨found, isFound, distinct, -⟩ := load_eq_ok_iff.mp loads
      cases isSnapshot.symm.trans isFound
      rw [parted] at distinct
      exact absurd repeated (id_notMem_of_nodup distinct)
  | error stop =>
      rcases load_eq_error_iff.mp loads with
        unreadable | ⟨found, isFound, front, first, back, partedThere, stops⟩
      · cases isSnapshot.symm.trans unreadable
      · cases isSnapshot.symm.trans isFound
        -- Loading stops at this message, or in front of it at another one that
        -- has a content.
        rcases inFront_or_eq_of_parted (partedThere.symm.trans parted)
            stops.distinct repeated with
          ⟨between, rfl⟩ | ⟨rfl, rfl⟩
        · rcases stops.reason with ⟨repeatedThere, rfl⟩ | ⟨-, fails⟩
          · exact ⟨first.id, rfl, fun distinct =>
              absurd repeatedThere (id_notMem_of_nodup distinct)⟩
          · obtain ⟨filed, isFiled⟩ := exists_filed_iff.mpr
              (contents first (List.mem_append_right _ List.mem_cons_self))
            cases fails.symm.trans isFiled
        · rcases stops.reason with ⟨-, rfl⟩ | ⟨unlike, -⟩
          · exact ⟨first.id, rfl, fun _ => rfl⟩
          · exact absurd repeated unlike

/-- The program breaks down over HTML of a message, in its file or when it is
shown as text. -/
def BreaksDownOver (file : SnapshotFile) (message : DescribedMessage) : Prop :=
  (∃ name bytes, message.file = some name ∧
    file.bytes (file.rawPath name) = .ok bytes ∧
    Mime.Document.ofBytes? bytes = some none) ∨
  ∃ content, file.content message = .ok content ∧ ¬ content.body.IsReadable

theorem rawMessage_eq_brokenDown_iff
    {path : String} :
    file.rawMessage path = .error .brokenDown ↔
      ∃ bytes, file.bytes path = .ok bytes ∧
        Mime.Document.ofBytes? bytes = some none := by
  unfold rawMessage
  cases file.bytes path with
  | error cause => exact ⟨nofun, nofun⟩
  | ok bytes =>
      simp only [Except.ok.injEq, exists_eq_left']
      dsimp only [Except.mapError, bind, Except.bind]
      rcases Mime.Document.ofBytes? bytes with _ | _ | found
      · exact ⟨nofun, nofun⟩
      · exact iff_of_true rfl rfl
      · exact ⟨nofun, nofun⟩

theorem content_eq_brokenDown_iff
    {message : DescribedMessage} :
    file.content message = .error .brokenDown ↔
      ∃ name bytes, message.file = some name ∧
        file.bytes (file.rawPath name) = .ok bytes ∧
        Mime.Document.ofBytes? bytes = some none := by
  unfold SnapshotFile.content
  cases message.file with
  | none => simp
  | some name => simp [rawMessage_eq_brokenDown_iff]

theorem filed_eq_brokenDown_iff
    {message : DescribedMessage} :
    file.filed message = .error .brokenDown ↔ file.BreaksDownOver message := by
  rw [BreaksDownOver, ← content_eq_brokenDown_iff, SnapshotFile.filed]
  cases file.content message with
  | error stop =>
      change Except.error stop = Except.error Stop.brokenDown ↔ _
      simp
  | ok content =>
      dsimp only [bind, Except.bind]
      by_cases readable : content.body.IsReadable
      · rw [if_pos readable]
        simp [readable, pure, Except.pure]
      · rw [if_neg readable]
        simp [readable, throw, throwThe, MonadExceptOf.throw]

theorem snapshot_ne_brokenDown :
    file.snapshot ≠ .error .brokenDown := by
  intro stops
  rcases Outcome.or_of_bind_eq_error stops
    with unreadable | ⟨text, -, malformed⟩
  · cases text : file.text file.path <;> simp [text, Except.mapError]
      at unreadable
  · cases decoded : Snapshot.ofChars text <;> simp [decoded, Except.mapError]
      at malformed

/--
The program breaks down over a snapshot if it does over one of the messages, and
those in front of it have contents, and the identifiers up to there are
different.
-/
theorem load_eq_brokenDown_iff :
    file.load = .error .brokenDown ↔
      ∃ snapshot, file.snapshot = .ok snapshot ∧
        ∃ earlier entry later, snapshot.messages = earlier ++ entry :: later ∧
          ((earlier ++ [entry]).map DescribedMessage.id).Nodup ∧
          (∀ other ∈ earlier, file.HasContent other) ∧
            file.BreaksDownOver entry := by
  rw [load_eq_error_iff, or_iff_right snapshot_ne_brokenDown]
  refine exists_congr fun snapshot => and_congr_right fun _ =>
      exists_congr fun earlier =>
    exists_congr fun entry => exists_congr fun later =>
      and_congr_right fun _ => ?_
  rw [List.map_append, List.map_singleton, List.nodup_append_comm,
    List.singleton_append, List.nodup_cons, ← filed_eq_brokenDown_iff]
  constructor
  · rintro ⟨distinct, contents, ⟨-, absurd⟩ | ⟨unlike, breaksDown⟩⟩
    · cases absurd
    · exact ⟨⟨unlike, distinct⟩, contents, breaksDown⟩
  · rintro ⟨⟨unlike, distinct⟩, contents, breaksDown⟩
    exact ⟨distinct, contents, .inr ⟨unlike, breaksDown⟩⟩

/-- Under an identifier stands the message that has it, with its content. -/
theorem filed?_eq_some_iff
    {snapshot : Snapshot}
    (distinct : (snapshot.messages.map DescribedMessage.id).Nodup)
    {filed : List Filed}
    (isFiled : snapshot.messages.mapM file.filed = .ok filed)
    {id : String}
    {one : Filed} :
    (snapshot.history filed).filed? id = some one ↔
      ∃ message ∈ snapshot.messages, message.id = id ∧
        file.filed message = .ok one := by
  have distinctFiled : (filed.map fun one => one.message.id).Nodup :=
    ids_of_filed isFiled ▸ distinct
  rw [snapshot.filed?_history_eq_some_iff (readable_of_mapM_filed isFiled)
      distinctFiled,
    Outcome.mem_results_iff isFiled]
  constructor
  · rintro ⟨⟨message, isMessage, isOne⟩, rfl⟩
    exact ⟨message, isMessage, (id_of_filed isOne).symm, isOne⟩
  · rintro ⟨message, isMessage, rfl, isOne⟩
    exact ⟨⟨message, isMessage, isOne⟩, id_of_filed isOne⟩

end SnapshotFile
end Store
end MailSearch
