import Mathlib.Algebra.GroupWithZero.Nat
import Mathlib.Algebra.Order.BigOperators.Group.List
import Mathlib.Algebra.Order.Group.Nat
import MailSearch.Proofs.Query.Conditions
import MailSearch.Proofs.Store.Snapshot
import MailSearch.Query.SortOrder

/-!
# Sizes of described messages

A message of which the snapshot gives neither a file nor a size counts for the
bytes of its header fields and bodies and for its attached parts, whose sizes
are whatever the snapshot says.  The sum is taken within 64 bits.  Below that
limit the size of the stored message is the sum, and filters and sorting go by
it; from there on the size is less than the sum, and may be less than that of an
attached part.
-/

namespace MailSearch
namespace Store

open Query (Answers Candidate Predicate SortField answers_single)

section Bounds

variable {number : Nat} (fits : number < 2 ^ 64) (index : Predicate.Index)
  (limit : Nat) (candidate : Candidate)

include fits

theorem answers_minSize :
    Answers index limit candidate (.obj [("minSize", .nat number)])
      (number < candidate.message.size) := by
  have answers : Answers index limit candidate (.obj [("minSize", .nat number)])
      ((Predicate.largerThan number).holds candidate) :=
    answers_single rfl (.size fits) rfl rfl index limit candidate
  exact answers

theorem answers_maxSize :
    Answers index limit candidate (.obj [("maxSize", .nat number)])
      (candidate.message.size < number) := by
  have answers : Answers index limit candidate (.obj [("maxSize", .nat number)])
      ((Predicate.smallerThan number).holds candidate) :=
    answers_single rfl (.size fits) rfl rfl index limit candidate
  exact answers

end Bounds

namespace DescribedMessage

/-- The number of bytes that the content of a message counts for. -/
def byteCount (entry : DescribedMessage) : Nat :=
  (entry.fields.map fieldSize).sum + textSize entry.textBody +
    textSize entry.htmlBody +
    (entry.attachments.map fun part => part.attachment.size).sum

variable {entry : DescribedMessage}

theorem contentSize_eq
    (entry : DescribedMessage) :
    entry.contentSize = entry.byteCount % 2 ^ 64 := by
  rw [contentSize, byteCount, List.sum_eq_foldl_nat, List.sum_eq_foldl_nat]
  rfl

/-- An attached part is not larger than the message that it belongs to. -/
theorem size_le_byteCount
    {part : DescribedAttachment}
    (isPart : part ∈ entry.attachments) :
    part.attachment.size ≤ entry.byteCount := by
  have atMost : part.attachment.size ≤
      (entry.attachments.map fun part => part.attachment.size).sum :=
    List.le_sum_of_mem (List.mem_map.mpr ⟨part, isPart, rfl⟩)
  exact atMost.trans (Nat.le_add_left _ _)

/-- The content of a message stands in the snapshot, and its size has to be
found. -/
structure IsUnsized (entry : DescribedMessage) : Prop where
  /-- The content is not in a file of its own. -/
  inline : entry.file = none
  /-- No size is given. -/
  unsized : entry.size = none

/-- The size of a message is that of its content, and conditions on sizes go by
it. -/
structure MeasuredBy (entry : DescribedMessage) (message : Message) : Prop where
  /-- The size is the number of bytes of the content. -/
  size_eq : message.size = entry.byteCount
  /-- No attached part is larger. -/
  attachment_le : ∀ attachment ∈ message.attachments,
    attachment.size ≤ message.size
  /-- The condition for larger messages compares the number of bytes with its
  bound. -/
  larger : ∀ {number}, number < 2 ^ 64 → ∀ index limit mailboxes,
    Answers index limit ⟨message, mailboxes⟩ (.obj [("minSize", .nat number)])
      (number < entry.byteCount)
  /-- So does the condition for smaller messages. -/
  smaller : ∀ {number}, number < 2 ^ 64 → ∀ index limit mailboxes,
    Answers index limit ⟨message, mailboxes⟩ (.obj [("maxSize", .nat number)])
      (entry.byteCount < number)

theorem measuredBy_of_size
    {message : Message}
    (attachments : message.attachments =
      entry.attachments.map DescribedAttachment.attachment)
    (size : message.size = entry.byteCount) :
    entry.MeasuredBy message where
  size_eq := size
  attachment_le := by
    rw [attachments, size]
    intro attachment isAttachment
    obtain ⟨part, isPart, rfl⟩ := List.mem_map.mp isAttachment
    exact size_le_byteCount isPart
  larger := by
    intro number fits index limit mailboxes
    rw [← size]
    exact answers_minSize fits index limit ⟨message, mailboxes⟩
  smaller := by
    intro number fits index limit mailboxes
    rw [← size]
    exact answers_maxSize fits index limit ⟨message, mailboxes⟩

/-- The size of a message is the number of bytes of its content as far as 64
bits go. -/
structure Weighs (entry : DescribedMessage) (message : Message) : Prop where
  /-- The size is the remainder of the number of bytes. -/
  size_eq : message.size = entry.byteCount % 2 ^ 64
  /-- Within 64 bits it is the number of bytes. -/
  measured : entry.byteCount < 2 ^ 64 → entry.MeasuredBy message
  /-- Beyond it is less. -/
  less : 2 ^ 64 ≤ entry.byteCount → message.size < entry.byteCount

theorem weighs_withContent
    (unsized : entry.size = none) :
    entry.Weighs (entry.withContent entry.content) := by
  have size : (entry.withContent entry.content).size = entry.byteCount %
      2 ^ 64 := by
    rw [← contentSize_eq, withContent, unsized]
    rfl
  refine ⟨size, fun fits => measuredBy_of_size rfl ?_, fun exceeds => ?_⟩
  · rw [size, Nat.mod_eq_of_lt fits]
  · rw [size]
    exact (Nat.mod_lt _ (Nat.two_pow_pos 64)).trans_le exceeds

end DescribedMessage

/-- The messages of an account have the sizes that a snapshot leaves to be
found. -/
structure Account.WeighsAll (account : Account) (snapshot : Snapshot) :
    Prop where
  /-- Every message whose size has to be found is there, with its size. -/
  weighs : ∀ entry ∈ snapshot.messages, entry.IsUnsized →
    ∃ message, account.message? entry.id = some message ∧ entry.Weighs message
  /-- Sorting compares such messages by their numbers of bytes if 64 bits hold
  both. -/
  compares : ∀ entry ∈ snapshot.messages, entry.IsUnsized →
    entry.byteCount < 2 ^ 64 →
    ∀ other ∈ snapshot.messages, other.IsUnsized → other.byteCount < 2 ^ 64 →
      ∃ message otherMessage, account.message? entry.id = some message ∧
        account.message? other.id = some otherMessage ∧
          ∀ mailboxes otherMailboxes,
            SortField.size.compare ⟨message, mailboxes⟩
                ⟨otherMessage, otherMailboxes⟩ =
              compare entry.byteCount other.byteCount

namespace SnapshotFile

variable {file : SnapshotFile} {account : Account}

theorem message?_of_inline
    {snapshot : Snapshot}
    (represents : account.Represents file snapshot)
    {entry : DescribedMessage}
    (isEntry : entry ∈ snapshot.messages)
    (inline : entry.file = none) :
    account.message? entry.id = some (entry.withContent entry.content) := by
  obtain ⟨content, text, isContent, held, -⟩ := represents.holds entry isEntry
  have same : file.content entry = .ok entry.content :=
    content_eq_ok_iff.mpr (.inl ⟨inline, rfl⟩)
  rw [same] at isContent
  cases isContent
  exact held

/--
In a loaded account every message whose size the snapshot leaves to be found has
the number of bytes of its content as its size, as far as 64 bits hold it; below
that limit no attached part is larger than the message, and conditions on sizes
and sorting by size compare the true numbers.
-/
theorem found_sizes_are_sums
    (loads : file.load = .ok account) :
    ∃ snapshot, file.snapshot = .ok snapshot ∧ account.WeighsAll snapshot := by
  obtain ⟨snapshot, isSnapshot, represents⟩ := represents_of_load loads
  refine ⟨snapshot, isSnapshot, ⟨fun entry isEntry isUnsized => ?_, ?_⟩⟩
  · exact ⟨_, message?_of_inline represents isEntry isUnsized.inline,
      DescribedMessage.weighs_withContent isUnsized.unsized⟩
  · intro entry isEntry isUnsized fits other isOther otherUnsized otherFits
    refine ⟨_, _, message?_of_inline represents isEntry isUnsized.inline,
      message?_of_inline represents isOther otherUnsized.inline, fun _ _ => ?_⟩
    have measured :=
      (DescribedMessage.weighs_withContent isUnsized.unsized).measured fits
    have otherMeasured :=
      (DescribedMessage.weighs_withContent otherUnsized.unsized).measured
        otherFits
    rw [← measured.size_eq, ← otherMeasured.size_eq]
    rfl

/-! ## A sum beyond 64 bits -/

/-- A message with two attached parts whose sizes add up to more than 64 bits
hold. -/
def overweight : List Char :=
  "\x7b\"id\":\"m\",\"mailboxIds\":[\"i\"],".toList ++
    "\"receivedAt\":\"2024-01-01T00:00:00Z\",".toList ++
      "\"attachments\":[".toList ++
    "\x7b\"size\":18446744073709551615\x7d,".toList ++
      "\x7b\"size\":1\x7d]\x7d".toList

/-- The sizes of a message and of its attached parts. -/
def sizesOf (file : SnapshotFile) (id : String) : Option (Nat × List Nat) :=
  file.load.toOption.bind fun account =>
    (account.message? id).map fun message =>
      (message.size, message.attachments.map Attachment.size)

/--
The size of a message with a repeated header field, two bodies and two attached
parts is found: 33 bytes of header fields, 12 of bodies and 10 of attached
parts.
-/
theorem found_sizes_of_detailed :
    ∃ account snapshot entry,
      (inFolder (folderWithRaw detailed onDisk) "s.json").load = .ok account ∧
      (inFolder (folderWithRaw detailed onDisk) "s.json").snapshot =
        .ok snapshot ∧
      account.WeighsAll snapshot ∧
      entry ∈ snapshot.messages ∧ entry.IsUnsized ∧
      account.message? entry.id = some detailedMessage ∧
      detailedMessage.size = 55 ∧ entry.byteCount = 55 := by
  have isShown : (inFolder (folderWithRaw detailed onDisk) "s.json").shown
      (fun account => account.message? "m") = some (some detailedMessage) := by
    decide +kernel
  have described : ((inFolder (folderWithRaw detailed onDisk)
      "s.json").snapshot.toOption.map fun snapshot => snapshot.messages.map
        fun entry => (entry.id, entry.file, entry.size, entry.byteCount)) =
      some [("m", none, none, 55), ("n", some "n.eml", some 4242, 0)] := by
    decide +kernel
  obtain ⟨account, loads, isMessage⟩ := exists_load_of_shown isShown
  obtain ⟨snapshot, isSnapshot, weighs⟩ := found_sizes_are_sums loads
  rw [isSnapshot] at described
  obtain ⟨entry, isEntry, named⟩ :=
    List.mem_map.mp (Option.some.inj described ▸ List.mem_cons_self)
  simp only [Prod.mk.injEq] at named
  obtain ⟨isNamed, inline, unsized, count⟩ := named
  exact ⟨account, snapshot, entry, loads, isSnapshot, weighs, isEntry,
    ⟨inline, unsized⟩, isNamed ▸ isMessage, rfl, count⟩

/--
The two attached parts make a message of which each is larger, and a condition
for larger messages does not select it although it counts for more.
-/
theorem size_less_than_attachment :
    ∃ account snapshot entry message,
      (inFolder (folderOfPair overweight ordinary) "s.json").load =
        .ok account ∧
      (inFolder (folderOfPair overweight ordinary) "s.json").snapshot =
        .ok snapshot ∧
      entry ∈ snapshot.messages ∧ entry.IsUnsized ∧
      account.message? entry.id = some message ∧
      message.size ≠ entry.byteCount ∧
      (∀ attachment ∈ message.attachments, message.size < attachment.size) ∧
      1000 < entry.byteCount ∧
      ∀ index limit mailboxes,
        Answers index limit ⟨message, mailboxes⟩ (.obj [("minSize", .nat 1000)])
          false := by
  have sizes :
      sizesOf (inFolder (folderOfPair overweight ordinary) "s.json") "m" =
      some (0, [18446744073709551615, 1]) := by
    decide +kernel
  have described :
      ((inFolder (folderOfPair overweight ordinary)
          "s.json").snapshot.toOption.map fun snapshot =>
        snapshot.messages.map fun entry =>
          (entry.id, entry.file, entry.size)) =
        some [("m", none, none), ("n", none, none)] := by
    decide +kernel
  obtain ⟨account, loads, found⟩ := Option.bind_eq_some_iff.mp sizes
  obtain ⟨message, isMessage, measured⟩ := Option.map_eq_some_iff.mp found
  obtain ⟨snapshot, isSnapshot, listed⟩ := Option.map_eq_some_iff.mp described
  obtain ⟨entry, isEntry, named⟩ :=
    List.mem_map.mp (listed ▸ List.mem_cons_self)
  obtain ⟨isNamed, inline, unsized⟩ : entry.id = "m" ∧ entry.file = none ∧
      entry.size = none := by
    simpa using named
  obtain ⟨size, attached⟩ := Prod.mk.inj measured
  have loads := Outcome.eq_ok_of_toOption loads
  have isSnapshot := Outcome.eq_ok_of_toOption isSnapshot
  rw [← isNamed] at isMessage
  have large : 18446744073709551615 ≤ entry.byteCount := by
    obtain ⟨_, isSnapshot', represents⟩ := represents_of_load loads
    cases isSnapshot.symm.trans isSnapshot'
    have held := message?_of_inline represents isEntry inline
    rw [isMessage] at held
    cases held
    obtain ⟨attachment, isAttachment, isLarge⟩ :=
      List.mem_map.mp (attached ▸ List.mem_cons_self)
    obtain ⟨part, isPart, rfl⟩ := List.mem_map.mp isAttachment
    exact isLarge ▸ DescribedMessage.size_le_byteCount isPart
  have sizeBelow : ∀ attachment ∈ message.attachments,
      message.size < attachment.size := by
    intro attachment isAttachment
    have isSize : attachment.size ∈ [18446744073709551615, 1] :=
      attached ▸ List.mem_map_of_mem isAttachment
    simp only [List.mem_cons, List.not_mem_nil, or_false] at isSize
    omega
  refine ⟨account, snapshot, entry, message, loads, isSnapshot, isEntry,
    ⟨inline, unsized⟩,
    isMessage, by omega, sizeBelow, by omega, fun index limit mailboxes => ?_⟩
  have answers := answers_minSize (show 1000 < 2 ^ 64 by decide) index limit
    ⟨message, mailboxes⟩
  simpa [size] using answers

end SnapshotFile
end Store
end MailSearch
