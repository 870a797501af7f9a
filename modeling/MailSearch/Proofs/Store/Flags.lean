import MailSearch.Proofs.Query.Flags
import MailSearch.Proofs.Store.Snapshot

/-!
# Flags of stored messages

The keywords of a message that a snapshot describes are put at their places one
after the other, the first spelling of each being kept; those of a message in a
file of its own stand in the snapshot too.  So in a loaded account the keywords
of all messages ascend, and all tests for the state of a message agree.
-/

namespace MailSearch
namespace Store

namespace SnapshotFile

variable {file : SnapshotFile}

/--
The keywords of every message of a loaded account ascend, and its body can be
shown as text.
-/
theorem ascending_and_readable_of_load
    {account : Account}
    (loads : file.load = .ok account)
    {id : String}
    {message : Message}
    (isMessage : account.message? id = some message) :
    message.keywords.Ascending ∧ message.body.IsReadable := by
  obtain ⟨snapshot, isSnapshot, represents⟩ := represents_of_load loads
  obtain ⟨value, -, decoded⟩ := exists_readsAs_of_snapshot isSnapshot
  have isHeld : (account.message? id).isSome = true := by
    rw [isMessage]
    rfl
  obtain ⟨entry, isEntry, rfl⟩ :=
    List.mem_map.mp ((represents.isSome_message?_iff id).mp isHeld)
  obtain ⟨content, text, -, held, indexed, -⟩ := represents.holds entry isEntry
  rw [isMessage] at held
  cases held
  obtain ⟨item, describes⟩ :=
    (Snapshot.describedBy_of_decode decoded).exists_of_mem isEntry
  refine ⟨describes.ascending, ?_⟩
  have isIndexed : (Query.IndexedText.ofMessage (entry.withContent content)
      content.attachmentText).isSome = true := by
    rw [indexed]
    rfl
  rwa [Query.IndexedText.ofMessage, Option.isSome_map,
    Query.IndexedText.isSome_bodyOf_iff] at isIndexed

end SnapshotFile

open Query in
/--
A set of named keywords holds them once each, in ascending order, whichever
spelling was used, and both searches find the same in it; the order of keywords
is total and takes only the same keywords for equal.  Every list of keywords
makes such a set, and every message of a loaded account has one.  Of such a
message the filter for a state, the property that shows it and the filters for
its keyword say the same, and filters pass over the transient keywords in any
letter case.
-/
theorem flag_tests_agree :
    (∀ names set, KeywordSet.ofNames names = .ok set → set.Collects names) ∧
    Std.TransCmp Keyword.compare ∧
    (∀ left right : Keyword, left.compare right = .eq ↔
      left.same right = true) ∧
    (∀ set : KeywordSet, set.Ascending ↔ ∃ keywords,
      KeywordSet.ofList keywords = set) ∧
    (∀ (file : SnapshotFile) account id message, file.load = .ok account →
      account.message? id = some message →
        message.keywords.Ascending ∧ message.body.IsReadable) ∧
    ∀ index limit candidate,
      (candidate.message.keywords.Ascending → ∀ flag wanted, ∃ found,
        Flag.Agrees index limit candidate flag wanted found) ∧
      ∀ name, (∃ known ∈ Keyword.transient, Text.sameAscii name known = true) →
        Answers index limit candidate (.obj [("hasKeyword", .str name)]) true ∧
          Answers index limit candidate (.obj [("notKeyword", .str name)])
            true := by
  refine ⟨fun names set => KeywordSet.collects_of_ofNames, inferInstance,
    fun left right => Keyword.compare_eq_eq_iff, fun set =>
      KeywordSet.ascending_iff,
    fun file account id message loads =>
      SnapshotFile.ascending_and_readable_of_load loads,
    fun index limit candidate => ⟨?_, ?_⟩⟩
  · exact fun ascending flag wanted =>
      ⟨_, Flag.agrees ascending index limit flag wanted⟩
  · rintro name ⟨known, isTransient, same⟩
    exact answers_transient index limit candidate isTransient same

open Query in
/--
Names that are repeated in another letter case make one keyword, and a message
with such keywords that is loaded from a snapshot is not unread for any test.
-/
theorem flags_of_detailed_agree :
    ∃ set account,
      KeywordSet.ofNames ["$seen", "$Flagged", "$SEEN"] = .ok set ∧
      set.Collects ["$seen", "$Flagged", "$SEEN"] ∧
      (SnapshotFile.inFolder (SnapshotFile.folderWithRaw SnapshotFile.detailed
        SnapshotFile.onDisk) "s.json").load = .ok account ∧
      account.message? "m" = some SnapshotFile.detailedMessage ∧
      ∀ index limit mailboxes,
        Flag.Agrees index limit ⟨SnapshotFile.detailedMessage, mailboxes⟩
          .unread true false ∧
        Answers index limit ⟨SnapshotFile.detailedMessage, mailboxes⟩
          (.obj [("notKeyword", .str "$DELETED")]) true := by
  obtain ⟨collects, -, -, -, ofLoaded, agree⟩ := flag_tests_agree
  have made :
      (KeywordSet.ofNames ["$seen", "$Flagged", "$SEEN"]).toOption.isSome
      = true := by
    decide +kernel
  obtain ⟨set, isMade⟩ := Option.isSome_iff_exists.mp made
  have isMade := Outcome.eq_ok_of_toOption isMade
  have isShown : (SnapshotFile.inFolder (SnapshotFile.folderWithRaw
      SnapshotFile.detailed SnapshotFile.onDisk) "s.json").shown
        (fun account => account.message? "m") =
      some (some SnapshotFile.detailedMessage) := by
    decide +kernel
  obtain ⟨account, loads, isMessage⟩ :=
    SnapshotFile.exists_load_of_shown isShown
  obtain ⟨ascending, readable⟩ := ofLoaded _ _ _ _ loads isMessage
  refine ⟨set, account, isMade, collects _ _ isMade, loads, isMessage,
    fun index limit mailboxes => ?_⟩
  obtain ⟨tests, transient⟩ :=
    agree index limit ⟨SnapshotFile.detailedMessage, mailboxes⟩
  obtain ⟨found, agrees⟩ := tests ascending .unread true
  -- The projection shows the answer that all tests give.
  obtain ⟨members, projected, shows⟩ :=
    @Flag.Agrees.shown _ _ _ _ _ _ agrees .all rfl (fun _ => readable) 256
  rw [Projection.get?_project_name projected Flag.property_ne_headers,
    if_pos (Selection.contains_all _), Flag.value_property] at shows
  have isFalse : found = false := by
    cases found with
    | false => rfl
    | true => cases shows.mp rfl
  rw [isFalse] at agrees
  exact ⟨agrees, (transient "$DELETED"
    ⟨"$Deleted", by decide, by decide +kernel⟩).2⟩

end Store
end MailSearch
