import MailSearch.Proofs.Mail.Message
import MailSearch.Proofs.Query.Answering
import MailSearch.Proofs.Query.Asking

/-!
# Pages of one result

A page shows the items whose places lie between its position and its position
plus its limit.  The pages of a request are cut from one listing, so that pages
of one size, one behind the other, show the whole result once.
-/

namespace MailSearch
namespace Query
namespace Page

/-! ## Items between two places -/

/-- The items whose places, counted from zero, lie between two numbers, the
first one included. -/
def window {α : Type} (start stop : Nat) (items : List α) : List α :=
  (items.zipIdx.filter fun item =>
    decide (start ≤ item.2 ∧ item.2 < stop)).map Prod.fst

section Window

variable {α : Type} (position limit : Nat)

/-- With places counted from some number, the items before that number are gone
already. -/
theorem map_filter_zipIdx
    (items : List α)
    (first : Nat) :
    ((items.zipIdx first).filter fun item =>
      decide (position ≤ item.2 ∧ item.2 < position + limit)).map Prod.fst =
        (items.drop (position - first)).take
          (position + limit - max position first) := by
  induction items generalizing first with
  | nil => simp
  | cons item rest inductionHypothesis =>
      rw [List.zipIdx_cons]
      by_cases before : first < position
      · have skips : position - first = position - (first + 1) + 1 := by omega
        have sameMax : max position first = max position (first + 1) := by omega
        rw [List.filter_cons_of_neg (by simp; omega),
          inductionHypothesis, skips, List.drop_succ_cons, sameMax]
      · by_cases within : first < position + limit
        · have starts : position - first = 0 := by omega
          have startsRest : position - (first + 1) = 0 := by omega
          have room : position + limit - max position first =
              position + limit - max position (first + 1) + 1 := by omega
          rw [List.filter_cons_of_pos (by simp; omega), List.map_cons,
            inductionHypothesis, starts, startsRest, room, List.drop_zero,
            List.drop_zero, List.take_succ_cons]
        · have full : position + limit - max position first = 0 := by omega
          have fullRest : position + limit - max position (first + 1) =
              0 := by omega
          rw [List.filter_cons_of_neg (by simp; omega), inductionHypothesis,
            full, fullRest, List.take_zero, List.take_zero]

/-- A page shows the items from its position up to the sum of its position and
its limit. -/
theorem slice_eq_window
    (items : List α) :
    slice position limit items = window position (position + limit) items := by
  have fromStart := map_filter_zipIdx position limit items 0
  rw [Nat.sub_zero, Nat.max_zero, Nat.add_sub_cancel_left] at fromStart
  exact fromStart.symm

end Window

/-! ## Pages one behind the other -/

section Tiling

variable {α β : Type} {items : List α} {position limit : Nat}

theorem map_slice
    (next : α -> β)
    (position limit : Nat)
    (items : List α) :
    (slice position limit items).map next =
      slice position limit (items.map next) := by
  rw [slice, slice, List.map_take, List.map_drop]

theorem map_window
    (position limit : Nat)
    (next : α -> β)
    (items : List α) :
    (window position (position + limit) items).map next =
      window position (position + limit) (items.map next) := by
  rw [← slice_eq_window, ← slice_eq_window, map_slice]

/-- Behind the last item there is nothing to show. -/
theorem slice_eq_nil
    (behind : items.length ≤ position) :
    slice position limit items = [] := by
  rw [slice, List.drop_eq_nil_of_le behind, List.take_nil]

/-- A page that the items fill has as many of them as its limit allows. -/
theorem length_slice
    (filled : position + limit ≤ items.length) :
    (slice position limit items).length = limit := by
  rw [slice, List.length_take, List.length_drop]
  omega

/-- Pages of one size, one behind the other, show the first items. -/
theorem flatMap_slice
    (limit : Nat)
    (items : List α)
    (count : Nat) :
    ((List.range count).flatMap fun number =>
        slice (number * limit) limit items) =
      items.take (count * limit) := by
  induction count with
  | zero => simp
  | succ count inductionHypothesis =>
      rw [List.range_succ, List.flatMap_append, inductionHypothesis,
        List.flatMap_singleton, Nat.succ_mul, List.take_add]
      rfl

end Tiling

/-! ## Numbers of 64 bits -/

/-- The sum of two numbers, or the greatest number if the sum does not fit. -/
def saturatingAdd (left right : UInt64) : UInt64 :=
  if left + right < left then UInt64.ofNat (UInt64.size - 1) else left + right

theorem toNat_saturatingAdd
    (left right : UInt64) :
    (saturatingAdd left right).toNat =
      min (left.toNat + right.toNat) (UInt64.size - 1) := by
  have leftFits : left.toNat < UInt64.size := left.toNat_lt
  have rightFits : right.toNat < UInt64.size := right.toNat_lt
  have sum : (left + right).toNat = (left.toNat + right.toNat) % UInt64.size :=
    UInt64.toNat_add left right
  unfold saturatingAdd
  by_cases wraps : left + right < left
  · have wrapped : (left + right).toNat < left.toNat :=
      UInt64.lt_iff_toNat_lt.mp wraps
    have greatest : (UInt64.ofNat (UInt64.size - 1)).toNat =
        UInt64.size - 1 := rfl
    rw [if_pos wraps, greatest]
    unfold UInt64.size at *
    omega
  · have unwrapped : left.toNat ≤ (left + right).toNat :=
      Nat.le_of_not_lt fun less => wraps (UInt64.lt_iff_toNat_lt.mpr less)
    rw [if_neg wraps]
    unfold UInt64.size at *
    omega

theorem toNat_min
    (left right : UInt64) :
    (min left right).toNat = min left.toNat right.toNat := by
  change (if left ≤ right then left else right).toNat = _
  rw [apply_ite UInt64.toNat, min_def]
  exact if_congr UInt64.le_iff_toNat_le rfl rfl

/-- The places between which the page of a list with some length lies. -/
def borders (length position limit : UInt64) : UInt64 × UInt64 :=
  let start := min position length
  (start, min (saturatingAdd start limit) length)

/-- The places are right although their sum may not fit, since no list is as
long. -/
theorem extract_borders
    {α : Type}
    {items : List α}
    (fits : items.length < UInt64.size)
    (position limit : UInt64) :
    items.extract (borders (.ofNat items.length) position limit).1.toNat
        (borders (.ofNat items.length) position limit).2.toNat =
      slice position.toNat limit.toNat items := by
  have length : (UInt64.ofNat items.length).toNat = items.length :=
    UInt64.toNat_ofNat_of_lt fits
  have start : (borders (.ofNat items.length) position limit).1.toNat =
      min position.toNat items.length := by
    rw [borders, toNat_min, length]
  have stop : (borders (.ofNat items.length) position limit).2.toNat =
      min (min position.toNat items.length + limit.toNat) items.length := by
    rw [borders, toNat_min, toNat_saturatingAdd, toNat_min, length]
    omega
  rw [start, stop, slice_eq_extract, List.extract_eq_take_drop,
    List.extract_eq_take_drop, List.take_eq_take_iff, List.length_drop]
  omega

end Page

/-! ## Pages of one answer -/

namespace Answer

/-- An answer shows the part of a listing between a position and its sum with a
limit. -/
structure PageFrom
    (page : Answer)
    (settings : Settings)
    (request : Request)
    (listed : List Candidate)
    (position limit : Nat) : Prop where
  /-- The page tells its position. -/
  position_eq : page.position = position
  /-- The sort order is that of the request, or else the default. -/
  sort_eq : page.sort = request.sort.getD settings.order
  /-- The total counts the listing. -/
  total_eq : page.total = listed.length
  /-- The page lists the identifiers between the two places. -/
  messageIds_eq : page.messageIds =
    Page.window position (position + limit) (listed.map Candidate.id)
  /-- The messages between the two places are shown, if the client wants to see
  messages. -/
  messages_eq : shownMessages settings request
      (Page.window position (position + limit) listed) =
    some page.messages

/-- An answer shows the whole listing of the candidates that a request
selects. -/
structure Complete
    (whole : Answer)
    (settings : Settings)
    (request : Request)
    (listed : List Candidate) : Prop where
  /-- The sort order is that of the request, or else the default. -/
  sort_eq : whole.sort = request.sort.getD settings.order
  /-- Every candidate stands before the ones behind it. -/
  ordered : listed.Pairwise fun left right => Before left right whole.sort.keys
  /-- The total counts the listing. -/
  total_eq : whole.total = listed.length
  /-- Every identifier of the listing is listed. -/
  messageIds_eq : whole.messageIds = listed.map Candidate.id
  /-- No identifier is listed twice. -/
  nodup : whole.messageIds.Nodup
  /-- Every message of the listing is shown, if the client wants to see
  messages. -/
  messages_eq : shownMessages settings request listed = some whole.messages

/-- An answer shows the part of a whole one between a position and its sum with
a limit. -/
structure PageOf (page whole : Answer) (position limit : Nat) : Prop where
  /-- The page tells its position. -/
  position_eq : page.position = position
  /-- Both tell the same sort order. -/
  sort_eq : page.sort = whole.sort
  /-- Both tell the same total. -/
  total_eq : page.total = whole.total
  /-- The page lists the identifiers between the two places. -/
  messageIds_eq :
    page.messageIds = Page.window position (position + limit) whole.messageIds
  /-- If messages are shown, they are the ones between the two places. -/
  messages_eq :
    page.messages = whole.messages.map (Page.window position (position + limit))

/-- An answer is tiled by its pages with some limit. -/
structure Tiled (whole : Answer) (pages : Nat -> Answer)
    (limit : Nat) : Prop where
  /-- At every position there is a page. -/
  pageOf : ∀ position, (pages position).PageOf whole position limit
  /-- A page that the answer fills has as many identifiers as the limit
  allows. -/
  filled : ∀ number, (number + 1) * limit ≤ whole.total →
    (pages (number * limit)).messageIds.length = limit
  /-- Behind the total nothing is listed and nothing shown. -/
  behind : ∀ position, whole.total ≤ position →
    (pages position).messageIds = [] ∧ (pages position).messages.getD [] = []
  /-- The pages one behind the other list the identifiers of the answer. -/
  messageIds_eq : ∀ count, whole.total ≤ count * limit →
    ((List.range count).flatMap fun number =>
        (pages (number * limit)).messageIds) =
      whole.messageIds
  /-- The pages one behind the other show the messages of the answer. -/
  messages_eq : ∀ count, whole.total ≤ count * limit →
    ((List.range count).flatMap fun number =>
        (pages (number * limit)).messages.getD []) =
      whole.messages.getD []

section Listed

variable {settings : Settings} {request : Request}
  {selected listed : List Candidate} {answer page whole : Answer}
  {position limit : Nat}

/-- An answer for selected candidates is a page of their listing. -/
theorem Tells.pageFrom
    (tells : answer.Tells settings request selected) :
    answer.PageFrom settings request
        ((request.sort.getD settings.order).apply selected)
      request.position (request.limit.getD settings.defaultLimit) where
  position_eq := tells.position_eq
  sort_eq := tells.sort_eq
  total_eq := tells.total_eq.trans (List.length_mergeSort selected).symm
  messageIds_eq := by
    rw [tells.messageIds_eq, page, Page.map_slice, Page.slice_eq_window]
  messages_eq := by
    rw [← Page.slice_eq_window]
    exact tells.messages_eq

/-- What a page shows does not depend on the page that the request asks for. -/
theorem PageFrom.of_page
    (shows : answer.PageFrom settings (request.page position limit) listed
      position limit) :
    answer.PageFrom settings request listed position limit :=
  ⟨shows.position_eq, shows.sort_eq, shows.total_eq, shows.messageIds_eq,
    shows.messages_eq⟩

/-- A page from the start with room for all shows the whole listing. -/
theorem PageFrom.complete
    (shows : whole.PageFrom settings request listed 0 listed.length)
    (ordered : listed.Pairwise fun left right =>
      Before left right (request.sort.getD settings.order).keys)
    (once : (listed.map Candidate.id).Nodup) :
    whole.Complete settings request listed := by
  have everything : ∀ {α : Type} (items : List α),
      items.length = listed.length →
      Page.window 0 (0 + listed.length) items = items := by
    intro α items length
    rw [← Page.slice_eq_window, ← length]
    exact List.take_length
  have ids : whole.messageIds = listed.map Candidate.id := by
    rw [shows.messageIds_eq, everything _ (List.length_map _)]
  refine ⟨shows.sort_eq, ?_, shows.total_eq, ids, ?_, ?_⟩
  · rw [shows.sort_eq]
    exact ordered
  · rw [ids]
    exact once
  · rw [← shows.messages_eq, everything listed rfl]

/-- A page of a listing is a page of the answer that shows the whole listing. -/
theorem PageFrom.pageOf
    (shows : page.PageFrom settings request listed position limit)
    (complete : whole.Complete settings request listed) :
    page.PageOf whole position limit where
  position_eq := shows.position_eq
  sort_eq := shows.sort_eq.trans complete.sort_eq.symm
  total_eq := shows.total_eq.trans complete.total_eq.symm
  messageIds_eq := by
    rw [shows.messageIds_eq, complete.messageIds_eq]
  messages_eq := by
    have part := shownMessages_part (Page.window position (position + limit))
      (Page.map_window position limit) complete.messages_eq
    exact Option.some.inj (shows.messages_eq.symm.trans part)

end Listed

section Tiling

variable {page whole : Answer} {pages : Nat -> Answer} {settings : Settings}
  {request : Request} {listed : List Candidate} {position limit : Nat}

theorem Complete.length_messageIds
    (complete : whole.Complete settings request listed) :
    whole.messageIds.length = whole.total := by
  rw [complete.messageIds_eq, complete.total_eq, List.length_map]

theorem Complete.length_messages_le
    (complete : whole.Complete settings request listed) :
    (whole.messages.getD []).length ≤ whole.total := by
  rw [complete.total_eq]
  cases isShown : whole.messages with
  | none => exact Nat.zero_le _
  | some messages =>
      have each :=
        (shownMessages_eq_some_iff.mp complete.messages_eq).2 messages isShown
      have length := congrArg List.length each
      rw [List.length_map, List.length_map] at length
      exact length.ge

/-- A page is cut from the identifiers of the whole answer as from any list. -/
theorem PageOf.messageIds_eq_slice
    (shows : page.PageOf whole position limit) :
    page.messageIds = Page.slice position limit whole.messageIds := by
  rw [shows.messageIds_eq, Page.slice_eq_window]

/-- A page is cut from the messages of the whole answer as from any list. -/
theorem PageOf.messages_eq_slice
    (shows : page.PageOf whole position limit) :
    page.messages.getD [] =
      Page.slice position limit (whole.messages.getD []) := by
  rw [shows.messages_eq, Page.slice_eq_window]
  cases whole.messages <;> rfl

/-- A complete answer is tiled by its pages. -/
theorem Complete.tiled
    (complete : whole.Complete settings request listed)
    (each : ∀ position, (pages position).PageOf whole position limit) :
    whole.Tiled pages limit where
  pageOf := each
  filled number filled := by
    rw [(each _).messageIds_eq_slice]
    refine Page.length_slice ?_
    rw [complete.length_messageIds, ← Nat.succ_mul]
    exact filled
  behind position behind := by
    rw [(each _).messageIds_eq_slice, (each _).messages_eq_slice]
    exact ⟨Page.slice_eq_nil (complete.length_messageIds.trans_le behind),
      Page.slice_eq_nil (complete.length_messages_le.trans behind)⟩
  messageIds_eq count all := by
    simp only [(each _).messageIds_eq_slice, Page.flatMap_slice]
    exact List.take_of_length_le (complete.length_messageIds.trans_le all)
  messages_eq count all := by
    simp only [(each _).messages_eq_slice, Page.flatMap_slice]
    exact List.take_of_length_le (complete.length_messages_le.trans all)

end Tiling

end Answer

/-- The candidates that a query selects do not depend on the page that it asks
for. -/
theorem Engine.exists_selected
    {engine : Engine}
    {principal : String}
    {request : Request}
    {reply : Attempt Answer}
    (replied : engine.execute principal request = .ok reply) :
    ∃ selected, (selected.Pairwise fun left right => left.id < right.id) ∧
      reply = Answer.ofSelected engine.settings request selected ∧
      (engine.IsReadable → ∀ candidate ∈ selected,
        candidate.message.body.IsReadable) ∧
      ∀ position limit, engine.execute principal (request.page position limit) =
        .ok (Answer.ofSelected engine.settings (request.page position limit)
          selected) := by
  cases found : engine.candidates principal request.filter with
  | error error =>
      rw [execute_of_candidates_error found] at replied
      cases replied
  | ok candidates =>
      rw [execute_of_candidates found] at replied
      obtain ⟨selected, chosen, rfl⟩ := Outcome.exists_of_map_eq_ok replied
      have isPart := sublist_of_choose_eq_ok chosen
      refine ⟨selected, (pairwise_candidates found).sublist isPart, rfl,
        fun readable candidate isSelected =>
          readable_of_candidates readable found candidate
            (isPart.subset isSelected),
        fun position limit => ?_⟩
      have foundForPage :
          engine.candidates principal (request.page position limit).filter =
            .ok candidates := found
      rw [execute_of_candidates foundForPage]
      change (choose (fun candidate =>
          Filter.evaluate? engine.index candidate request.filter)
        candidates).map _ = _
      rw [chosen]
      rfl

/-- What can be shown page by page, with pages of one size, can be shown as a
whole. -/
theorem Request.canShow_of_pages
    {settings : Settings}
    {request : Request}
    {items : List Candidate}
    {limit : Nat}
    (room : 0 < limit)
    (each : ∀ number, request.CanShow settings
      (Page.window (number * limit) (number * limit + limit) items)) :
    request.CanShow settings items := by
  intro fetched candidate isItem
  have enough : items.length ≤ items.length * limit :=
    Nat.le_mul_of_pos_right _ room
  rw [← List.take_of_length_le enough, ← Page.flatMap_slice] at isItem
  obtain ⟨number, -, isOnPage⟩ := List.mem_flatMap.mp isItem
  rw [Page.slice_eq_window] at isOnPage
  exact each number fetched candidate isOnPage

namespace Shelf

/-- The candidates, of which all but the first have the same size. -/
def candidates : List Candidate :=
  [⟨.bare "m1" ["inbox"] 20, .ofList ["inbox"]⟩,
    ⟨.bare "m2" ["inbox"] 10, .ofList ["inbox"]⟩,
    ⟨.bare "m3" ["inbox"] 10, .ofList ["inbox"]⟩,
    ⟨.bare "m4" ["inbox"] 10, .ofList ["inbox"]⟩,
    ⟨.bare "m5" ["inbox"] 10, .ofList ["inbox"]⟩]

/-- An engine that lists the messages backwards, with the greatest limit of 64
bits by default. -/
def engine : Engine where
  visible _ := .ok (.ofList ["inbox"])
  listing _ := .ok (candidates.reverse.map Candidate.message)
  index _ _ _ := .ok true
  settings := { Settings.standard with defaultLimit := UInt64.size - 1 }

/-- The members of a request for the largest messages, from the fourth one
on. -/
def members : List (String × Json) :=
  [("fetchMessageProperties", Json.strings ["id"]),
    ("fetchMessages", .bool true), ("position", .nat 3),
    ("sort", Json.strings ["size"])]

/-- All messages can be shown as text. -/
theorem engine_isReadable : engine.IsReadable := by
  rintro mailboxes messages lists
  cases lists
  unfold Body.IsReadable
  decide

end Shelf

end Query
end MailSearch
