import MailSearch.Proofs.Calendar.Internet
import MailSearch.Proofs.Data.Outcome
import MailSearch.Proofs.Json.Value
import MailSearch.Proofs.Mail.Keyword
import MailSearch.Query.Predicate

/-!
# Values of properties

Every property of a condition takes values of one shape, and each value of that
shape stands for one predicate.  The table lists the properties with their
shapes; a property is decoded exactly if it is listed and its value has the
shape.
-/

namespace MailSearch
namespace Query

/-- What the value of a property is, and how a predicate is made of it. -/
inductive Shape where
  /-- A list of identifiers of mailboxes. -/
  | mailboxes (make : IdSet -> Predicate)
  /-- A date. -/
  | date (make : Calendar.Instant -> Predicate)
  /-- A size. -/
  | size (make : Nat -> Predicate)
  /-- A truth value. -/
  | boolean (make : Bool -> Predicate)
  /-- A text. -/
  | text (make : String -> Predicate)
  /-- The name of a field and a text. -/
  | pair (make : String -> String -> Predicate)
  /-- The name of a keyword. -/
  | keyword (make : Keyword -> Predicate)

/-- The properties of conditions. -/
def shapes : List (String × Shape) :=
  [("inMailboxes", .mailboxes .inMailboxes),
    ("notInMailboxes", .mailboxes .notInMailboxes),
    ("before", .date .before),
    ("after", .date .after),
    ("minSize", .size .largerThan),
    ("maxSize", .size .smallerThan),
    ("isUnread", .boolean (.flag .unread)),
    ("isFlagged", .boolean (.flag .flagged)),
    ("isAnswered", .boolean (.flag .answered)),
    ("isDraft", .boolean (.flag .draft)),
    ("isForwarded", .boolean (.flag .forwarded)),
    ("hasAttachment", .boolean .hasAttachment),
    ("text", .text .text),
    ("body", .text .body),
    ("attachments", .text .attachmentText),
    ("from", .text (.field .sender)),
    ("to", .text (.field .recipient)),
    ("cc", .text (.field .copy)),
    ("bcc", .text (.field .blindCopy)),
    ("subject", .text (.field .subject)),
    ("attachmentFileName", .text .filename),
    ("header", .pair .header),
    ("hasKeyword", .keyword .hasKeyword),
    ("notKeyword", .keyword .notKeyword)]

/-- A value of a shape stands for a predicate. -/
inductive Shape.Reads : Shape -> Json -> Predicate -> Prop where
  /-- A list of texts stands for the set of these identifiers. -/
  | mailboxes {make : IdSet -> Predicate} (ids : List String) :
      Reads (.mailboxes make) (Json.strings ids) (make (.ofList ids))
  /-- A text of RFC 3339 stands for the instant that it denotes. -/
  | date {make : Calendar.Instant -> Predicate} {text : String}
      {instant : Calendar.Instant}
      (denotes : Calendar.InternetText instant text.toList) :
      Reads (.date make) (.str text) (make instant)
  /-- A whole number of 64 bits stands for itself. -/
  | size {make : Nat -> Predicate} {size : Nat} (fits : size < 2 ^ 64) :
      Reads (.size make) (.nat size) (make size)
  /-- A truth value stands for itself. -/
  | boolean {make : Bool -> Predicate} (value : Bool) :
      Reads (.boolean make) (.bool value) (make value)
  /-- A text stands for itself. -/
  | text {make : String -> Predicate} (value : String) :
      Reads (.text make) (.str value) (make value)
  /-- A list of two texts stands for both. -/
  | pair {make : String -> String -> Predicate} (name value : String) :
      Reads (.pair make) (Json.strings [name, value]) (make name value)
  /-- A text of 1 to 255 permitted characters stands for the keyword with this
  name. -/
  | keyword {make : Keyword -> Predicate} (keyword : Keyword) :
      Reads (.keyword make) (.str keyword.name) (make keyword)

/-! ## Decoders of shapes -/

section Decoders

variable {property : String} {value : Json}

theorem Predicate.boolean_eq_ok_iff
    {truth : Bool} :
    Predicate.boolean property value = .ok truth ↔ .bool truth = value := by
  cases value <;> simp [Predicate.boolean, eq_comm]

theorem Predicate.string_eq_ok_iff
    {text : String} :
    Predicate.string property value = .ok text ↔ .str text = value := by
  cases value <;> simp [Predicate.string, eq_comm]

/-- The items of a list of identifiers are texts. -/
theorem Predicate.mapM_mailbox_eq_ok_iff
    {items : List Json}
    {texts : List String} :
    items.mapM (Predicate.mailbox property) = .ok texts ↔
      texts.map Json.str = items := by
  induction items generalizing texts with
  | nil =>
      rw [List.map_eq_nil_iff]
      exact ⟨fun ended => (Except.ok.inj ended).symm, fun none =>
        by rw [none]; rfl⟩
  | cons item rest inductionHypothesis =>
      rw [Outcome.mapM_cons_eq_ok_iff]
      constructor
      · rintro ⟨first, others, decoded, decodedRest, rfl⟩
        cases item with
        | str text =>
            cases decoded
            rw [List.map_cons, inductionHypothesis.mp decodedRest]
        | _ => cases decoded
      · intro split
        obtain ⟨first, others, rfl, rfl, same⟩ := List.map_eq_cons_iff.mp split
        exact ⟨first, others, rfl, inductionHypothesis.mpr same, rfl⟩

theorem Predicate.mailboxes_eq_ok_iff
    {ids : IdSet} :
    Predicate.mailboxes property value = .ok ids ↔
      ∃ texts, Json.strings texts = value ∧ IdSet.ofList texts = ids := by
  cases value with
  | arr items =>
      rw [Predicate.mailboxes, Outcome.map_eq_ok_iff]
      simp only [mapM_mailbox_eq_ok_iff, Json.strings, Json.arr.injEq]
  | _ => simp [Predicate.mailboxes, Json.strings]

theorem Predicate.date_eq_ok_iff
    {instant : Calendar.Instant} :
    Predicate.date property value = .ok instant ↔
      ∃ text, .str text = value ∧
        Calendar.InternetText instant text.toList := by
  cases value with
  | str text =>
      simp only [Predicate.date, Json.str.injEq, exists_eq_left,
        ← Calendar.ofInternet_eq_ok_iff]
      cases Calendar.ofInternet text.toList <;> simp
  | _ => simp [Predicate.date]

theorem Predicate.size_eq_ok_iff
    {size : Nat} :
    Predicate.size property value = .ok size ↔ size < 2 ^ 64 ∧
      .nat size = value := by
  cases value with
  | int number =>
      rw [Predicate.size, Outcome.ite_eq_ok_iff, Json.nat, Json.int.injEq]
      unfold greatestSize
      omega
  | _ => simp [Predicate.size, Json.nat]

theorem Predicate.keyword_eq_ok_iff
    {keyword : Keyword} :
    Predicate.keyword property value = .ok keyword ↔
      .str keyword.name = value := by
  cases value with
  | str name =>
      rw [Json.str.injEq, ← Keyword.ofName?_eq_some_iff]
      simp only [Predicate.keyword, Predicate.string, bind, Except.bind]
      cases Keyword.ofName? name <;> simp
  | _ =>
      constructor
      all_goals
        intro absurd
        cases absurd

end Decoders

/-- Decode a list of exactly two texts. -/
def decodePair (make : String -> String -> Predicate) :
    Json -> Except Invalid Predicate
  | .arr [.str name, .str content] => .ok (make name content)
  | _ => .error .headerPair

/-- Decode a value of a shape. -/
def Shape.decode (shape : Shape) (property : String) (value : Json) :
    Except Invalid Predicate :=
  match shape with
  | .mailboxes make => (Predicate.mailboxes property value).map make
  | .date make => (Predicate.date property value).map make
  | .size make => (Predicate.size property value).map make
  | .boolean make => (Predicate.boolean property value).map make
  | .text make => (Predicate.string property value).map make
  | .pair make => decodePair make value
  | .keyword make => (Predicate.keyword property value).map make

/-- Properties are decoded by the table. -/
theorem Predicate.ofProperty_eq
    (property : String)
    (value : Json) :
    ofProperty property value =
      match shapes.lookup property with
      | some shape => shape.decode property value
      | none => .error (.unknownCondition property) := by
  unfold ofProperty
  split
  case h_25 =>
    have unlisted : shapes.lookup property = none := by
      rw [List.lookup_eq_none_iff]
      simp_all [shapes]
    rw [unlisted]
  all_goals rfl

/-- A value is decoded if it has the shape. -/
theorem Shape.decode_eq_ok_iff
    {shape : Shape}
    {property : String}
    {value : Json}
    {predicate : Predicate} :
    shape.decode property value = .ok predicate ↔
      shape.Reads value predicate := by
  cases shape with
  | mailboxes make =>
      simp only [decode, Outcome.map_eq_ok_iff, Predicate.mailboxes_eq_ok_iff]
      constructor
      · rintro ⟨_, ⟨ids, rfl, rfl⟩, rfl⟩
        exact .mailboxes ids
      · intro reads
        cases reads with
        | mailboxes ids => exact ⟨_, ⟨ids, rfl, rfl⟩, rfl⟩
  | date make =>
      simp only [decode, Outcome.map_eq_ok_iff, Predicate.date_eq_ok_iff]
      constructor
      · rintro ⟨_, ⟨text, rfl, denotes⟩, rfl⟩
        exact .date denotes
      · intro reads
        cases reads with
        | date denotes => exact ⟨_, ⟨_, rfl, denotes⟩, rfl⟩
  | size make =>
      simp only [decode, Outcome.map_eq_ok_iff, Predicate.size_eq_ok_iff]
      constructor
      · rintro ⟨_, ⟨fits, rfl⟩, rfl⟩
        exact .size fits
      · intro reads
        cases reads with
        | size fits => exact ⟨_, ⟨fits, rfl⟩, rfl⟩
  | boolean make =>
      simp only [decode, Outcome.map_eq_ok_iff, Predicate.boolean_eq_ok_iff]
      constructor
      · rintro ⟨truth, rfl, rfl⟩
        exact .boolean truth
      · intro reads
        cases reads with
        | boolean truth => exact ⟨truth, rfl, rfl⟩
  | text make =>
      simp only [decode, Outcome.map_eq_ok_iff, Predicate.string_eq_ok_iff]
      constructor
      · rintro ⟨text, rfl, rfl⟩
        exact .text text
      · intro reads
        cases reads with
        | text text => exact ⟨text, rfl, rfl⟩
  | pair make =>
      constructor
      · intro decoded
        change decodePair make value = .ok predicate at decoded
        unfold decodePair at decoded
        split at decoded
        · cases decoded
          exact .pair _ _
        · cases decoded
      · intro reads
        cases reads with
        | pair name content => rfl
  | keyword make =>
      simp only [decode, Outcome.map_eq_ok_iff, Predicate.keyword_eq_ok_iff]
      constructor
      · rintro ⟨keyword, rfl, rfl⟩
        exact .keyword keyword
      · intro reads
        cases reads with
        | keyword keyword => exact ⟨keyword, rfl, rfl⟩

/-- A property is decoded if it is listed and its value has the listed shape. -/
theorem Predicate.ofProperty_eq_ok_iff
    {property : String}
    {value : Json}
    {predicate : Predicate} :
    ofProperty property value = .ok predicate ↔
      ∃ shape, shapes.lookup property = some shape ∧
        shape.Reads value predicate := by
  rw [ofProperty_eq]
  cases shapes.lookup property with
  | none => exact ⟨nofun, fun ⟨_, absurd, _⟩ => nomatch absurd⟩
  | some shape =>
      simp only [Option.some.injEq, exists_eq_left', Shape.decode_eq_ok_iff]

/-! ## Sorted keys -/

/-- Sorting keys changes no value that stands for a predicate. -/
theorem Shape.reads_sortKeys_iff
    {shape : Shape}
    {value : Json}
    {predicate : Predicate} :
    shape.Reads value.sortKeys predicate ↔ shape.Reads value predicate := by
  constructor
  · generalize sorted : value.sortKeys = given
    intro reads
    cases reads with
    | mailboxes ids =>
        cases Json.eq_strings_of_sortKeys sorted
        exact .mailboxes ids
    | date denotes =>
        cases Json.eq_of_sortKeys sorted nofun nofun
        exact .date denotes
    | size fits =>
        cases Json.eq_of_sortKeys sorted nofun nofun
        exact .size fits
    | boolean truth =>
        cases Json.eq_of_sortKeys sorted nofun nofun
        exact .boolean truth
    | text text =>
        cases Json.eq_of_sortKeys sorted nofun nofun
        exact .text text
    | pair name content =>
        cases Json.eq_strings_of_sortKeys sorted
        exact .pair name content
    | keyword keyword =>
        cases Json.eq_of_sortKeys sorted nofun nofun
        exact .keyword keyword
  · intro reads
    cases reads with
    | mailboxes ids =>
        rw [Json.sortKeys_strings]
        exact .mailboxes ids
    | date denotes => exact .date denotes
    | size fits => exact .size fits
    | boolean truth => exact .boolean truth
    | text text => exact .text text
    | pair name content =>
        rw [Json.sortKeys_strings]
        exact .pair name content
    | keyword keyword => exact .keyword keyword

end Query
end MailSearch
