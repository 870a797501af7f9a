import MailSearch.Proofs.Json.Decode

/-!
# Members of records

A record takes up its members one after the other, each by its name and only
once.  So a place of the record holds in the end what the member with its name
was decoded to, and nothing if there is no such member.  A list stands for the
object with the names in order.
-/

namespace MailSearch
namespace Json

/-! ## One member -/

/-- What a member gives for a name: its value, if it has this name. -/
def given (own name : String) (value : Json) : Option Json :=
  if name = own then some value else none

/-- A place that is looked at holds what it held, or is filled if it was
empty. -/
inductive Fills {β : Type} (decode : Json -> Decoded β) :
    Option Json -> Option β -> Option β -> Prop where
  /-- Nothing is given. -/
  | kept (held : Option β) : Fills decode none held held
  /-- The value that is given is decoded. -/
  | read {value : Json} {meaning : β} (decoded : decode value = .ok meaning) :
      Fills decode (some value) none (some meaning)

section Places

variable {β : Type} {decode : Json -> Decoded β}
  {before between after : Option β}

theorem Fills.of_once
    {name : String}
    {value : Json}
    (isRead : once name before decode value = .ok after) :
    Fills decode (given name name value) before after := by
  rw [given, if_pos rfl]
  cases before with
  | some held => cases isRead
  | none =>
      obtain ⟨meaning, decoded, rfl⟩ := Outcome.exists_of_map_eq_ok isRead
      exact .read decoded

theorem Fills.of_ne
    {own name : String}
    (differs : name ≠ own)
    (value : Json)
    (held : Option β) :
    Fills decode (given own name value) held held := by
  rw [given, if_neg differs]
  exact .kept held

/-- What is given later counts, since a place that is filled is not filled
again. -/
theorem Fills.trans
    {first later : Option Json}
    (fills : Fills decode first before between)
    (fillsLater : Fills decode later between after) :
    Fills decode (later.or first) before after := by
  cases fillsLater with
  | kept => exact fills
  | read decoded =>
      cases fills
      exact .read decoded

end Places

/-! ## All members -/

section Members

variable {α β : Type} {step : α -> String -> Json -> Decoded α}
  {decode : Json -> Decoded β} {own : String} (held : α -> Option β)
  {state found : α}
  (fills : ∀ {state name value next}, step state name value = .ok next →
    Fills decode (given own name value) (held state) (held next))

include fills

/-- If each member fills a place that is its own, so do all members together. -/
theorem fills_of_foldlM
    {members : List (String × Json)}
    (decoded : members.foldlM
        (fun state (name, value) => step state name value) state =
      .ok found) :
    Fills decode (last? own members) (held state) (held found) := by
  induction members generalizing state with
  | nil =>
      cases decoded
      exact .kept _
  | cons member rest inductionHypothesis =>
      obtain ⟨next, isRead, later⟩ := Outcome.exists_of_bind_eq_ok decoded
      exact (fills isRead).trans (inductionHypothesis later)

end Members

/-- A value gives the members of a record, as an object or as a list in the
order of the names. -/
inductive Layout.GivesMembers (layout : Layout) :
    Json -> List (String × Json) -> Prop where
  /-- The members are those of an object. -/
  | object (members : List (String × Json)) :
      GivesMembers layout (.obj members) members
  /-- The values are the items of a list. -/
  | list {items : List Json} (fits : items.length ≤ layout.fields.length) :
      GivesMembers layout (.arr items) (layout.names.zip items)

section Records

variable {α : Type} {layout : Layout} {step : α -> String -> Json -> Decoded α}

/-- Items that are decoded are decoded as members with the names in order. -/
theorem foldlM_zip_of_foldItems
    {fields : List (String × Bool)}
    {items : List Json}
    {total index : Nat}
    {state found : α}
    (decoded : foldItems layout step total index fields items state =
      .ok found) :
    ((fields.map Prod.fst).zip items).foldlM
        (fun state (name, value) => step state name value)
      state = .ok found := by
  induction fields generalizing items index state with
  | nil =>
      cases items with
      | nil => exact decoded
      | cons => cases decoded
  | cons field rest inductionHypothesis =>
      cases items with
      | nil =>
          rw [foldItems] at decoded
          split at decoded
          · have ended := inductionHypothesis decoded
            rwa [List.zip_nil_right] at ended ⊢
          · cases decoded
      | cons item later =>
          rw [foldItems] at decoded
          obtain ⟨next, isRead, decoded⟩ := Outcome.exists_of_bind_eq_ok decoded
          rw [List.map_cons, List.zip_cons_cons, List.foldlM_cons]
          change (step state field.1 item >>= _) = _
          rw [isRead]
          exact inductionHypothesis decoded

/-- A record is decoded from the members that its value gives. -/
theorem exists_members_of_record
    {value : Json}
    {initial found : α}
    (decoded : record layout step initial value = .ok found) :
    ∃ members, layout.GivesMembers value members ∧
      members.foldlM (fun state (name, value) => step state name value)
        initial = .ok found := by
  cases value with
  | obj members => exact ⟨members, .object members, decoded⟩
  | arr items =>
      exact ⟨_, .list (length_le_of_foldItems decoded),
        foldlM_zip_of_foldItems decoded⟩
  | _ => cases decoded

end Records

/-! ## What is found for the values that are given -/

/-- A value that may be absent stands for what its form says, or else for a
default. -/
inductive OrDefault {β : Type} (stands : Json -> β -> Prop) (default : β) :
    Option Json -> β -> Prop where
  /-- Nothing is given. -/
  | absent : OrDefault stands default none default
  /-- The value has the form. -/
  | given {value : Json} {meaning : β} (form : stands value meaning) :
      OrDefault stands default (some value) meaning

section Found

variable {β : Type} {decode : Json -> Decoded β} {stands : Json -> β -> Prop}
  {value : Option Json}

theorem Fills.orDefault
    (decodes : ∀ value meaning, decode value = .ok meaning →
      stands value meaning)
    {found : Option β}
    (fills : Fills decode value none found)
    (default : β) :
    OrDefault stands default value (found.getD default) := by
  cases fills with
  | kept => exact .absent
  | read decoded => exact .given (decodes _ _ decoded)

theorem Fills.optionally
    (decodes : ∀ value meaning, decode value = .ok meaning ↔
      stands value meaning)
    (notNull : ∀ meaning, ¬ stands .null meaning)
    {found : Option (Option β)}
    (fills : Fills (nullable decode) value none found) :
    Optionally stands value found.join := by
  cases fills with
  | kept => exact .absent
  | read decoded => exact (nullable_eq_ok_iff decodes notNull).mp decoded

theorem Fills.of_required
    {name : String}
    {found : Option β}
    (fills : Fills decode value none found)
    {meaning : β}
    (isFound : required name found = .ok meaning) :
    ∃ text, value = some text ∧ decode text = .ok meaning := by
  cases fills with
  | kept => cases isFound
  | read decoded =>
      cases isFound
      exact ⟨_, rfl, decoded⟩

end Found

/-! ## Decoders of values -/

theorem unsigned_eq_ok_iff
    {value : Json}
    {number : Nat} :
    unsigned value = .ok number ↔ value = .nat number := by
  cases value with
  | int found =>
      rw [unsigned, nat, int.injEq]
      split
      · simp only [reduceCtorEq, false_iff]
        omega
      · rw [Except.ok.injEq]
        omega
  | _ => simp [unsigned, nat]

/-- A list is decoded item by item. -/
theorem list_eq_ok_iff
    {β : Type}
    {decode : Json -> Decoded β}
    {value : Json}
    {found : List β} :
    list decode value = .ok found ↔
      ∃ items, value = .arr items ∧
        List.Forall₂
          (fun item meaning => decode item = .ok meaning) items found := by
  cases value <;> simp [list, Outcome.mapM_eq_ok_iff]

end Json
end MailSearch
